import EntityModel.Proofs.CreationOrder.Invariant
import Mathlib.Data.List.Nodup

/-!
# The creation order

For schemas of distinct names whose dependencies are all among them the search succeeds. Its order
is a permutation of the schemas in which every dependency precedes the schemas that list it, but for
those that are reported; and exactly the dependencies that do not precede their schema are
reported, each of which closes a cycle.
-/

namespace EntityModel.CreationOrder

variable {schemas order : List Schema} {diagnostics : List Diagnostic}

/-- What an order of schemas and the diagnostics on it have to be. -/
structure Sorted (schemas order : List Schema) (diagnostics : List Diagnostic) : Prop where
  perm : order.Perm schemas
  followed : ∀ schema ∈ schemas,
    Followed order (dropped diagnostics) schema.name schema.dependsOn
  reported : diagnostics = (dropped diagnostics).map fun edge => circular edge.1 edge.2
  closing : ∀ edge ∈ dropped diagnostics, Closing schemas order edge.1 edge.2

/-- Schemas of distinct names are told apart by their names. -/
lemma eq_of_name_eq (distinct : (schemas.map (·.name)).Nodup) {x y : Schema} (hx : x ∈ schemas)
    (hy : y ∈ schemas) (same : x.name = y.name) : x = y :=
  List.inj_on_of_nodup_map distinct hx hy same

/-- No schema besides has the name of one of distinct names. -/
lemma name_notMem {x : Schema} {before after : List Schema}
    (distinct : ((before ++ x :: after).map (·.name)).Nodup) :
    x.name ∉ (before ++ after).map (·.name) := by
  rw [(List.perm_middle.map _).nodup_iff, List.map_cons, List.nodup_cons] at distinct
  exact distinct.1

/-- A search that has finished every schema has put them in order. -/
lemma Invariant.sorted (distinct : (schemas.map (·.name)).Nodup) {final : State}
    (h : Invariant schemas final) (idle : final.stack = [])
    (all : ∀ schema ∈ schemas, schema.name ∈ final.order.map (·.name)) :
    Sorted schemas final.order final.diagnostics := by
  have entered := State.entered_of_idle idle
  have mem : ∀ x, x ∈ final.order ↔ x ∈ schemas := by
    intro x
    refine ⟨fun hx => h.known (entered ▸ hx), fun hx => ?_⟩
    obtain ⟨y, hy, same⟩ := List.mem_map.1 (all x hx)
    rwa [← eq_of_name_eq distinct (h.known (entered ▸ hy)) hx same]
  refine ⟨?_, ?_, h.reported, entered ▸ h.closing⟩
  · have nodup : final.order.Nodup := .of_map (·.name) (entered ▸ h.distinct)
    exact (List.perm_ext_iff_of_nodup nodup (.of_map (·.name) distinct)).2 mem
  · intro x hx
    exact entered ▸ h.finished x ((mem x).2 hx)

lemma find?_ne_none {name : String} (h : name ∈ schemas.map (·.name)) :
    find? schemas name ≠ none := by
  obtain ⟨schema, hSchema, rfl⟩ := List.mem_map.1 h
  simp only [find?, ne_eq, List.find?_eq_none, List.mem_reverse, not_forall]
  exact ⟨schema, hSchema, by simp⟩

/-- The search ends with the schemas in order, or at a dependency that is not among them. -/
lemma sort_ends (distinct : (schemas.map (·.name)).Nodup) :
    (∃ order diagnostics, sort schemas = .ok (order, diagnostics) ∧
      Sorted schemas order diagnostics) ∨
    (∃ schema ∈ schemas, ∃ d ∈ schema.dependsOn, d ∉ schemas.map (·.name) ∧
      sort schemas = .error (dangling schema.name d)) := by
  have opening : ∀ {s : State} {root : Schema}, Invariant schemas s → s.stack = [] →
      root ∈ schemas → s.isFinished root.name = false → Invariant schemas (s.enter root) := by
    intro s root h idle hRoot notFinished
    have notOpen : s.isOpen root.name = false := by simp [State.isOpen, idle]
    exact h.enter hRoot (State.not_mem_entered notOpen notFinished) (by simp [State.enter, idle])
  rcases runAll_ends Invariant.step opening schemas (List.Subset.refl _) {} Invariant.start rfl with
    ⟨final, ok, holds, idle, _, all⟩ |
    ⟨stuck, schema, d, holds, ⟨⟨pending, rest, top⟩, missing⟩, error⟩
  · exact .inl ⟨final.order, final.diagnostics, by rw [sort, ok]; rfl,
      holds.sorted distinct idle all⟩
  · have inSchemas : schema ∈ schemas := holds.known (by simp [State.entered, top])
    obtain ⟨done, listed, _⟩ := holds.opened ⟨schema, d :: pending⟩ (by simp [top])
    have hd : d ∈ schema.dependsOn := by simp [show schema.dependsOn = _ from listed]
    exact .inr ⟨schema, inSchemas, d, hd, fun given => find?_ne_none given missing,
      by rw [sort, error]; rfl⟩

/-- Schemas of distinct names whose dependencies are all among them can be put in order. -/
theorem sort_sorted (distinct : (schemas.map (·.name)).Nodup)
    (known : ∀ schema ∈ schemas, ∀ d ∈ schema.dependsOn, d ∈ schemas.map (·.name)) :
    ∃ order diagnostics, sort schemas = .ok (order, diagnostics) ∧
      Sorted schemas order diagnostics := by
  rcases sort_ends distinct with sorted | ⟨schema, inSchemas, d, listed, unknown, _⟩
  · exact sorted
  · exact absurd (known schema inSchemas d listed) unknown

lemma sorted_of_sort (distinct : (schemas.map (·.name)).Nodup)
    (ok : sort schemas = .ok (order, diagnostics)) : Sorted schemas order diagnostics := by
  rcases sort_ends distinct with ⟨order', diagnostics', ok', sorted⟩ | ⟨_, _, _, _, _, error⟩
  · obtain ⟨rfl, rfl⟩ := Prod.mk.inj (Except.ok.inj (ok'.symm.trans ok))
    exact sorted
  · cases error.symm.trans ok

/-- Only a dangling dependency makes an order impossible. -/
lemma dangling_of_sort (distinct : (schemas.map (·.name)).Nodup) {fault : Fault}
    (error : sort schemas = .error fault) :
    ∃ schema ∈ schemas, ∃ d ∈ schema.dependsOn, d ∉ schemas.map (·.name) ∧
      fault = dangling schema.name d := by
  rcases sort_ends distinct with ⟨_, _, ok, _⟩ | ⟨schema, inSchemas, d, listed, unknown, error'⟩
  · cases ok.symm.trans error
  · exact ⟨schema, inSchemas, d, listed, unknown, Except.error.inj (error.symm.trans error')⟩

/-- Where schemas have been put in order, their dependencies are all among them. -/
lemma Sorted.known (h : Sorted schemas order diagnostics) :
    ∀ schema ∈ schemas, ∀ d ∈ schema.dependsOn, d ∈ schemas.map (·.name) := by
  intro schema mem d listed
  have given {name : String} (inOrder : name ∈ order.map (·.name)) : name ∈ schemas.map (·.name) :=
    (h.perm.map _).subset inOrder
  rcases (h.followed schema mem).settled d listed with isDropped | precedes
  · rcases (h.closing _ isDropped).behind with same | behind
    · exact List.mem_map.2 ⟨schema, mem, same.symm⟩
    · exact given (behind.subset (by simp))
  · exact given (precedes.subset (by simp))

lemma Sorted.exists_circular (h : Sorted schemas order diagnostics) {x : Diagnostic}
    (mem : x ∈ diagnostics) : ∃ edge : String × String, x = circular edge.1 edge.2 := by
  rw [h.reported] at mem
  obtain ⟨edge, _, rfl⟩ := List.mem_map.1 mem
  exact ⟨edge, rfl⟩

/-! ### Dropped dependencies -/

instance (first second : String) : Decidable (Precedes order first second) :=
  inferInstanceAs (Decidable (List.Sublist _ _))

/-- The dependencies of a schema that do not precede it in an order. -/
def droppedOf (order : List Schema) (schema : Schema) : List (String × String) :=
  (schema.dependsOn.filter fun d => ¬ Precedes order d schema.name).map fun d => (schema.name, d)

/-- An edge is dropped of a schema if it is a dependency that does not precede it. -/
lemma mem_droppedOf {schema : Schema} {edge : String × String} :
    edge ∈ droppedOf order schema ↔
      edge.1 = schema.name ∧ edge.2 ∈ schema.dependsOn ∧ ¬ Precedes order edge.2 schema.name := by
  obtain ⟨s, d⟩ := edge
  simp only [droppedOf, List.mem_map, List.mem_filter, decide_eq_true_eq, Prod.mk.injEq]
  constructor
  · rintro ⟨_, ⟨listed, behind⟩, rfl, rfl⟩
    exact ⟨rfl, listed, behind⟩
  · rintro ⟨rfl, listed, behind⟩
    exact ⟨d, ⟨listed, behind⟩, rfl, rfl⟩

lemma nodup_flatMap_droppedOf (distinct : (schemas.map (·.name)).Nodup)
    (single : ∀ schema ∈ schemas, schema.dependsOn.Nodup) :
    (schemas.flatMap (droppedOf order)).Nodup := by
  refine List.nodup_flatMap.2 ⟨fun schema mem => ?_, ?_⟩
  · exact ((single schema mem).filter _).map fun d d' same => (Prod.mk.inj same).2
  · refine (List.pairwise_map.1 distinct).imp fun ne edge first second => ne ?_
    rw [← (mem_droppedOf.1 first).1, (mem_droppedOf.1 second).1]

namespace Sorted

variable (h : Sorted schemas order diagnostics)

include h

/-- No dependency is dropped twice. -/
lemma nodup_dropped (single : ∀ schema ∈ schemas, schema.dependsOn.Nodup) :
    (dropped diagnostics).Nodup := by
  refine List.nodup_iff_count_le_one.2 fun edge => ?_
  by_cases mem : edge ∈ dropped diagnostics
  · -- it is reported no more often than its schema lists it
    obtain ⟨schema, isSchema, name, _⟩ := (h.closing edge mem).listed
    have most := (h.followed schema isSchema).bounded edge.2
    rw [name] at most
    exact most.trans (List.nodup_iff_count_le_one.1 (single schema isSchema) edge.2)
  · simp [List.count_eq_zero.2 mem]

/-- Diagnostics report the edges that are dropped of the schemas, and only these. -/
lemma mem_dropped_iff (distinct : (schemas.map (·.name)).Nodup) {edge : String × String} :
    edge ∈ dropped diagnostics ↔ ∃ schema ∈ order, edge ∈ droppedOf order schema := by
  have orderDistinct : (order.map (·.name)).Nodup := (h.perm.map _).nodup_iff.2 distinct
  constructor
  · intro mem
    have closing := h.closing edge mem
    obtain ⟨schema, isSchema, name, listed⟩ := closing.listed
    refine ⟨schema, h.perm.mem_iff.2 isSchema, mem_droppedOf.2 ⟨name.symm, listed, ?_⟩⟩
    rw [name]
    intro precedes
    have back := precedes.asymm orderDistinct
    rcases closing.behind with same | behind
    · -- no schema precedes itself, for that would go both ways
      rw [same] at precedes back
      exact back precedes
    · exact back behind
  · rintro ⟨schema, mem, isDropped⟩
    obtain ⟨name, listed, behind⟩ := mem_droppedOf.1 isDropped
    have settled := (h.followed schema (h.perm.mem_iff.1 mem)).settled edge.2 listed
    rw [← name] at settled behind
    exact settled.resolve_right behind

/-- What is reported are the dependencies that do not precede the schemas that list them, each
once. -/
theorem dropped_perm (distinct : (schemas.map (·.name)).Nodup)
    (single : ∀ schema ∈ schemas, schema.dependsOn.Nodup) :
    (dropped diagnostics).Perm (order.flatMap (droppedOf order)) := by
  have orderDistinct : (order.map (·.name)).Nodup := (h.perm.map _).nodup_iff.2 distinct
  have orderSingle : ∀ schema ∈ order, schema.dependsOn.Nodup := fun schema mem =>
    single schema (h.perm.mem_iff.1 mem)
  refine (List.perm_ext_iff_of_nodup (h.nodup_dropped single)
    (nodup_flatMap_droppedOf orderDistinct orderSingle)).2 fun edge => ?_
  rw [h.mem_dropped_iff distinct, List.mem_flatMap]

end Sorted

/-- Of each dependency exactly one of two things holds: it is not reported and precedes the schema
that lists it; or it is reported once, does not precede the schema, and leads back to it. Nothing
but dependencies is reported. -/
theorem sort_precedes_xor_dropped (distinct : (schemas.map (·.name)).Nodup)
    (single : ∀ schema ∈ schemas, schema.dependsOn.Nodup)
    (known : ∀ schema ∈ schemas, ∀ d ∈ schema.dependsOn, d ∈ schemas.map (·.name)) :
    ∃ order diagnostics, sort schemas = .ok (order, diagnostics) ∧ order.Perm schemas ∧
      (∀ schema ∈ schemas, ∀ d ∈ schema.dependsOn,
        Xor ((schema.name, d) ∉ dropped diagnostics ∧ d ≠ schema.name ∧
            Precedes order d schema.name)
          ((dropped diagnostics).count (schema.name, d) = 1 ∧
            (d = schema.name ∨ Precedes order schema.name d) ∧
            Relation.TransGen (DependsOn schemas) d schema.name)) ∧
      (diagnostics = (dropped diagnostics).map fun edge => circular edge.1 edge.2) ∧
      ∀ edge ∈ dropped diagnostics, DependsOn schemas edge.1 edge.2 := by
  obtain ⟨order, diagnostics, ok, sorted⟩ := sort_sorted distinct known
  refine ⟨order, diagnostics, ok, sorted.perm, ?_, sorted.reported,
    fun edge hEdge => (sorted.closing edge hEdge).listed⟩
  intro schema hSchema d hd
  have followed := sorted.followed schema hSchema
  have orderDistinct : (order.map (·.name)).Nodup := (sorted.perm.map _).nodup_iff.2 distinct
  by_cases reported : (schema.name, d) ∈ dropped diagnostics
  · have closing := sorted.closing _ reported
    have once : (dropped diagnostics).count (schema.name, d) = 1 := by
      have most := followed.bounded d
      have least := List.count_pos_iff.2 reported
      have listed := List.nodup_iff_count_le_one.1 (single schema hSchema) d
      omega
    exact .inr ⟨⟨once, closing.behind, closing.cycle⟩, fun notReported => notReported.1 reported⟩
  · have precedes := (followed.settled d hd).resolve_left reported
    have other : d ≠ schema.name := by
      rintro rfl
      exact precedes.asymm orderDistinct precedes
    refine .inl ⟨⟨reported, other, precedes⟩, fun once => reported ?_⟩
    exact List.count_pos_iff.1 (once.1 ▸ Nat.one_pos)

/-- Two cycles that share a dependency, one schema that lists itself and one outside. -/
def overlappingCycles : List Schema := [
  { name := "order", dependsOn := ["user", "order"] }, { name := "user", dependsOn := ["team"] },
  { name := "team", dependsOn := ["order", "user"] }, { name := "note", dependsOn := ["team"] }]

/-- All three schemas are in the order, and one dependency on itself is reported once. -/
theorem sort_overlappingCycles :
    ∃ order diagnostics, sort overlappingCycles = .ok (order, diagnostics) ∧
      order.Perm overlappingCycles ∧ (dropped diagnostics).count ("order", "order") = 1 := by
  obtain ⟨order, diagnostics, ok, perm, split, _⟩ :=
    @sort_precedes_xor_dropped overlappingCycles (by decide) (by decide) (by decide)
  refine ⟨order, diagnostics, ok, perm, ?_⟩
  have self :=
    split { name := "order", dependsOn := ["user", "order"] } (by simp [overlappingCycles])
    "order" (by simp)
  rcases self with ⟨⟨_, other, _⟩, _⟩ | ⟨⟨once, _⟩, _⟩
  · exact absurd rfl other
  · exact once

end EntityModel.CreationOrder
