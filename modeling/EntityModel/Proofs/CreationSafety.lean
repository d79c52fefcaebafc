import EntityModel.Proofs.Consistency

/-!
# Creation safety

From the declarations to the order of the result: an entity that refers to another one, under
whatever spelling, comes after it, but for the references that are reported as dropped. Such a
reference closes a cycle of references, so that entities without cycles are all in order.
-/

namespace EntityModel

open Outcome CreationOrder

variable {entities : List Entity} {d : Directory} {s t : String}

/-- The entity of the first name refers to the one of the second, another one. -/
def Refers (entities : List Entity) (d : Directory) (s t : String) : Prop :=
  t ≠ s ∧ ∃ e ∈ entities, e.name = .text s ∧
    ∃ written, e.PointsAt written ∧ d.resolve written = some t

namespace AnalysisResult

namespace Presents

variable {analyzed : List Schema} {cycles : List Diagnostic} {result : AnalysisResult}

/-- The schemas depend on each other as the entities refer to each other. -/
lemma dependsOn_iff (h : Presents d analyzed cycles result) (lists : d.Lists entities) :
    DependsOn analyzed s t ↔ Refers entities d s t := by
  constructor
  · rintro ⟨schema, mem, rfl, depends⟩
    obtain ⟨entry, isEntry, describes⟩ := exists_of_mem_right h.described mem
    rw [describes.name]
    obtain ⟨other, refers⟩ := ((describes.dependsOn.mem t).1 depends).resolve_left List.not_mem_nil
    exact ⟨other, entry.2, lists.mem_entities isEntry, lists.named entry isEntry, refers⟩
  · rintro ⟨other, e, mem, named, refers⟩
    obtain ⟨name, isEntry⟩ := lists.exists_entry mem
    obtain rfl : name = s := by simpa [named] using (lists.named _ isEntry).symm
    obtain ⟨schema, isSchema, describes⟩ := exists_of_mem_left h.described isEntry
    exact ⟨schema, isSchema, describes.name, (describes.dependsOn.mem t).2 (.inr ⟨other, refers⟩)⟩

lemma nodup_names (h : Presents d analyzed cycles result) (lists : d.Lists entities) :
    (result.schemas.map (·.name)).Nodup := by
  rw [(h.sorted.perm.map _).nodup_iff, Schema.map_name_of_describes h.described]
  exact lists.distinct

/-- The edges are read off the diagnostics that report them. -/
lemma cycleEdges_map_circular {edges : List (String × String)}
    (given : ∀ edge ∈ edges, edge.2 ≠ "") :
    cycleEdges (edges.map fun edge => circular edge.1 edge.2) =
      edges.map fun edge => (.text edge.1, .text edge.2) := by
  induction edges with
  | nil => rfl
  | cons edge rest ih =>
    obtain ⟨first, others⟩ := List.forall_mem_cons.1 given
    rw [List.map_cons, List.map_cons, ← ih others, ← List.singleton_append, cycleEdges_append]
    simp [cycleEdges, circular, Value.isGiven, Scalar.isGiven, first]

/-- The edges that the diagnostics of the result report are those that the search has dropped. -/
lemma cycleEdges_eq (h : Presents d analyzed cycles result) (lists : d.Lists entities)
    (named : ∀ e ∈ entities, e.name.isGiven = true) :
    cycleEdges result.diagnostics = (dropped cycles).map fun edge =>
    (.text edge.1, .text edge.2) := by
  have given : ∀ edge ∈ dropped cycles, edge.2 ≠ "" := by
    intro edge mem
    have refers := (h.dependsOn_iff lists).1 (h.sorted.closing edge mem).listed
    obtain ⟨_, _, _, _, written, _, meant⟩ := refers
    obtain ⟨e, isEntity, name⟩ := lists.mem_names.1 (lists.resolve_mem meant)
    have given := named e isEntity
    rw [name] at given
    simpa [Value.isGiven, Scalar.isGiven] using given
  rw [h.edges, ← cycleEdges_map_circular given, ← h.sorted.reported]

/-- A reference is either reported as dropped or kept by the order. -/
lemma precedes_iff (h : Presents d analyzed cycles result) (lists : d.Lists entities)
    (named : ∀ e ∈ entities, e.name.isGiven = true) (refers : Refers entities d s t) :
    Precedes result.schemas t s ↔ (Value.text s, Value.text t) ∉ cycleEdges result.diagnostics := by
  have reported : (Value.text s, Value.text t) ∈ cycleEdges result.diagnostics ↔
      (s, t) ∈ dropped cycles := by
    rw [h.cycleEdges_eq lists named]
    simp
  rw [reported]
  constructor
  · intro precedes mem
    have behind := (h.sorted.closing _ mem).behind.resolve_left refers.1
    exact precedes.asymm (h.nodup_names lists) behind
  · obtain ⟨schema, isSchema, rfl, depends⟩ := (h.dependsOn_iff lists).2 refers
    exact ((h.sorted.followed schema isSchema).settled t depends).resolve_left

/-- What is reported as dropped is a reference, and its target leads back to where it starts. -/
lemma cycle_of_mem_cycleEdges (h : Presents d analyzed cycles result) (lists : d.Lists entities)
    (named : ∀ e ∈ entities, e.name.isGiven = true) {edge : Value × Value}
    (mem : edge ∈ cycleEdges result.diagnostics) :
    ∃ s t, edge = (.text s, .text t) ∧
      Refers entities d s t ∧ Relation.TransGen (Refers entities d) t s := by
  rw [h.cycleEdges_eq lists named] at mem
  obtain ⟨⟨s, t⟩, isDropped, rfl⟩ := List.mem_map.1 mem
  have closing := h.sorted.closing _ isDropped
  refine ⟨s, t, rfl, (h.dependsOn_iff lists).1 closing.listed, ?_⟩
  exact Relation.TransGen.mono (fun _ _ => (h.dependsOn_iff lists).1) _ _ closing.cycle

end Presents

/-- In the result of a run each entity comes after the entities that it refers to, but for the
references that are reported as dropped, and these close cycles. Without cycles every reference is
kept. There is a result as soon as all bounds are finite numbers. -/
theorem analyze_precedes_unless_dropped (typed : ∀ e ∈ entities, e.WellTyped Value.IsNumber)
    (distinct : (entities.map (·.name)).Nodup) (options : Options) :
    ∃ d, Directory.build entities options = .ok d ∧
      ((∀ e ∈ entities, e.WellTyped Value.IsFinite) →
        ∃ result, analyze entities options = .ok result) ∧
      ∀ result, analyze entities options = .ok result →
        (∀ s t, Refers entities d s t →
          (Precedes result.schemas t s ↔
            (Value.text s, Value.text t) ∉ cycleEdges result.diagnostics)) ∧
        (∀ edge ∈ cycleEdges result.diagnostics, ∃ s t, edge = (.text s, .text t) ∧
          Refers entities d s t ∧ Relation.TransGen (Refers entities d) t s) ∧
        ((∀ s, ¬ Relation.TransGen (Refers entities d) s s) →
          cycleEdges result.diagnostics = [] ∧
          ∀ s t, Refers entities d s t → Precedes result.schemas t s) := by
  obtain ⟨d, built, lists, ensures⟩ := analyze_ensures (fun _ => Value.IsNumber.readable) typed
    distinct options
  have named : ∀ e ∈ entities, e.name.isGiven = true := fun e mem => (typed e mem).named
  refine ⟨d, built, fun finite => exists_analyze finite distinct options, ?_⟩
  intro result ok
  obtain ⟨analyzed, cycles, presents⟩ := ensures.of_eq_ok ok
  refine ⟨?_, ?_, fun acyclic => ?_⟩
  · intro s t refers
    exact presents.precedes_iff lists named refers
  · intro edge mem
    exact presents.cycle_of_mem_cycleEdges lists named mem
  · have none : cycleEdges result.diagnostics = [] := by
      refine List.eq_nil_iff_forall_not_mem.2 fun edge mem => ?_
      obtain ⟨s, t, _, refers, back⟩ := presents.cycle_of_mem_cycleEdges lists named mem
      exact acyclic s (.head refers back)
    refine ⟨none, fun s t refers => ?_⟩
    rw [presents.precedes_iff lists named refers, none]
    exact List.not_mem_nil

lemma tangled_edges : (analyze tangled {}).toOption.map (fun result =>
      (cycleEdges result.diagnostics).map fun edge => (edge.1.text?, edge.2.text?)) =
    some [(some "team", some "user")] := by
  decide +kernel

lemma tangled_resolve :
    (Directory.build tangled {}).toOption.bind (·.resolve "Users") = some "user" := by
  decide +kernel

/-- The user comes before the post that refers to it, and the cycle is that of user and team. -/
theorem analyze_tangled_precedes :
    ∃ d result, Directory.build tangled {} = .ok d ∧ analyze tangled {} = .ok result ∧
      Precedes result.schemas "user" "post" ∧
      Relation.TransGen (Refers tangled d) "user" "team" := by
  obtain ⟨d, built, answer, safe⟩ := analyze_precedes_unless_dropped tangled_wellTyped
    tangled_distinct {}
  obtain ⟨result, ok⟩ := answer tangled_wellTyped
  obtain ⟨kept, closed, _⟩ := safe result ok
  have resolved := tangled_resolve
  rw [built] at resolved
  have refers : Refers tangled d "post" "user" := by
    refine ⟨by simp, _, List.mem_cons_self, rfl, "Users",
      .inl ⟨_, List.mem_cons_self, ?_⟩, resolved⟩
    exact ⟨by decide +kernel, rfl⟩
  have edges := tangled_edges
  rw [ok] at edges
  obtain ⟨edge, only, ends⟩ := List.map_eq_singleton_iff.1 (Option.some.inj edges)
  obtain ⟨s, t, rfl, _, back⟩ := closed edge (only ▸ List.mem_cons_self)
  obtain ⟨rfl, rfl⟩ : s = "team" ∧ t = "user" := by simpa [Value.text?] using ends
  refine ⟨d, result, built, ok, (kept _ _ refers).2 ?_, back⟩
  simp [only]

end AnalysisResult

end EntityModel
