import EntityModel.Proofs.CreationOrder.Steps
import Mathlib.Data.List.Chain

/-!
# The invariant of the search

At every moment of the search the list of schemas that have been reached tells the order to come.
Of each dependency that has been followed it is settled whether it precedes the schema in this list
or has been dropped, and a dropped one closes a cycle: it has a chain of dependencies back to the
schema, which is the part of the stack between the two.
-/

namespace EntityModel.CreationOrder

variable {schemas order order' : List Schema} {a b : String}

/-! ### Order of names -/

/-- A schema of the first name stands before one of the second. -/
def Precedes (order : List Schema) (first second : String) : Prop :=
  [first, second].Sublist (order.map (·.name))

namespace Precedes

lemma mono (h : order.Sublist order') (precedes : Precedes order a b) : Precedes order' a b :=
  List.Sublist.trans precedes (h.map _)

lemma append (ha : a ∈ order.map (·.name)) (hb : b ∈ order'.map (·.name)) :
    Precedes (order ++ order') a b := by
  rw [Precedes, List.map_append]
  exact (List.singleton_sublist.2 ha).append (List.singleton_sublist.2 hb)

/-- Among distinct names no two stand before each other. -/
lemma asymm (distinct : (order.map (·.name)).Nodup) (precedes : Precedes order a b) :
    ¬ Precedes order b a := by
  unfold Precedes at *
  generalize order.map (·.name) = names at *
  induction names with
  | nil => simp at precedes
  | cons name names ih =>
    obtain ⟨new, distinct⟩ := List.nodup_cons.1 distinct
    intro back
    rcases List.sublist_cons_iff.1 precedes with h | ⟨_, h, tail⟩ <;>
      rcases List.sublist_cons_iff.1 back with h' | ⟨_, h', tail'⟩
    · exact ih distinct h h'
    · cases h'
      exact new (h.subset (by simp))
    · cases h
      exact new (h'.subset (by simp))
    · cases h
      cases h'
      exact new (tail.subset (by simp))

end Precedes

/-! ### Dependencies -/

/-- The schema of the first name lists the second among its dependencies. -/
def DependsOn (schemas : List Schema) (first second : String) : Prop :=
  ∃ schema ∈ schemas, schema.name = first ∧ second ∈ schema.dependsOn

/-- The dependency that a diagnostic reports as dropped, with the schema that lists it. -/
def droppedEdge? (d : Diagnostic) : Option (String × String) :=
  match d.kind, d.entity, d.subject with
  | .circularDependency, .text schema, .text dependency => some (schema, dependency)
  | _, _, _ => none

/-- The dependencies that diagnostics report as dropped. -/
def dropped (diagnostics : List Diagnostic) : List (String × String) :=
  diagnostics.filterMap droppedEdge?

@[simp] lemma dropped_nil : dropped [] = [] := rfl

@[simp] lemma dropped_append_circular (diagnostics : List Diagnostic) (a b : String) :
    dropped (diagnostics ++ [circular a b]) = dropped diagnostics ++ [(a, b)] := by
  simp [dropped, droppedEdge?, circular]

/-- What has become of the dependencies `done` of a schema: each of them precedes the schema or has
been dropped, and none has been dropped more often than it is listed. -/
structure Followed (reached : List Schema) (edges : List (String × String)) (name : String)
    (done : List String) : Prop where
  settled : ∀ d ∈ done, (name, d) ∈ edges ∨ Precedes reached d name
  bounded : ∀ d, edges.count (name, d) ≤ done.count d

/-- What a dropped dependency is: one that is listed, that does not precede its schema, and that
leads back to it. -/
structure Closing (schemas reached : List Schema) (name dependency : String) : Prop where
  listed : DependsOn schemas name dependency
  entered : name ∈ reached.map (·.name)
  behind : dependency = name ∨ Precedes reached name dependency
  cycle : Relation.TransGen (DependsOn schemas) dependency name

namespace Followed

variable {reached reached' : List Schema} {edges : List (String × String)} {name : String}
  {done : List String}

lemma mono (h : reached.Sublist reached') (followed : Followed reached edges name done) :
    Followed reached' edges name done where
  settled d hd := (followed.settled d hd).imp_right (Precedes.mono h)
  bounded := followed.bounded

/-- A dependency of another schema makes no difference. -/
lemma drop_other {other : String} (d : String) (ne : other ≠ name)
    (followed : Followed reached edges name done) :
    Followed reached (edges ++ [(other, d)]) name done where
  settled x hx := (followed.settled x hx).imp_left (List.mem_append_left _)
  bounded x := by
    have absent : (name, x) ∉ [(other, d)] := by simp [ne.symm]
    rw [List.count_append, List.count_eq_zero_of_not_mem absent]
    exact followed.bounded x

/-- A dropped dependency counts as followed. -/
lemma drop (d : String) (followed : Followed reached edges name done) :
    Followed reached (edges ++ [(name, d)]) name (done ++ [d]) where
  settled x hx := by
    rcases List.mem_append.1 hx with hx | hx
    · exact (followed.settled x hx).imp_left (List.mem_append_left _)
    · rw [List.mem_singleton.1 hx]
      exact .inl (by simp)
  bounded x := by
    have := followed.bounded x
    by_cases same : x = d
    · simp [List.count_append, same] at this ⊢
      omega
    · have absent : (name, x) ∉ [(name, d)] := by simpa using same
      rw [List.count_append, List.count_eq_zero_of_not_mem absent, List.count_append]
      omega

/-- A dependency that precedes counts as followed. -/
lemma follow {d : String} (precedes : Precedes reached d name)
    (followed : Followed reached edges name done) : Followed reached edges name (done ++ [d]) where
  settled x hx := by
    rcases List.mem_append.1 hx with hx | hx
    · exact followed.settled x hx
    · rw [List.mem_singleton.1 hx]
      exact .inr precedes
  bounded x := Nat.le_trans (followed.bounded x) (by simp [List.count_append])

end Followed

lemma Closing.mono {reached reached' : List Schema} {name dependency : String}
    (h : reached.Sublist reached') (closing : Closing schemas reached name dependency) :
    Closing schemas reached' name dependency where
  listed := closing.listed
  entered := (h.map _).subset closing.entered
  behind := closing.behind.imp_right (Precedes.mono h)
  cycle := closing.cycle

/-! ### The invariant -/

/-- Each schema of a stack, the innermost first, is a dependency of the next one. -/
abbrev Path (stack : List Schema) : Prop :=
  stack.IsChain fun inner outer => inner.name ∈ outer.dependsOn

/-- Every schema of a path reaches the innermost one. -/
lemma reaches_of_path {inner : Schema} {rest : List Schema}
    (known : ∀ outer ∈ rest, outer ∈ schemas)
    (path : Path (inner :: rest)) :
    ∀ outer ∈ rest, Relation.TransGen (DependsOn schemas) outer.name inner.name := by
  induction rest generalizing inner with
  | nil => simp
  | cons next rest ih =>
    obtain ⟨link, path⟩ := List.isChain_cons_cons.1 path
    have step : DependsOn schemas next.name inner.name :=
      ⟨next, known next List.mem_cons_self, rfl, link⟩
    intro outer hOuter
    rcases List.mem_cons.1 hOuter with rfl | hOuter
    · exact .single step
    · exact (ih (fun x hx => known x (List.mem_cons_of_mem _ hx)) path outer hOuter).tail step

/-- What holds at every moment of the search. -/
structure Invariant (schemas : List Schema) (s : State) : Prop where
  known : s.entered ⊆ schemas
  distinct : (s.entered.map (·.name)).Nodup
  finished : ∀ schema ∈ s.order,
    Followed s.entered (dropped s.diagnostics) schema.name schema.dependsOn
  opened : ∀ frame ∈ s.stack, ∃ done, frame.schema.dependsOn = done ++ frame.pending ∧
    Followed s.entered (dropped s.diagnostics) frame.schema.name done
  path : Path (s.stack.map (·.schema))
  reported : s.diagnostics = (dropped s.diagnostics).map fun edge => circular edge.1 edge.2
  closing : ∀ edge ∈ dropped s.diagnostics, Closing schemas s.entered edge.1 edge.2

/-! ### Every step keeps the invariant -/

namespace Invariant

variable {s : State} {schema target : Schema} {dependency : String} {pending : List String}
  {inner rest : List Frame} {diagnostics : List Diagnostic}

/-- The invariant holds before the first step. -/
lemma start : Invariant schemas {} where
  known := by simp [State.entered]
  distinct := by simp [State.entered]
  finished := by simp
  opened := by simp
  path := .nil
  reported := rfl
  closing := by simp

/-- No other schema that has been reached has the name of an open one. -/
lemma others (h : Invariant schemas ⟨inner ++ ⟨schema, pending⟩ :: rest, order, diagnostics⟩) :
    (∀ frame ∈ inner ++ rest, frame.schema.name ≠ schema.name) ∧
    ∀ x ∈ order, x.name ≠ schema.name := by
  have perm : (State.entered ⟨inner ++ ⟨schema, pending⟩ :: rest, order, diagnostics⟩).Perm
      (schema :: (order ++ (inner ++ rest).map (·.schema))) := by
    simp only [State.entered, List.map_append, List.map_cons, ← List.append_assoc]
    exact List.perm_middle
  have distinct := h.distinct
  rw [(perm.map _).nodup_iff, List.map_cons, List.nodup_cons] at distinct
  constructor
  · intro frame hFrame same
    refine distinct.1 (List.mem_map.2 ⟨frame.schema, ?_, same⟩)
    exact List.mem_append_right _ (List.mem_map_of_mem hFrame)
  · intro x hx same
    exact distinct.1 (List.mem_map.2 ⟨x, List.mem_append_left _ hx, same⟩)

/-- When an open schema has followed one more dependency, the record of it is extended and the
records of the other schemas are carried over. -/
lemma advance (inner : List Frame) {reached : List Schema} {edges : List (String × String)}
    (h : Invariant schemas ⟨inner ++ ⟨schema, dependency :: pending⟩ :: rest, order, diagnostics⟩)
    (extend : ∀ done,
      Followed
      (State.entered ⟨inner ++ ⟨schema, dependency :: pending⟩ :: rest, order, diagnostics⟩)
        (dropped diagnostics) schema.name done →
      Followed reached edges schema.name (done ++ [dependency]))
    (carry : ∀ name done, name ≠ schema.name →
      Followed
      (State.entered ⟨inner ++ ⟨schema, dependency :: pending⟩ :: rest, order, diagnostics⟩)
        (dropped diagnostics) name done →
      Followed reached edges name done) :
    (∀ x ∈ order, Followed reached edges x.name x.dependsOn) ∧
    ∀ frame ∈ inner ++ ⟨schema, pending⟩ :: rest, ∃ done,
      frame.schema.dependsOn = done ++ frame.pending ∧
      Followed reached edges frame.schema.name done := by
  obtain ⟨frame_ne, order_ne⟩ := h.others
  refine ⟨fun x hx => carry _ _ (order_ne x hx) (h.finished x hx), ?_⟩
  intro frame hFrame
  rw [List.mem_append, List.mem_cons, or_left_comm, ← List.mem_append] at hFrame
  rcases hFrame with rfl | hFrame
  · obtain ⟨done, all, followed⟩ := h.opened ⟨schema, dependency :: pending⟩ (by simp)
    refine ⟨done ++ [dependency], ?_, extend done followed⟩
    simpa using all
  · have mem : frame ∈ inner ++ ⟨schema, dependency :: pending⟩ :: rest := by
      rw [List.mem_append, List.mem_cons, or_left_comm, ← List.mem_append]
      exact .inr hFrame
    obtain ⟨done, all, followed⟩ := h.opened frame mem
    exact ⟨done, all, carry _ _ (frame_ne frame hFrame) followed⟩

/-- A dependency that precedes an open schema has been followed. -/
lemma follow (inner : List Frame)
    (h : Invariant schemas ⟨inner ++ ⟨schema, dependency :: pending⟩ :: rest, order, diagnostics⟩)
    (precedes : Precedes
      (State.entered ⟨inner ++ ⟨schema, dependency :: pending⟩ :: rest, order, diagnostics⟩)
      dependency schema.name) :
    Invariant schemas ⟨inner ++ ⟨schema, pending⟩ :: rest, order, diagnostics⟩ := by
  have same : State.entered ⟨inner ++ ⟨schema, pending⟩ :: rest, order, diagnostics⟩ =
      State.entered ⟨inner ++ ⟨schema, dependency :: pending⟩ :: rest, order, diagnostics⟩ := by
    simp [State.entered]
  obtain ⟨finished, opened⟩ := h.advance inner (fun _ => Followed.follow precedes) fun _ _ _ => id
  refine ⟨same ▸ h.known, same ▸ h.distinct, same ▸ finished, same ▸ opened, ?_, h.reported,
    same ▸ h.closing⟩
  simpa using h.path

/-- The invariant is kept where a schema is finished. -/
lemma finish (h : Invariant schemas ⟨⟨schema, []⟩ :: rest, order, diagnostics⟩) :
    Invariant schemas ⟨rest, order ++ [schema], diagnostics⟩ := by
  have same : State.entered ⟨rest, order ++ [schema], diagnostics⟩ =
      State.entered ⟨⟨schema, []⟩ :: rest, order, diagnostics⟩ := by
    simp [State.entered]
  refine ⟨same ▸ h.known, same ▸ h.distinct, ?_, ?_, h.path.tail, h.reported, same ▸ h.closing⟩
  · intro x hx
    rw [same]
    rcases List.mem_append.1 hx with hx | hx
    · exact h.finished x hx
    · obtain ⟨done, all, followed⟩ := h.opened ⟨schema, []⟩ List.mem_cons_self
      rw [List.append_nil] at all
      rw [List.mem_singleton.1 hx, all]
      exact followed
  · intro frame hFrame
    rw [same]
    exact h.opened frame (List.mem_cons_of_mem _ hFrame)

/-- A dependency of the innermost schema that is open closes a cycle. -/
lemma closing_of_isOpen
    (h : Invariant schemas ⟨⟨schema, dependency :: pending⟩ :: rest, order, diagnostics⟩)
    (isOpen : State.isOpen ⟨⟨schema, dependency :: pending⟩ :: rest, order, diagnostics⟩
      dependency = true) :
    Closing schemas (State.entered ⟨⟨schema, dependency :: pending⟩ :: rest, order, diagnostics⟩)
      schema.name dependency := by
  have known : ∀ outer ∈ schema :: rest.map (·.schema), outer ∈ schemas := fun outer hOuter =>
    h.known (List.mem_append_right _ hOuter)
  obtain ⟨done, all, _⟩ := h.opened _ List.mem_cons_self
  have listed : dependency ∈ schema.dependsOn := by simp [show schema.dependsOn = _ from all]
  have edge : DependsOn schemas schema.name dependency :=
    ⟨schema, known schema List.mem_cons_self, rfl, listed⟩
  have entered : schema.name ∈ (State.entered ⟨⟨schema, dependency :: pending⟩ :: rest, order,
      diagnostics⟩).map (·.name) := by
    simp [State.entered]
  obtain ⟨frame, hFrame, name⟩ := State.isOpen_iff.1 isOpen
  rcases List.mem_cons.1 hFrame with rfl | hFrame
  · have self : dependency = schema.name := name.symm
    exact ⟨edge, entered, .inl self, .single (self ▸ edge)⟩
  · have outer : frame.schema ∈ rest.map (·.schema) := List.mem_map_of_mem hFrame
    have behind : Precedes (schema :: rest.map (·.schema)) schema.name dependency :=
      List.Sublist.cons_cons _ (List.singleton_sublist.2 (List.mem_map.2 ⟨_, outer, name⟩))
    have cycle := reaches_of_path (fun x hx => known x (List.mem_cons_of_mem _ hx)) h.path _ outer
    exact ⟨edge, entered, .inr (behind.mono (List.sublist_append_right _ _)), name ▸ cycle⟩

/-- The invariant is kept where a dependency on an open schema is dropped. -/
lemma drop (h : Invariant schemas ⟨⟨schema, dependency :: pending⟩ :: rest, order, diagnostics⟩)
    (isOpen : State.isOpen ⟨⟨schema, dependency :: pending⟩ :: rest, order, diagnostics⟩
      dependency = true) :
    Invariant schemas ⟨⟨schema, pending⟩ :: rest, order,
      diagnostics ++ [circular schema.name dependency]⟩ := by
  obtain ⟨finished, opened⟩ := h.advance [] (fun _ => Followed.drop dependency)
    fun _ _ ne => Followed.drop_other dependency ne.symm
  refine ⟨h.known, h.distinct, ?_, ?_, h.path, ?_, ?_⟩
  · rw [dropped_append_circular]
    exact finished
  · rw [dropped_append_circular]
    exact opened
  · simp [← h.reported]
  · intro edge hEdge
    rw [dropped_append_circular] at hEdge
    rcases List.mem_append.1 hEdge with hEdge | hEdge
    · exact h.closing edge hEdge
    · rw [List.mem_singleton.1 hEdge]
      exact h.closing_of_isOpen isOpen

/-- A schema that has not been reached can be opened, inside one that lists it or as a root. -/
lemma enter (h : Invariant schemas s) (inSchemas : target ∈ schemas)
    (fresh : target.name ∉ s.entered.map (·.name))
    (path : Path ((s.enter target).stack.map (·.schema))) : Invariant schemas (s.enter target) := by
  have grown : s.entered.Sublist (s.enter target).entered := by simp [State.entered, State.enter]
  have perm : (s.enter target).entered.Perm (target :: s.entered) := List.perm_middle
  refine ⟨?_, ?_, ?_, ?_, path, h.reported, ?_⟩
  · intro x hx
    rcases List.mem_cons.1 (perm.subset hx) with rfl | hx
    · exact inSchemas
    · exact h.known hx
  · rw [(perm.map _).nodup_iff, List.map_cons, List.nodup_cons]
    exact ⟨fresh, h.distinct⟩
  · exact fun x hx => (h.finished x hx).mono grown
  · intro frame hFrame
    rcases List.mem_cons.1 hFrame with rfl | hFrame
    · -- nothing of the new schema has been followed, and no edge starts at it
      refine ⟨[], rfl, by simp, fun d => ?_⟩
      have absent : (target.name, d) ∉ dropped s.diagnostics :=
        fun hEdge => fresh (h.closing _ hEdge).entered
      exact (List.count_eq_zero_of_not_mem absent).le
    · obtain ⟨done, all, followed⟩ := h.opened frame hFrame
      exact ⟨done, all, followed.mono grown⟩
  · exact fun edge hEdge => (h.closing edge hEdge).mono grown

/-- Each step keeps the invariant. -/
theorem step {s' : State} (h : Invariant schemas s) (next : Step schemas s s') :
    Invariant schemas s' := by
  cases next with
  | finish => exact h.finish
  | drop schema target dependency pending rest order diagnostics found isOpen => exact h.drop isOpen
  | skip schema target dependency pending rest order diagnostics found notOpen isFinished =>
    exact h.follow [] (Precedes.append (State.isFinished_iff.1 isFinished) (by simp))
  | enter schema target dependency pending rest order diagnostics found notOpen notFinished =>
    obtain ⟨inSchemas, rfl⟩ := find?_mem found
    have fresh := State.not_mem_entered notOpen notFinished
    obtain ⟨done, all, _⟩ := h.opened _ List.mem_cons_self
    have listed : target.name ∈ schema.dependsOn := by simp [show schema.dependsOn = _ from all]
    have entered := h.enter inSchemas fresh (List.isChain_cons_cons.2 ⟨listed, h.path⟩)
    -- the new schema stands right before the one that it was reached from
    refine entered.follow [⟨target, target.dependsOn⟩] ?_
    exact Precedes.mono (List.sublist_append_right _ _) (by simp [Precedes])

end Invariant

end EntityModel.CreationOrder
