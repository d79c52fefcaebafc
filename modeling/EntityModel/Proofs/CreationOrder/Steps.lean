import EntityModel.Analysis.CreationOrder
import Mathlib.Data.List.Perm.Basic
import Mathlib.Logic.Relation
import Mathlib.Tactic.Common

/-!
# Steps of the search

The search for a creation order as a relation between states, with one constructor for each thing
that a step can do. A run is a sequence of such steps; it ends when no schema is open, or at a
dependency that is not among the schemas (`run_ends`).

What holds of the first state and is kept by every step and by the opening of a root holds wherever
the whole search ends (`runAll_ends`).
-/

namespace EntityModel.CreationOrder

variable {schemas : List Schema}

/-! ### Steps -/

/-- What one step of the search can do. -/
inductive Step (schemas : List Schema) : State → State → Prop
  /-- a schema without further dependencies is finished -/
  | finish (schema : Schema) (rest : List Frame) (order : List Schema)
      (diagnostics : List Diagnostic) :
      Step schemas ⟨⟨schema, []⟩ :: rest, order, diagnostics⟩ ⟨rest, order ++ [schema], diagnostics⟩
  /-- a dependency that is open is dropped and reported -/
  | drop (schema target : Schema) (dependency : String) (pending : List String) (rest : List Frame)
      (order : List Schema) (diagnostics : List Diagnostic)
      (found : find? schemas dependency = some target)
      (isOpen : State.isOpen ⟨⟨schema, dependency :: pending⟩ :: rest, order, diagnostics⟩
        dependency = true) :
      Step schemas ⟨⟨schema, dependency :: pending⟩ :: rest, order, diagnostics⟩
        ⟨⟨schema, pending⟩ :: rest, order, diagnostics ++ [circular schema.name dependency]⟩
  /-- a dependency that is finished needs nothing -/
  | skip (schema target : Schema) (dependency : String) (pending : List String) (rest : List Frame)
      (order : List Schema) (diagnostics : List Diagnostic)
      (found : find? schemas dependency = some target)
      (notOpen : State.isOpen ⟨⟨schema, dependency :: pending⟩ :: rest, order, diagnostics⟩
        dependency = false)
      (isFinished : State.isFinished ⟨⟨schema, dependency :: pending⟩ :: rest, order, diagnostics⟩
        dependency = true) :
      Step schemas ⟨⟨schema, dependency :: pending⟩ :: rest, order, diagnostics⟩
        ⟨⟨schema, pending⟩ :: rest, order, diagnostics⟩
  /-- a dependency that has not been reached is opened -/
  | enter (schema target : Schema) (dependency : String) (pending : List String) (rest : List Frame)
      (order : List Schema) (diagnostics : List Diagnostic)
      (found : find? schemas dependency = some target)
      (notOpen : State.isOpen ⟨⟨schema, dependency :: pending⟩ :: rest, order, diagnostics⟩
        dependency = false)
      (notFinished : State.isFinished ⟨⟨schema, dependency :: pending⟩ :: rest, order, diagnostics⟩
        dependency = false) :
      Step schemas ⟨⟨schema, dependency :: pending⟩ :: rest, order, diagnostics⟩
        ⟨⟨target, target.dependsOn⟩ :: ⟨schema, pending⟩ :: rest, order, diagnostics⟩

/-- Any number of steps of the search. -/
abbrev Steps (schemas : List Schema) : State → State → Prop := Relation.ReflTransGen (Step schemas)

/-- A state whose next dependency is not among the schemas. -/
def Stuck (schemas : List Schema) (s : State) (schema : Schema) (dependency : String) : Prop :=
  (∃ pending rest, s.stack = ⟨schema, dependency :: pending⟩ :: rest) ∧
    find? schemas dependency = none

/-! ### Runs -/

lemma run_nil (order : List Schema) (diagnostics : List Diagnostic) :
    run schemas ⟨[], order, diagnostics⟩ = .ok ⟨[], order, diagnostics⟩ := by
  rw [run]

/-- A dependency that is not among the schemas ends the run. -/
lemma run_missing {schema : Schema} {dependency : String}
    (missing : find? schemas dependency = none) (pending : List String) (rest : List Frame)
    (order : List Schema) (diagnostics : List Diagnostic) :
    run schemas ⟨⟨schema, dependency :: pending⟩ :: rest, order, diagnostics⟩ =
      .error (dangling schema.name dependency) := by
  rw [run]
  dsimp only
  split
  · rfl
  · simp_all

/-- A step does not change where a run ends. -/
lemma run_of_step {s s' : State} (h : Step schemas s s') : run schemas s = run schemas s' := by
  cases h with
  | finish schema rest order diagnostics => rw [run]
  | drop schema target dependency pending rest order diagnostics found isOpen =>
    rw [run]
    dsimp only
    split
    · simp_all
    · rw [if_pos isOpen]
  | skip schema target dependency pending rest order diagnostics found notOpen isFinished =>
    rw [run]
    dsimp only
    split
    · simp_all
    · rw [if_neg (Bool.eq_false_iff.1 notOpen), dif_pos isFinished]
  | enter schema target dependency pending rest order diagnostics found notOpen notFinished =>
    rw [run]
    dsimp only
    split
    · simp_all
    · rw [if_neg (Bool.eq_false_iff.1 notOpen), dif_neg (Bool.eq_false_iff.1 notFinished)]
      simp_all [State.enter]

/-- How a run ends: with no schema open, or stuck at a dependency that is not among the schemas. -/
def Ends (schemas : List Schema) (s : State) : Prop :=
  (∃ final, Steps schemas s final ∧ final.stack = [] ∧ run schemas s = .ok final) ∨
  (∃ stuck schema dependency, Steps schemas s stuck ∧ Stuck schemas stuck schema dependency ∧
    run schemas s = .error (dangling schema.name dependency))

lemma Ends.of_step {s s' : State} (h : Step schemas s s') (ends : Ends schemas s') :
    Ends schemas s := by
  unfold Ends
  rw [run_of_step h]
  rcases ends with ⟨final, steps, idle, ok⟩ | ⟨stuck, schema, dependency, steps, stuckAt, error⟩
  · exact .inl ⟨final, .head h steps, idle, ok⟩
  · exact .inr ⟨stuck, schema, dependency, .head h steps, stuckAt, error⟩

/-- Every run ends. -/
theorem run_ends (s : State) : Ends schemas s := by
  induction s using run.induct schemas with
  | case1 s empty =>
    obtain ⟨stack, order, diagnostics⟩ := s
    subst empty
    exact .inl ⟨_, .refl, rfl, run_nil order diagnostics⟩
  | case2 s schema rest top ih =>
    obtain ⟨stack, order, diagnostics⟩ := s
    subst top
    exact ih.of_step (.finish schema rest order diagnostics)
  | case3 s schema dependency pending rest top missing =>
    obtain ⟨stack, order, diagnostics⟩ := s
    subst top
    exact .inr ⟨_, schema, dependency, .refl, ⟨⟨pending, rest, rfl⟩, missing⟩,
      run_missing missing pending rest order diagnostics⟩
  | case4 s schema dependency pending rest top target found isOpen ih =>
    obtain ⟨stack, order, diagnostics⟩ := s
    subst top
    exact ih.of_step (.drop schema target dependency pending rest order diagnostics found isOpen)
  | case5 s schema dependency pending rest top target found notOpen isFinished ih =>
    obtain ⟨stack, order, diagnostics⟩ := s
    subst top
    exact ih.of_step (.skip schema target dependency pending rest order diagnostics found
      (Bool.eq_false_iff.2 notOpen) isFinished)
  | case6 s schema dependency pending rest top target found notOpen notFinished ih =>
    obtain ⟨stack, order, diagnostics⟩ := s
    subst top
    exact ih.of_step (.enter schema target dependency pending rest order diagnostics found
      (Bool.eq_false_iff.2 notOpen) (Bool.eq_false_iff.2 notFinished))

/-! ### Schemas that have been reached -/

/-- The schemas that have been reached: the finished ones in their order, then the open ones, the
innermost first. A schema keeps its place in this list when it is finished, so that the list tells
the order to come. -/
def State.entered (s : State) : List Schema := s.order ++ s.stack.map (·.schema)

lemma State.entered_of_idle {s : State} (idle : s.stack = []) : s.entered = s.order := by
  simp [State.entered, idle]

lemma State.isOpen_iff {s : State} {name : String} :
    s.isOpen name = true ↔ ∃ frame ∈ s.stack, frame.schema.name = name := by
  simp [State.isOpen]

lemma State.isFinished_iff {s : State} {name : String} :
    s.isFinished name = true ↔ name ∈ s.order.map (·.name) := by
  simp [State.isFinished]

lemma State.not_mem_entered {s : State} {name : String} (notOpen : s.isOpen name = false)
    (notFinished : s.isFinished name = false) : name ∉ s.entered.map (·.name) := by
  simp only [State.isOpen, State.isFinished, List.any_eq_false, beq_iff_eq] at notOpen notFinished
  simp only [State.entered, List.map_append, List.map_map, List.mem_append, List.mem_map,
    Function.comp_apply, not_or, not_exists, not_and]
  exact ⟨notFinished, notOpen⟩

/-- The schemas that have been reached stay, in their order. -/
lemma Step.entered_sublist {s s' : State} (h : Step schemas s s') :
    s.entered.Sublist s'.entered := by
  cases h with
  | finish | drop | skip => simp [State.entered]
  | enter => simp [State.entered]

lemma Steps.entered_sublist {s s' : State} (h : Steps schemas s s') :
    s.entered.Sublist s'.entered := by
  induction h with
  | refl => exact List.Sublist.refl _
  | tail _ step ih => exact ih.trans step.entered_sublist

/-! ### The whole search -/

variable {P : State → Prop}

lemma Steps.preserve (step : ∀ {s s'}, P s → Step schemas s s' → P s') {s s' : State}
    (h : Steps schemas s s') (start : P s) : P s' := by
  induction h with
  | refl => exact start
  | tail _ next ih => exact step ih next

/-- The search ends with every root finished, or stuck; either way what holds of its start, and is
kept by every step and by the opening of a root, holds there. -/
theorem runAll_ends (step : ∀ {s s'}, P s → Step schemas s s' → P s')
    (opening : ∀ {s root}, P s → s.stack = [] → root ∈ schemas → s.isFinished root.name = false →
      P (s.enter root))
    (roots : List Schema) (sub : roots ⊆ schemas) (s : State) (start : P s) (idle : s.stack = []) :
    (∃ final, runAll schemas roots s = .ok final ∧ P final ∧ final.stack = [] ∧
      s.order.Sublist final.order ∧ ∀ root ∈ roots, root.name ∈ final.order.map (·.name)) ∨
    (∃ stuck schema dependency, P stuck ∧ Stuck schemas stuck schema dependency ∧
      runAll schemas roots s = .error (dangling schema.name dependency)) := by
  induction roots generalizing s with
  | nil => exact .inl ⟨s, rfl, start, idle, List.Sublist.refl _, by simp⟩
  | cons root rest ih =>
    have inSchemas : root ∈ schemas := sub List.mem_cons_self
    have subRest : rest ⊆ schemas := fun x hx => sub (List.mem_cons_of_mem _ hx)
    rw [runAll]
    by_cases finished : s.isFinished root.name = true
    · rw [if_pos finished]
      rcases ih subRest s start idle with ⟨final, ok, holds, done, grown, all⟩ | stuck
      · refine .inl ⟨final, ok, holds, done, grown, List.forall_mem_cons.2 ⟨?_, all⟩⟩
        exact (grown.map _).subset (State.isFinished_iff.1 finished)
      · exact .inr stuck
    · rw [if_neg finished]
      have begun : P (s.enter root) := opening start idle inSchemas (Bool.eq_false_iff.2 finished)
      rcases @run_ends schemas (s.enter root) with
        ⟨mid, steps, idle', ok⟩ | ⟨stuck, schema, dependency, steps, stuckAt, error⟩
      · have grownMid : (s.order ++ [root]).Sublist mid.order := by
          have := Steps.entered_sublist steps
          rwa [State.entered_of_idle idle', State.entered, State.enter, idle] at this
        have holdsMid : P mid := Steps.preserve step steps begun
        rw [ok]
        rcases ih subRest mid holdsMid idle' with ⟨final, ok', holds, done, grown, all⟩ | stuck
        · have grownFinal := grownMid.trans grown
          refine .inl ⟨final, ok', holds, done, (List.sublist_append_left _ _).trans grownFinal,
            List.forall_mem_cons.2 ⟨?_, all⟩⟩
          exact List.mem_map_of_mem (grownFinal.subset (by simp))
        · exact .inr stuck
      · rw [error]
        exact .inr ⟨stuck, schema, dependency, Steps.preserve step steps begun, stuckAt, rfl⟩

/-- Only schemas that are given stand in the order. -/
lemma subset_of_sort {order : List Schema} {diagnostics : List Diagnostic}
    (ok : sort schemas = .ok (order, diagnostics)) : order ⊆ schemas := by
  have ends := runAll_ends (P := fun s => s.entered ⊆ schemas) (fun sub step => ?_)
    (fun sub idle mem _ => ?_) schemas (List.Subset.refl _) {} (by simp [State.entered]) rfl
  · rcases ends with ⟨final, done, sub, idle, -⟩ | ⟨_, _, _, _, _, error⟩
    · rw [sort, done] at ok
      obtain ⟨rfl, -⟩ := Prod.mk.inj (Except.ok.inj ok)
      rwa [State.entered_of_idle idle] at sub
    · rw [sort, error] at ok
      cases ok
  · cases step with
    | finish => simpa [State.entered] using sub
    | drop => simpa [State.entered] using sub
    | skip => simpa [State.entered] using sub
    | enter schema target _ _ _ _ _ found =>
      have inSchemas := (find?_mem found).1
      simp only [State.entered, List.map_cons, List.append_subset, List.cons_subset] at sub ⊢
      exact ⟨sub.1, inSchemas, sub.2⟩
  · rw [State.entered_of_idle idle] at sub
    simpa [State.entered, State.enter, idle] using ⟨sub, mem⟩

end EntityModel.CreationOrder
