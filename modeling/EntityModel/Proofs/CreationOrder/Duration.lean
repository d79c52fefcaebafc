import EntityModel.Proofs.CreationOrder.Order
import Mathlib.Algebra.BigOperators.Group.List.Basic
import Mathlib.Algebra.GroupWithZero.Nat

/-!
# The length of the search

The steps of the whole search, counted: each looks at a root, follows a dependency or finishes a
schema. Every step takes one off what is left to do (`left`), so that the search of schemas of
distinct names ends after two steps for each schema and one for each dependency at most, and after
just as many if it finds an order. It finds none exactly if a dependency is not among the schemas
(`sort_takes`).
-/

namespace EntityModel.CreationOrder

variable {schemas roots order : List Schema} {s s' : State} {steps : Nat} {outcome : Outcome State}

/-! ### Steps -/

/-- From a state on, with roots left, the search comes to an outcome in a number of steps. A step
looks at a root, follows a dependency or finishes a schema. -/
inductive Takes (schemas : List Schema) : List Schema → State → Nat → Outcome State → Prop
  /-- without roots and open schemas the search is over -/
  | ended {s : State} (idle : s.stack = []) : Takes schemas [] s 0 (.ok s)
  /-- a root that is finished needs nothing -/
  | pass {root : Schema} {rest : List Schema} {s : State} {steps : Nat} {outcome : Outcome State}
      (idle : s.stack = []) (isFinished : s.isFinished root.name = true)
      (more : Takes schemas rest s steps outcome) :
      Takes schemas (root :: rest) s (steps + 1) outcome
  /-- a root that has not been reached is opened -/
  | enter {root : Schema} {rest : List Schema} {s : State} {steps : Nat} {outcome : Outcome State}
      (idle : s.stack = []) (notFinished : s.isFinished root.name = false)
      (more : Takes schemas rest (s.enter root) steps outcome) :
      Takes schemas (root :: rest) s (steps + 1) outcome
  /-- the innermost open schema goes on -/
  | step {roots : List Schema} {s s' : State} {steps : Nat} {outcome : Outcome State}
      (next : Step schemas s s') (more : Takes schemas roots s' steps outcome) :
      Takes schemas roots s (steps + 1) outcome
  /-- a dependency that is not among the schemas ends the search -/
  | stuck {roots : List Schema} {s : State} {schema : Schema} {dependency : String}
      (isStuck : Stuck schemas s schema dependency) :
      Takes schemas roots s 1 (.error (dangling schema.name dependency))

lemma run_of_idle (idle : s.stack = []) : run schemas s = .ok s := by
  obtain ⟨stack, order, diagnostics⟩ := s
  obtain rfl : stack = [] := idle
  exact run_nil order diagnostics

lemma run_of_stuck {schema : Schema} {dependency : String} (h : Stuck schemas s schema dependency) :
    run schemas s = .error (dangling schema.name dependency) := by
  obtain ⟨⟨pending, rest, top⟩, missing⟩ := h
  obtain ⟨stack, order, diagnostics⟩ := s
  obtain rfl : stack = _ := top
  exact run_missing missing pending rest order diagnostics

namespace Takes

/-- What the steps come to is what the search comes to. -/
lemma run_eq (h : Takes schemas roots s steps outcome) :
    run schemas s >>= runAll schemas roots = outcome := by
  induction h with
  | ended idle =>
    rw [run_of_idle idle]
    rfl
  | pass idle isFinished _ ih =>
    rw [run_of_idle idle] at ih ⊢
    rw [← ih]
    exact if_pos isFinished
  | enter idle notFinished _ ih =>
    rw [run_of_idle idle, ← ih]
    exact if_neg (Bool.eq_false_iff.1 notFinished)
  | step next _ ih => rw [run_of_step next, ih]
  | stuck isStuck =>
    rw [run_of_stuck isStuck]
    rfl

lemma sort_eq (h : Takes schemas schemas {} steps outcome) :
    sort schemas = (fun final => (final.order, final.diagnostics)) <$> outcome := by
  have all : runAll schemas schemas {} = outcome := by
    rw [← h.run_eq, run_of_idle rfl]
    rfl
  rw [sort, all]
  cases outcome <;> rfl

end Takes

/-! ### The search comes to an end -/

/-- From a state on, with roots left, the search comes to an end. -/
def Ending (schemas roots : List Schema) (s : State) : Prop :=
  ∃ steps outcome, Takes schemas roots s steps outcome

namespace Ending

lemma of_steps (h : Steps schemas s s') (ending : Ending schemas roots s') :
    Ending schemas roots s := by
  induction h using Relation.ReflTransGen.head_induction_on with
  | refl => exact ending
  | head next _ ih =>
    obtain ⟨steps, outcome, takes⟩ := ih
    exact ⟨steps + 1, outcome, .step next takes⟩

/-- It is enough that the search ends from the states on in which no schema is open. -/
lemma of_idle (s : State) (idle : ∀ final : State, final.stack = [] → Ending schemas roots final) :
    Ending schemas roots s := by
  rcases @run_ends schemas s with ⟨final, steps, isIdle, -⟩ | ⟨_, _, _, steps, isStuck, -⟩
  · exact of_steps steps (idle final isIdle)
  · exact of_steps steps ⟨1, _, .stuck isStuck⟩

/-- From its roots a run ends, in a state or with a dangling dependency. -/
lemma of_roots (roots : List Schema) (s : State) : Ending schemas roots s := by
  induction roots generalizing s with
  | nil => exact of_idle s fun final idle => ⟨0, _, .ended idle⟩
  | cons root rest ih =>
    refine of_idle s fun final idle => ?_
    cases isFinished : final.isFinished root.name with
    | true =>
      obtain ⟨steps, outcome, takes⟩ := ih final
      exact ⟨steps + 1, outcome, .pass idle isFinished takes⟩
    | false =>
      obtain ⟨steps, outcome, takes⟩ := ih (final.enter root)
      exact ⟨steps + 1, outcome, .enter idle isFinished takes⟩

end Ending

/-! ### What is left to do -/

/-- The steps that the schemas call for that have not been reached: one for each dependency and one
to finish the schema. -/
def unreached (schemas reached : List Schema) : Nat :=
  (schemas.map fun x => if x.name ∈ reached.map (·.name) then 0 else x.dependsOn.length + 1).sum

def left (schemas roots : List Schema) (s : State) : Nat :=
  roots.length + stackCost s.stack + unreached schemas s.entered

lemma unreached_nil : unreached schemas [] =
    schemas.length + (schemas.map (·.dependsOn.length)).sum := by
  simp [unreached, List.sum_map_add, Nat.add_comm]

lemma left_start : left schemas schemas {} =
    2 * schemas.length + (schemas.map (·.dependsOn.length)).sum := by
  simp only [left, stackCost, State.entered, List.map_nil, List.append_nil, unreached_nil]
  omega

/-- Where schemas have been put in order, nothing is left to do. -/
lemma unreached_of_sort (distinct : (schemas.map (·.name)).Nodup) {diagnostics : List Diagnostic}
    (ok : sort schemas = .ok (order, diagnostics)) : unreached schemas order = 0 := by
  have sorted := sorted_of_sort distinct ok
  refine List.sum_eq_zero (List.forall_mem_map.2 fun x mem => if_pos ?_)
  exact List.mem_map_of_mem (sorted.perm.mem_iff.2 mem)

/-- A schema that is reached is taken off those that have not been reached, and no other one is. -/
lemma unreached_of_perm (distinct : (schemas.map (·.name)).Nodup)
    {reached reached' : List Schema} {x : Schema} (mem : x ∈ schemas)
    (fresh : x.name ∉ reached.map (·.name)) (grown : reached'.Perm (x :: reached)) :
    unreached schemas reached = unreached schemas reached' + (x.dependsOn.length + 1) := by
  obtain ⟨before, after, rfl⟩ := List.append_of_mem mem
  have known (name : String) :
      name ∈ reached'.map (·.name) ↔ name = x.name ∨ name ∈ reached.map (·.name) := by
    rw [(grown.map _).mem_iff, List.map_cons, List.mem_cons]
  have others (part : List Schema) (sub : part ⊆ before ++ after) :
      unreached part reached' = unreached part reached := by
    refine congrArg List.sum (List.map_congr_left fun y hy => ?_)
    have other : y.name ≠ x.name := fun same =>
      name_notMem distinct (same ▸ List.mem_map_of_mem (sub hy))
    simp only [known, other, false_or]
  have now : x.name ∈ reached'.map (·.name) := (known _).2 (.inl rfl)
  have split (reached : List Schema) : unreached (before ++ x :: after) reached =
      unreached before reached +
        ((if x.name ∈ reached.map (·.name) then 0 else x.dependsOn.length + 1) +
          unreached after reached) := by
    simp only [unreached, List.map_append, List.sum_append, List.map_cons, List.sum_cons]
  rw [split, split, others before (by simp), others after (by simp), if_neg fresh, if_pos now]
  omega

/-- Every step takes one off what is left. -/
lemma Step.left_eq (distinct : (schemas.map (·.name)).Nodup) (roots : List Schema)
    (next : Step schemas s s') : left schemas roots s = left schemas roots s' + 1 := by
  cases next with
  | finish =>
    simp only [left, stackCost, State.entered, List.map_cons, List.length_nil, List.append_assoc,
      List.singleton_append]
    omega
  | drop | skip =>
    simp only [left, stackCost, State.entered, List.map_cons, List.length_cons]
    omega
  | enter schema target dependency pending rest order diagnostics found notOpen notFinished =>
    obtain ⟨mem, rfl⟩ := find?_mem found
    have less := unreached_of_perm distinct mem (State.not_mem_entered notOpen notFinished)
      List.perm_middle
    simp only [left, stackCost, State.entered, List.length_cons, List.map_cons] at less ⊢
    omega

/-- So does the opening of a root. -/
lemma left_enter (distinct : (schemas.map (·.name)).Nodup) {root : Schema} {rest : List Schema}
    (mem : root ∈ schemas) (idle : s.stack = []) (notFinished : s.isFinished root.name = false) :
    left schemas (root :: rest) s = left schemas rest (s.enter root) + 1 := by
  have notOpen : s.isOpen root.name = false := by simp [State.isOpen, idle]
  have less := unreached_of_perm distinct mem (State.not_mem_entered notOpen notFinished)
    List.perm_middle
  simp only [left, State.enter, stackCost, State.entered, List.length_cons, List.map_cons] at less ⊢
  omega

/-- The steps are what was left at the start, less what is left at the end. -/
lemma Takes.exists_left (distinct : (schemas.map (·.name)).Nodup)
    (h : Takes schemas roots s steps outcome) (sub : roots ⊆ schemas) :
    ∃ rest, left schemas roots s = steps + rest ∧
      ∀ final, outcome = .ok final → rest = unreached schemas final.order := by
  induction h with
  | @ended s idle =>
    refine ⟨unreached schemas s.order, ?_, ?_⟩
    · simp [left, idle, stackCost, State.entered_of_idle]
    · rintro final ⟨⟩
      rfl
  | pass idle isFinished _ ih =>
    obtain ⟨more, eq, all⟩ := ih fun x hx => sub (List.mem_cons_of_mem _ hx)
    refine ⟨more, ?_, all⟩
    simp only [left, List.length_cons] at eq ⊢
    omega
  | enter idle notFinished _ ih =>
    obtain ⟨more, eq, all⟩ := ih fun x hx => sub (List.mem_cons_of_mem _ hx)
    refine ⟨more, ?_, all⟩
    rw [left_enter distinct (sub List.mem_cons_self) idle notFinished, eq]
    omega
  | step next _ ih =>
    obtain ⟨more, eq, all⟩ := ih sub
    refine ⟨more, ?_, all⟩
    rw [next.left_eq distinct, eq]
    omega
  | @stuck roots s _ _ isStuck =>
    obtain ⟨⟨pending, rest, top⟩, -⟩ := isStuck
    have one : 1 ≤ left schemas roots s := by
      simp only [left, stackCost, top]
      omega
    exact ⟨left schemas roots s - 1, by omega, by simp⟩

/-- The search fails exactly if a dependency is not among the schemas. -/
lemma sort_error_iff (distinct : (schemas.map (·.name)).Nodup) :
    (∃ fault, sort schemas = .error fault) ↔
      ∃ schema ∈ schemas, ∃ d ∈ schema.dependsOn, d ∉ schemas.map (·.name) := by
  constructor
  · rintro ⟨fault, error⟩
    obtain ⟨schema, mem, d, listed, unknown, -⟩ := dangling_of_sort distinct error
    exact ⟨schema, mem, d, listed, unknown⟩
  · rintro ⟨schema, mem, d, listed, unknown⟩
    cases found : sort schemas with
    | error fault => exact ⟨fault, rfl⟩
    | ok result =>
      exact absurd ((sorted_of_sort distinct found).known schema mem d listed) unknown

/-- The search of schemas of distinct names comes to an end, within two steps for each schema and
one for each dependency; if it finds an order, it takes just as many. It fails exactly if some
dependency is not among the schemas, and names such a one. -/
theorem sort_takes (distinct : (schemas.map (·.name)).Nodup) :
    (∃ steps outcome, Takes schemas schemas {} steps outcome) ∧
    (∀ steps outcome, Takes schemas schemas {} steps outcome →
      sort schemas = (fun final => (final.order, final.diagnostics)) <$> outcome ∧
      steps ≤ 2 * schemas.length + (schemas.map (·.dependsOn.length)).sum ∧
      ((∃ final, outcome = .ok final) →
        steps = 2 * schemas.length + (schemas.map (·.dependsOn.length)).sum)) ∧
    ((∃ text entity rule, sort schemas = .error (.failed (.invariant text entity rule))) ↔
      ∃ schema ∈ schemas, ∃ d ∈ schema.dependsOn, d ∉ schemas.map (·.name)) ∧
    ∀ fault, sort schemas = .error fault → ∃ schema ∈ schemas, ∃ d ∈ schema.dependsOn,
      d ∉ schemas.map (·.name) ∧ fault = dangling schema.name d := by
  refine ⟨Ending.of_roots schemas {}, fun steps outcome takes => ?_, ⟨?_, ?_⟩,
    fun fault => dangling_of_sort distinct⟩
  · obtain ⟨rest, eq, ended⟩ := takes.exists_left distinct (List.Subset.refl _)
    rw [left_start] at eq
    refine ⟨takes.sort_eq, by omega, ?_⟩
    rintro ⟨final, rfl⟩
    have nothing : unreached schemas final.order = 0 := unreached_of_sort distinct takes.sort_eq
    have := ended final rfl
    omega
  · rintro ⟨text, entity, rule, error⟩
    exact (sort_error_iff distinct).1 ⟨_, error⟩
  · intro unknown
    obtain ⟨fault, error⟩ := (sort_error_iff distinct).2 unknown
    obtain ⟨_, _, _, _, _, rfl⟩ := dangling_of_sort distinct error
    exact ⟨_, _, _, error⟩

/-- The overlapping cycles are ordered within fourteen steps, and no invariant is reported. -/
theorem sort_takes_overlappingCycles :
    (∃ steps outcome, Takes overlappingCycles overlappingCycles {} steps outcome ∧ steps ≤ 14) ∧
    ¬ ∃ text entity rule,
      sort overlappingCycles = .error (.failed (.invariant text entity rule)) := by
  obtain ⟨⟨steps, outcome, takes⟩, bounded, fails, -⟩ := @sort_takes overlappingCycles (by decide)
  refine ⟨⟨steps, outcome, takes, (bounded steps outcome takes).2.1⟩, fun error => ?_⟩
  exact absurd (fails.1 error) (by decide)

end EntityModel.CreationOrder
