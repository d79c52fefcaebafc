import EntityModel.Proofs.CreationOrder.Order

/-!
# The search as a recursion

To visit a schema is to follow its dependencies in turn and then to put it in order: a dependency
whose visit is under way is reported, and one that has not been visited is visited first. The visits
of all schemas, each in its turn, find the same order and the same diagnostics as the search that
keeps the open schemas on a stack (`sort_eq_depthFirst`).
-/

namespace EntityModel.CreationOrder

/-! ### Visits -/

/-- What visits have found. -/
structure Found where
  order : List Schema := []
  diagnostics : List Diagnostic := []

namespace Found

/-- Whether the schema of a name has been visited. -/
def isFinished (found : Found) (name : String) : Bool := found.order.any (·.name == name)

/-- The findings with one more schema in order. -/
def finish (found : Found) (schema : Schema) : Found :=
  { found with order := found.order ++ [schema] }

/-- The findings with a dependency reported that closes a cycle. -/
def report (found : Found) (schema dependency : String) : Found :=
  { found with diagnostics := found.diagnostics ++ [circular schema dependency] }

end Found

/-- The visit of a schema, where `opened` names the schemas whose visits are under way, this one
among them. -/
def visit (schemas : List Schema) (opened : List String) (schema : Schema) (found : Found) :
    Outcome Found := do
  let found ← schema.dependsOn.foldlM (fun found dependency =>
    match _known : find? schemas dependency with
    | none => .error (dangling schema.name dependency)
    | some target =>
      if _new : opened.contains dependency = true then .ok (found.report schema.name dependency)
      else if found.isFinished dependency then .ok found
      else visit schemas (dependency :: opened) target found) found
  return found.finish schema
termination_by openCost opened.contains schemas
decreasing_by
  obtain ⟨mem, rfl⟩ := find?_mem _known
  have grown : ∀ name, opened.contains name = true →
      (target.name :: opened).contains name = true := by
    intro name isOpen
    simp_all
  have less := openCost_lt grown mem (Bool.eq_false_iff.2 _new) (by simp)
  unfold cost at less
  omega

/-- The visits of schemas in turn, but for those that have been visited on the way. -/
def visitAll (schemas roots : List Schema) (found : Found) : Outcome Found :=
  roots.foldlM (fun found root =>
    if found.isFinished root.name then .ok found else visit schemas [root.name] root found) found

/-- The order and the diagnostics that the visits of all schemas find. -/
def depthFirst (schemas : List Schema) : Outcome (List Schema × List Diagnostic) := do
  let found ← visitAll schemas schemas {}
  return (found.order, found.diagnostics)

/-- What becomes of one dependency in the visit of a schema. -/
def follow (schemas : List Schema) (opened : List String) (schema : Schema) (found : Found)
    (dependency : String) : Outcome Found :=
  match find? schemas dependency with
  | none => .error (dangling schema.name dependency)
  | some target =>
    if opened.contains dependency then .ok (found.report schema.name dependency)
    else if found.isFinished dependency then .ok found
    else visit schemas (dependency :: opened) target found

variable {schemas : List Schema} {schema : Schema} {rest : List Frame}

lemma visit_eq (opened : List String) (found : Found) : visit schemas opened schema found =
    (do return (← schema.dependsOn.foldlM (follow schemas opened schema) found).finish schema) := by
  rw [visit]
  congr 2
  funext found dependency
  unfold follow
  split <;> simp [dite_eq_ite, *]

/-! ### Runs -/

/-- The search that has found the same, with schemas open. -/
def Found.on (found : Found) (stack : List Frame) : State := ⟨stack, found.order, found.diagnostics⟩

lemma Found.isOpen_on (found : Found) (stack : List Frame) (name : String) :
    (found.on stack).isOpen name = (stack.map (·.schema.name)).contains name := by
  rw [List.contains_eq_any_beq, List.any_map]
  simp only [Found.on, State.isOpen, Function.comp_def, Bool.beq_comm]

/-- A run that begins with the opening of a schema visits it, and goes on with those around it. -/
def RunVisits (schemas : List Schema) (schema : Schema) (found : Found) (rest : List Frame) :
    Prop :=
  run schemas (found.on (⟨schema, schema.dependsOn⟩ :: rest)) =
    visit schemas (schema.name :: rest.map (·.schema.name)) schema found >>= fun found =>
      run schemas (found.on rest)

/-- A run on what a schema still depends on follows these dependencies, puts the schema in order and
goes on, as long as it visits the schemas that it opens on the way. -/
lemma run_eq_follow (pending : List String) (found : Found)
    (visits : ∀ dependency ∈ pending, ∀ target, find? schemas dependency = some target →
      ∀ found : Found, ¬ (schema.name :: rest.map (·.schema.name)).contains dependency = true →
      ¬ found.isFinished dependency = true →
      ∀ pending, RunVisits schemas target found (⟨schema, pending⟩ :: rest)) :
    run schemas (found.on (⟨schema, pending⟩ :: rest)) =
      pending.foldlM (follow schemas (schema.name :: rest.map (·.schema.name)) schema) found >>=
        fun found => run schemas ((found.finish schema).on rest) := by
  induction pending generalizing found with
  | nil => exact run_of_step (.finish ..)
  | cons dependency pending ih =>
    have more := fun found => ih found fun d mem => visits d (List.mem_cons_of_mem _ mem)
    have opened : (found.on (⟨schema, dependency :: pending⟩ :: rest)).isOpen dependency =
        (schema.name :: rest.map (·.schema.name)).contains dependency := found.isOpen_on ..
    rw [List.foldlM_cons, follow]
    cases known : find? schemas dependency with
    | none => exact run_missing known ..
    | some target =>
      obtain ⟨-, rfl⟩ := find?_mem known
      dsimp only
      split_ifs with isOpen isFinished
      · have step := Step.drop _ _ _ pending rest _ _ known (opened.trans isOpen)
        exact (run_of_step step).trans (more (found.report schema.name target.name))
      · have notOpen := opened.trans (Bool.eq_false_iff.2 isOpen)
        have step := Step.skip _ _ _ pending rest _ _ known notOpen isFinished
        exact (run_of_step step).trans (more found)
      · have notOpen := opened.trans (Bool.eq_false_iff.2 isOpen)
        have step := Step.enter _ _ _ pending rest _ _ known notOpen
          (Bool.eq_false_iff.2 isFinished)
        have visited : RunVisits schemas target found (⟨schema, pending⟩ :: rest) :=
          visits _ List.mem_cons_self target known found isOpen isFinished pending
        rw [bind_assoc, ← funext more]
        exact (run_of_step step).trans visited

/-- Whatever the schemas around it, a run visits the schema that it begins with. -/
lemma run_visits (schema : Schema) (found : Found) (rest : List Frame) :
    RunVisits schemas schema found rest := by
  suffices ∀ opened, opened = schema.name :: rest.map (·.schema.name) →
      RunVisits schemas schema found rest from this _ rfl
  intro opened isOpened
  -- the recursion of the visits, which open one schema more at each level
  induction opened, schema, found using visit.induct schemas generalizing rest with
  | case1 opened schema found ih =>
    subst isOpened
    rw [RunVisits, visit_eq, bind_assoc]
    refine run_eq_follow _ _ fun dependency mem target known found new notFinished pending => ?_
    obtain ⟨-, rfl⟩ := find?_mem known
    exact ih found _ mem target known new notFinished (⟨schema, pending⟩ :: rest) rfl

/-- A run from an empty stack visits the roots as the recursive search does. -/
lemma runAll_eq_visitAll (roots : List Schema) (found : Found) :
    runAll schemas roots (found.on []) = (Found.on · []) <$> visitAll schemas roots found := by
  induction roots generalizing found with
  | nil => rfl
  | cons root rest ih =>
    have same : (found.on []).isFinished root.name = found.isFinished root.name := rfl
    rw [runAll, visitAll, List.foldlM_cons, same]
    split_ifs with isFinished
    · exact ih found
    · have visited : run schemas ((found.on []).enter root) =
          visit schemas [root.name] root found >>= fun found => run schemas (found.on []) :=
        run_visits root found []
      rw [visited]
      cases visit schemas [root.name] root found with
      | error fault => rfl
      | ok next =>
        have ended : run schemas (next.on []) = .ok (next.on []) := run_nil _ _
        exact (congrArg (· >>= runAll schemas rest) ended).trans (ih next)

/-- The search finds the same order and the same diagnostics as the visits of all schemas, or fails
at the same dependency. Where names are distinct and all dependencies are among the schemas, both
find an order. -/
theorem sort_eq_depthFirst (schemas : List Schema) :
    sort schemas = depthFirst schemas ∧
    ((schemas.map (·.name)).Nodup →
      (∀ schema ∈ schemas, ∀ d ∈ schema.dependsOn, d ∈ schemas.map (·.name)) →
      ∃ order diagnostics, sort schemas = .ok (order, diagnostics) ∧
        depthFirst schemas = .ok (order, diagnostics)) := by
  have same : sort schemas = depthFirst schemas := by
    have all : runAll schemas schemas {} = (Found.on · []) <$> visitAll schemas schemas {} :=
      runAll_eq_visitAll schemas {}
    rw [sort, depthFirst, all]
    cases visitAll schemas schemas {} <;> rfl
  refine ⟨same, fun distinct known => ?_⟩
  obtain ⟨order, diagnostics, ok, -⟩ := sort_sorted distinct known
  exact ⟨order, diagnostics, ok, same ▸ ok⟩

/-- The recursive search puts the overlapping cycles in the same order. -/
theorem depthFirst_overlappingCycles : ∃ order diagnostics,
    sort overlappingCycles = .ok (order, diagnostics) ∧
      depthFirst overlappingCycles = .ok (order, diagnostics) :=
  (sort_eq_depthFirst overlappingCycles).2 (by decide) (by decide)

end EntityModel.CreationOrder
