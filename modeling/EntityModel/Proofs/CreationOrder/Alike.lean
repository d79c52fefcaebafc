import EntityModel.Proofs.CreationOrder.Steps

/-!
# Creation orders of schemas that are alike

The search for a creation order does not look at a schema beyond its name and its dependencies.
Schemas put in place of others with the same names and dependencies come in the same order.
-/

namespace EntityModel

namespace CreationOrder

/-- The search does not look at a schema beyond its name and its dependencies. -/
structure Alike (f : Schema → Schema) : Prop where
  name : ∀ s, (f s).name = s.name
  dependsOn : ∀ s, (f s).dependsOn = s.dependsOn

variable {f : Schema → Schema}

/-- The frame of the schema that is put in place of its own. -/
def Frame.on (f : Schema → Schema) (frame : Frame) : Frame :=
  { frame with schema := f frame.schema }

/-- The state of a search in which schemas are put in place of its own. -/
def State.on (f : Schema → Schema) (s : State) : State :=
  { s with stack := s.stack.map (Frame.on f), order := s.order.map f }

lemma isOpen_on (alike : Alike f) (s : State) (name : String) :
    (s.on f).isOpen name = s.isOpen name := by
  unfold State.isOpen State.on
  rw [List.any_map]
  congr 1
  funext frame
  exact congrArg (· == name) (alike.name frame.schema)

lemma isFinished_on (alike : Alike f) (s : State) (name : String) :
    (s.on f).isFinished name = s.isFinished name := by
  unfold State.isFinished State.on
  rw [List.any_map]
  congr 1
  funext schema
  exact congrArg (· == name) (alike.name schema)

lemma find?_map (alike : Alike f) (schemas : List Schema) (name : String) :
    find? (schemas.map f) name = (find? schemas name).map f := by
  unfold find?
  rw [← List.map_reverse, List.find?_map]
  congr 2
  funext schema
  exact congrArg (· == name) (alike.name schema)

lemma enter_on (alike : Alike f) (s : State) (schema : Schema) :
    (s.enter schema).on f = (s.on f).enter (f schema) := by
  unfold State.enter State.on
  rw [alike.dependsOn]
  rfl

/-- A step is one of the search in which schemas are put in place of its own. -/
lemma Step.on (alike : Alike f) {schemas : List Schema} {s s' : State} (step : Step schemas s s') :
    Step (schemas.map f) (s.on f) (s'.on f) := by
  cases step with
  | finish schema rest order diagnostics =>
    have step : Step (schemas.map f) _ _ :=
      Step.finish (f schema) (rest.map (Frame.on f)) (order.map f) diagnostics
    simpa [State.on, Frame.on] using step
  | drop schema target dependency pending rest order diagnostics found isOpen =>
    have step := Step.drop (f schema) (f target) dependency pending (rest.map (Frame.on f))
      (order.map f) diagnostics (by rw [find?_map alike, found]; rfl)
      ((isOpen_on alike _ dependency).trans isOpen)
    simpa [State.on, Frame.on, alike.name] using step
  | skip schema target dependency pending rest order diagnostics found notOpen isFinished =>
    exact Step.skip (f schema) (f target) dependency pending (rest.map (Frame.on f))
      (order.map f) diagnostics (by rw [find?_map alike, found]; rfl)
      ((isOpen_on alike _ dependency).trans notOpen)
      ((isFinished_on alike _ dependency).trans isFinished)
  | enter schema target dependency pending rest order diagnostics found notOpen notFinished =>
    have step := Step.enter (f schema) (f target) dependency pending (rest.map (Frame.on f))
      (order.map f) diagnostics (by rw [find?_map alike, found]; rfl)
      ((isOpen_on alike _ dependency).trans notOpen)
      ((isFinished_on alike _ dependency).trans notFinished)
    rw [alike.dependsOn] at step
    exact step

lemma run_of_steps {schemas : List Schema} {s s' : State} (steps : Steps schemas s s') :
    run schemas s = run schemas s' := by
  induction steps with
  | refl => rfl
  | tail _ step ih => rw [ih, run_of_step step]

/-- A run with schemas put in place of its own ends in the state put in place of its end. -/
lemma run_on (alike : Alike f) (schemas : List Schema) (s : State) :
    run (schemas.map f) (s.on f) = State.on f <$> run schemas s := by
  have on {s' : State} (steps : Steps schemas s s') :
      run (schemas.map f) (s.on f) = run (schemas.map f) (s'.on f) :=
    run_of_steps (steps.lift (State.on f) fun _ _ step => step.on alike)
  have ends : Ends schemas s := run_ends s
  rcases ends with ⟨final, steps, idle, ok⟩ |
    ⟨stuck, schema, dependency, steps, ⟨⟨pending, rest, top⟩, missing⟩, error⟩
  · obtain ⟨stack, order, diagnostics⟩ := final
    obtain rfl : stack = [] := idle
    rw [ok, on steps]
    exact run_nil _ _
  · obtain ⟨stack, order, diagnostics⟩ := stuck
    obtain rfl : stack = _ := top
    rw [error, on steps]
    have missing : find? (schemas.map f) dependency = none := by
      rw [find?_map alike, missing]
      rfl
    have fails : run (schemas.map f) ⟨⟨f schema, dependency :: pending⟩ :: rest.map (Frame.on f),
        order.map f, diagnostics⟩ = .error (dangling (f schema).name dependency) :=
      run_missing missing pending (rest.map (Frame.on f)) (order.map f) diagnostics
    rw [alike.name] at fails
    exact fails

/-- A run on renamed schemas is the renamed run. -/
lemma runAll_on (alike : Alike f) (schemas roots : List Schema) (s : State) :
    runAll (schemas.map f) (roots.map f) (s.on f) = State.on f <$> runAll schemas roots s := by
  induction roots generalizing s with
  | nil => rfl
  | cons root rest ih =>
    rw [List.map_cons, runAll, runAll, isFinished_on alike, alike.name]
    by_cases finished : s.isFinished root.name = true
    · rw [if_pos finished, if_pos finished, ih]
    · rw [if_neg finished, if_neg finished, ← enter_on alike, run_on alike]
      cases run schemas (s.enter root) with
      | error fault => rfl
      | ok next => exact ih next

/-- Schemas put in place of others with their names and dependencies come in the same order. -/
theorem sort_map (alike : Alike f) (schemas : List Schema) :
    sort (schemas.map f) =
      (fun (order, diagnostics) => (order.map f, diagnostics)) <$> sort schemas := by
  have all : runAll (schemas.map f) (schemas.map f) {} = State.on f <$> runAll schemas schemas {} :=
    runAll_on alike schemas schemas {}
  unfold sort
  rw [all]
  cases runAll schemas schemas {} <;> rfl

end CreationOrder

end EntityModel
