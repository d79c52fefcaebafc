import EntityModel.Analysis.Schema

/-!
# Creation order

Schemas in an order in which those that a schema depends on come before it. A depth-first search
follows the dependencies in the order in which they are listed; one that is still open closes a
cycle, is dropped from the order and is reported.

The search keeps the open schemas with their remaining dependencies, innermost first. What is open
or finished can be read off that stack and the order so far, so nothing else is kept.
-/

namespace EntityModel.CreationOrder

/-- An open schema and those of its dependencies that have not been followed yet. -/
structure Frame where
  schema : Schema
  pending : List String

/-- A search under way. -/
structure State where
  stack : List Frame := []
  order : List Schema := []
  diagnostics : List Diagnostic := []

namespace State

def isOpen (s : State) (name : String) : Bool := s.stack.any (·.schema.name == name)

def isFinished (s : State) (name : String) : Bool := s.order.any (·.name == name)

/-- Whether the schema of a name is open or finished. -/
def isEntered (s : State) (name : String) : Bool := s.isOpen name || s.isFinished name

/-- The state with one more open schema. -/
def enter (s : State) (schema : Schema) : State :=
  { s with stack := ⟨schema, schema.dependsOn⟩ :: s.stack }

end State

/-- The schema of a name; of several the last one. -/
def find? (schemas : List Schema) (name : String) : Option Schema :=
  schemas.reverse.find? (·.name == name)

/-- The diagnostic for a dependency that closes a cycle. -/
def circular (schema dependency : String) : Diagnostic where
  kind := .circularDependency
  entity := .text schema
  subject := .text dependency
  message :=
    .text ("Circular dependency between '" ++ schema ++ "' and '" ++ dependency ++ "'; '" ++
    schema ++ "' may be created before '" ++ dependency ++ "'.")
  suggestion := .text "Make one side of the cycle nullable so it can be filled in later."

/-- The fault of a dependency that is not among the schemas. -/
def dangling (schema dependency : String) : Fault :=
  .failed (.invariant
    (.text ("'" ++ schema ++ "' depends on '" ++ dependency ++ "', which is not in the schema set"))
    (.text schema) (.text "depends_on"))

/-! ### Measure -/

/-- What entering a schema can cost: two steps, and one for each dependency. -/
def cost (schema : Schema) : Nat := schema.dependsOn.length + 2

/-- What entering the schemas that have not been entered can cost. -/
def openCost (entered : String → Bool) : List Schema → Nat
  | [] => 0
  | schema :: rest =>
    (if entered schema.name then 0 else cost schema) + openCost entered rest

/-- What is left to do on the stack: a step for each open schema and one for each dependency. -/
def stackCost : List Frame → Nat
  | [] => 0
  | frame :: rest => frame.pending.length + 1 + stackCost rest

/-- The steps that a search can still take. -/
def State.remaining (schemas : List Schema) (s : State) : Nat :=
  openCost s.isEntered schemas + stackCost s.stack

/-- The more schemas have been entered, the less it costs to open the others. -/
theorem openCost_mono {entered entered' : String → Bool}
    (h : ∀ name, entered name = true → entered' name = true) (schemas : List Schema) :
    openCost entered' schemas ≤ openCost entered schemas := by
  induction schemas with
  | nil => simp [openCost]
  | cons schema rest ih =>
    have := h schema.name
    simp only [openCost]
    by_cases h₁ : entered schema.name = true
    · simp only [h₁, h schema.name h₁, if_true]
      omega
    · by_cases h₂ : entered' schema.name = true
      · simp only [h₁, h₂, if_true]
        simp
        omega
      · simp only [h₁, h₂]
        simp
        omega

/-- Entering a schema takes its cost off what is left. -/
theorem openCost_lt {entered entered' : String → Bool}
    (h : ∀ name, entered name = true → entered' name = true) {schemas : List Schema}
    {schema : Schema} (mem : schema ∈ schemas) (fresh : entered schema.name = false)
    (now : entered' schema.name = true) :
    openCost entered' schemas + cost schema ≤ openCost entered schemas := by
  induction schemas with
  | nil => simp at mem
  | cons first rest ih =>
    simp only [openCost]
    rcases List.mem_cons.1 mem with rfl | mem
    · have := openCost_mono h rest
      simp [fresh, now]
      omega
    · have := ih mem
      by_cases h₁ : entered first.name = true
      · simp only [h₁, h first.name h₁, if_true]
        omega
      · by_cases h₂ : entered' first.name = true
        · simp only [h₁, h₂, if_true]
          simp
          omega
        · simp only [h₁, h₂]
          simp
          omega

/-- A schema that is found is one of the list and has the name that was asked for. -/
theorem find?_mem {schemas : List Schema} {name : String} {schema : Schema}
    (h : find? schemas name = some schema) : schema ∈ schemas ∧ schema.name = name := by
  have mem := List.mem_of_find?_eq_some h
  have eq := List.find?_some h
  exact ⟨List.mem_reverse.1 mem, by simpa using eq⟩

/-! ### Search -/

/-- The search carried on until no schema is open. -/
def run (schemas : List Schema) (s : State) : Outcome State :=
  match _hs : s.stack with
  | [] => .ok s
  | ⟨schema, []⟩ :: rest =>
    run schemas { s with stack := rest, order := s.order ++ [schema] }
  | ⟨schema, dependency :: pending⟩ :: rest =>
    match _hf : find? schemas dependency with
    | none => .error (dangling schema.name dependency)
    | some target =>
      if s.isOpen dependency then
        run schemas { s with
          stack := ⟨schema, pending⟩ :: rest
          diagnostics := s.diagnostics ++ [circular schema.name dependency] }
      else if _hd : s.isFinished dependency then
        run schemas { s with stack := ⟨schema, pending⟩ :: rest }
      else
        run schemas (State.enter { s with stack := ⟨schema, pending⟩ :: rest } target)
termination_by s.remaining schemas
decreasing_by
  · have le : openCost (State.isEntered { s with stack := rest, order := s.order ++ [schema] })
        schemas ≤ openCost s.isEntered schemas := by
      apply openCost_mono
      intro name
      simp only [State.isEntered, State.isOpen, State.isFinished, _hs, List.any_cons,
        List.any_append, List.any_nil, Bool.or_eq_true, Bool.or_false]
      rintro ((h | h) | h)
      · exact .inr (.inr h)
      · exact .inl h
      · exact .inr (.inl h)
    simp only [State.remaining, stackCost, _hs, List.length_nil]
    omega
  · have le : openCost (State.isEntered { s with
          stack := ⟨schema, pending⟩ :: rest
          diagnostics := s.diagnostics ++ [circular schema.name dependency] }) schemas ≤
        openCost s.isEntered schemas := by
      apply openCost_mono
      intro name
      simp [State.isEntered, State.isOpen, State.isFinished, _hs]
    simp only [State.remaining, stackCost, _hs, List.length_cons]
    omega
  · have le : openCost (State.isEntered { s with stack := ⟨schema, pending⟩ :: rest }) schemas ≤
        openCost s.isEntered schemas := by
      apply openCost_mono
      intro name
      simp [State.isEntered, State.isOpen, State.isFinished, _hs]
    simp only [State.remaining, stackCost, _hs, List.length_cons]
    omega
  · rename_i notOpen
    obtain ⟨mem, name⟩ := find?_mem _hf
    have mono : ∀ name, s.isEntered name = true →
        (State.enter { s with stack := ⟨schema, pending⟩ :: rest } target).isEntered name =
          true := by
      intro name
      simp only [State.isEntered, State.isOpen, State.isFinished, State.enter, _hs, List.any_cons,
        Bool.or_eq_true]
      rintro ((h | h) | h)
      · exact .inl (.inr (.inl h))
      · exact .inl (.inr (.inr h))
      · exact .inr h
    have fresh : s.isEntered target.name = false := by
      rw [name]
      simp only [Bool.not_eq_true] at notOpen _hd
      simp [State.isEntered, notOpen, _hd]
    have lt := openCost_lt mono mem fresh (by simp [State.isEntered, State.isOpen, State.enter])
    simp only [State.remaining, stackCost, State.enter, cost, _hs, List.length_cons] at lt ⊢
    omega

/-- The search from each schema in turn that has not been reached before. -/
def runAll (schemas : List Schema) : (roots : List Schema) → State → Outcome State
  | [], s => .ok s
  | root :: rest, s =>
    if s.isFinished root.name then runAll schemas rest s
    else do runAll schemas rest (← run schemas (s.enter root))

/-- Schemas in an order in which they can be created, with a diagnostic for each dependency that
was dropped. A dependency that is not among the schemas is a fault. -/
def sort (schemas : List Schema) : Outcome (List Schema × List Diagnostic) := do
  let final ← runAll schemas schemas {}
  return (final.order, final.diagnostics)

end EntityModel.CreationOrder
