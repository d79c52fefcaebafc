import EntityModel.Predicate.Function
import EntityModel.Script.Function

/-!
# Expressions of declaration scripts

A declaration may be written as an expression of nested calls. Expressions are evaluated from the
inside out, the arguments of a call in the order in which they are written.
-/

namespace EntityModel.Script

/-- An expression. -/
inductive Expression where
  | plain (s : Scalar)
  | list (items : List Expression)
  | object (entries : List (Scalar × Expression))
  | call (function : String) (args : List Expression) (named : List (String × Expression))
  /-- a kind of field, by its constant -/
  | fieldKind (constant : String)
  /-- a kind of relation, by its constant -/
  | relationKind (constant : String)
  /-- a compiled pattern -/
  | pattern (source : String)
  /-- what code leaves behind as its predicate -/
  | code (source : String)

instance : Inhabited Expression := ⟨.plain .null⟩

/-- The item that code leaves behind as its predicate: a value where it is one, else a function with
its source. -/
def Item.ofCode (source : String) : Outcome Item := do
  match Predicate.resultOf? Predicate.resultName source.toList with
  | some (.text s, _) => return .plain (.text s)
  | some (.number i, _) => return .plain (.int i)
  | some (.truth b, _) => return .plain (.bool b)
  | some (.none, _) => return .plain .null
  | some (t, store) => return .function (← store.sourceOf source.toList t)
  | none => return .function none

namespace Expression

def fieldKindOf (constant : String) : Outcome Item :=
  match FieldKind.all.find? (·.constant == constant) with
  | some kind => .ok (.fieldKind kind)
  | none => .error (.missingKey constant)

def relationKindOf (constant : String) : Outcome Item :=
  match RelationKind.all.find? (·.constant == constant) with
  | some kind => .ok (.relationKind kind)
  | none => .error (.missingKey constant)

def callNamed (function : String) (args : List Item) (named : List (String × Item)) :
    Outcome Item :=
  match Function.ofName? function with
  | some f => f.call args named
  | none => wrongKind

mutual

def evaluate : Expression → Outcome Item
  | plain s => .ok (.plain s)
  | list items => do return .list (← evaluateAll items)
  | object entries => do return .map (← evaluateEntries entries)
  | call function args named => do
    let args ← evaluateAll args
    let named ← evaluateNamed named
    callNamed function args named
  | fieldKind constant => fieldKindOf constant
  | relationKind constant => relationKindOf constant
  | pattern source => .ok (.pattern source)
  | code source => Item.ofCode source
termination_by structural e => e

def evaluateAll : List Expression → Outcome (List Item)
  | [] => .ok []
  | e :: rest => do return (← e.evaluate) :: (← evaluateAll rest)
termination_by structural es => es

def evaluateEntries :
    List (Scalar × Expression) → Outcome (List (Scalar × Item))
  | [] => .ok []
  | (key, e) :: rest => do return (key, ← e.evaluate) :: (← evaluateEntries rest)
termination_by structural es => es

/-- What expressions that are given by name stand for. -/
def evaluateNamed :
    List (String × Expression) → Outcome (List (String × Item))
  | [] => .ok []
  | (name, e) :: rest => do return (name, ← e.evaluate) :: (← evaluateNamed rest)
termination_by structural es => es

end

end Expression

end EntityModel.Script
