import EntityModel.Fault
import EntityModel.Predicate.Run
import EntityModel.Text.Lines

/-!
# Predicates that are functions

The source of a predicate that code leaves behind. Of a lambda expression it is the statement that
returns its body. Of a definition it is the lines of its body, without a text that documents it and
without the margin, as long as something else follows that text. Functions whose lines are not those
of the code have no source.
-/

namespace EntityModel.Predicate

/-! ### Functions behind things -/

namespace Store

/-- The function behind a thing: what a wrapped function is made to look like, what is bound to a
receiver, or the function itself. -/
def unwrapped? (s : Store) : (fuel : Nat) → Thing → Option Closure
  | 0, _ => .none
  | n + 1, t => match s.object? t with
    | some (.function c) => match c.attributes.lookup "__wrapped__" with
      | some inner => s.unwrapped? n inner
      | .none => some c
    | some (.bound _ function) => s.unwrapped? n function
    | some (.wrapped .cached inner) | some (.wrapped .static inner)
    | some (.wrapped .ofClass inner) =>
      s.unwrapped? n inner
    | _ => .none

def shownName? (s : Store) : (fuel : Nat) → Thing → Option String
  | 0, _ => .none
  | n + 1, t => match s.object? t with
    | some (.function c) => some c.name
    | some (.bound _ function) => s.shownName? n function
    | some (.wrapped .cached inner) | some (.wrapped .static inner)
    | some (.wrapped .ofClass inner) =>
      s.shownName? n inner
    | _ => .none

/-- The function that a thing is by itself, or that is bound to a receiver. -/
def ownFunction? (s : Store) (t : Thing) : Option Closure :=
  match s.object? t with
  | some (.bound _ function) => s.closure? function
  | _ => s.closure? t

/-- What has to be known of a function to find it among others. -/
def sideOf (s : Store) (code : List Char) (c : Closure) : Side :=
  { code
    parameters := c.node.parameterNames
    isFree := fun name => s.isBoundAround (String.ofList name) (s.size + 1) c.scope
    inClass := s.isInClass (s.size + 1) c.scope }

end Store

/-! ### Bodies of definitions -/

/-- The definition of a function that a statement is, decorated or not. -/
def Node.definition? (n : Node) : Option Node :=
  match n.form, n.parts.getLast? with
  | .function, _ => some n
  | .decorated, some definition => if definition.form = .function then some definition else none
  | _, _ => none

/-- The statements right inside of a statement. -/
def Node.inside (n : Node) : List Node :=
  n.parts.flatMap fun p => match p.form with
    | .block => p.parts
    | .handler | .selected | .classDefinition => [p]
    | _ => []

/-- The first definition of a function, those further out coming first. -/
def firstDefinition? : Nat → List Node → Option Node
  | 0, _ => none
  | n + 1, level =>
    if level.isEmpty then none
    else level.findSome? Node.definition? <|> firstDefinition? n (level.flatMap Node.inside)

/-- Whether a statement is nothing but a text. -/
def Node.isText (n : Node) : Bool :=
  match n.form, n.parts with
  | .expression, [e] => e.form = .string
  | _, _ => false

/-- The statements of a body without the text that documents it. -/
def withoutDocumentation : List Node → List Node
  | first :: second :: rest => if first.isText then second :: rest else first :: second :: rest
  | statements => statements

/-- The lines of code on which statements stand, without their margin. -/
def linesAround (code : List Char) (statements : List Node) : List Char :=
  let first := lineOf code ((statements.head?.map Node.start).getD 0)
  let last := lineOf code ((statements.getLast?.map Node.stop).getD 0)
  Text.trim (Text.dedented (Text.joinLines (((Text.linesOf code).take (last + 1)).drop first)))

def bodyOfBlock? (block : List Char) : Option (List Char) := do
  let code := Text.dedented block
  let module ← Node.ofCode? code
  let definition ← firstDefinition? (code.length + 1) module.parts
  match definition.parts with
  | _ :: body :: _ => return linesAround code (withoutDocumentation body.parts)
  | _ => none

/-! ### Sources -/

/-- The source of the function behind a thing; none where it cannot be recovered. A lambda
expression that is hidden in a wrapper cannot be told from others. -/
def Store.sourceOf (s : Store) (code : List Char) (t : Thing) : Outcome (Option String) :=
  let fuel := s.size + 1
  match s.unwrapped? fuel t with
  | .none => .ok .none
  | some c =>
    let block := blockAt code c.line
    if s.shownName? fuel t = some "<lambda>" then
      if (FoundLambda.all block).isEmpty then .ok .none
      else match s.ownFunction? t with
        | some own =>
          .ok ((FoundLambda.choose? block (s.sideOf code own) own.node).map FoundLambda.statement)
        | .none => wrongKind
    else .ok ((bodyOfBlock? block).map String.ofList)

/-- The name under which code leaves its predicate behind. -/
def resultName : String := "predicate"

/-- The source of the predicate that code leaves behind. -/
def sourceOfCode (code : String) : Outcome (Option String) :=
  match resultOf? resultName code.toList with
  | some (.text s, _) => .ok (some (sourceOfText s))
  | some (t, s) => s.sourceOf code.toList t
  | none => .ok none

end EntityModel.Predicate
