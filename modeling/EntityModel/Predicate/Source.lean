import EntityModel.Predicate.Grammar
import EntityModel.Text.Blank

/-!
# Predicates given as text

A predicate that is given as text is passed on as it is, without the blanks around it. But where the
text starts like a lambda expression, only the body counts, as the statement that returns it. At
each place at which a lambda expression may start, from left to right, the longest text that is one
is looked for, and the first place at which there is one counts; what follows it is dropped.
-/

namespace EntityModel.Predicate

def lambdaWord : List Char := "lambda".toList

/-- A lambda expression in code. -/
structure FoundLambda where
  /-- the code that is the lambda expression -/
  code : List Char
  node : Node
  deriving Repr

namespace FoundLambda

/-- The longest of the first `n` beginnings of code that is a lambda expression. -/
def longest? (code : List Char) : Nat → Option FoundLambda
  | 0 => none
  | n + 1 => match Node.ofLambda? (code.take (n + 1)) with
    | some node => some ⟨code.take (n + 1), node⟩
    | none => longest? code n

/-- The lambda expressions in code, one for each place at which one starts. -/
def all : List Char → List FoundLambda
  | [] => []
  | c :: rest =>
    if lambdaWord.isPrefixOf (c :: rest) then
      (longest? (c :: rest) (rest.length + 1)).toList ++ all rest
    else all rest

def first? : List Char → Option FoundLambda
  | [] => none
  | c :: rest =>
    if lambdaWord.isPrefixOf (c :: rest) then
      (longest? (c :: rest) (rest.length + 1)).or (first? rest)
    else first? rest

def body (l : FoundLambda) : List Char :=
  match l.node.parts with
  | [_, body] => l.code.extract body.start body.stop
  | _ => []

def statement (l : FoundLambda) : String := "return " ++ String.ofList l.body

end FoundLambda

def sourceOfText (text : String) : String :=
  let cs := Text.trim text.toList
  let found := if lambdaWord.isPrefixOf cs then FoundLambda.first? cs else none
  match found with
  | some l => l.statement
  | none => String.ofList cs

end EntityModel.Predicate
