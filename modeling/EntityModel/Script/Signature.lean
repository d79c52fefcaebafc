import EntityModel.Fault

/-!
# Signatures of calls

Arguments of a call are given in order or by name. A signature says which parameters there are;
binding gives each parameter its argument, and refuses a call with an argument that has no
parameter, a parameter with two arguments, or a required parameter without one.
-/

namespace EntityModel.Script

/-- The parameters of a function. -/
structure Signature where
  /-- parameters that need an argument, in order or by name -/
  required : List String := []
  /-- parameters after them that may be left out -/
  optional : List String := []
  /-- parameters that can only be given by name, and may be left out -/
  byName : List String := []
  /-- whether further arguments may be given in order -/
  takesMore : Bool := false
  deriving Repr

/-- The arguments of a call by parameter. -/
structure Bound (α : Type) where
  named : List (String × α)
  /-- the arguments in order that have no parameter of their own -/
  more : List α := []

namespace Bound

def get? {α : Type} (b : Bound α) (parameter : String) : Option α := b.named.lookup parameter

end Bound

namespace Signature

/-- The parameters that can be given in order. -/
def inOrder (s : Signature) : List String := s.required ++ s.optional

/-- The arguments given by name added to those given in order. -/
def bindNamed {α : Type} (s : Signature) :
    List (String × α) → List (String × α) → Outcome (List (String × α))
  | bound, [] => .ok bound
  | bound, (name, v) :: rest =>
    if (s.inOrder ++ s.byName).contains name && (bound.lookup name).isNone then
      bindNamed s (bound ++ [(name, v)]) rest
    else wrongKind

/-- The arguments of a call by parameter. -/
def bind {α : Type} (s : Signature) (args : List α) (named : List (String × α)) :
    Outcome (Bound α) := do
  let more := args.drop s.inOrder.length
  if !more.isEmpty && !s.takesMore then wrongKind
  let bound ← s.bindNamed (s.inOrder.zip args) named
  if s.required.all fun parameter => (bound.lookup parameter).isSome then
    return { named := bound, more }
  else wrongKind

end Signature

end EntityModel.Script
