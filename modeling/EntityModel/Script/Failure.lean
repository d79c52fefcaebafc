import EntityModel.Script.Signature

/-!
# Failures built by calls

A failure out of the arguments of the call that builds it.
-/

namespace EntityModel.Script

/-- The kinds of failures. -/
inductive FailureKind where
  | general | definition | duplicateEntity | invariant
  deriving DecidableEq, Repr

namespace FailureKind

/-- The parameters of the call that builds a failure of a kind. -/
def signature : FailureKind → Signature
  | general => { required := ["message"], optional := ["code", "details"] }
  | definition => { required := ["message"], optional := ["entity", "path"] }
  | duplicateEntity => { required := ["name"] }
  | invariant => { required := ["message"], optional := ["entity", "invariant"] }

/-- A failure of a kind out of the arguments of a call. -/
def build (kind : FailureKind) (args : List Value) (named : List (String × Value)) :
    Outcome Failure := do
  let bound ← kind.signature.bind args named
  let get (parameter : String) : Value := (bound.get? parameter).getD .null
  return match kind with
    | general => .general (get "message") (get "code") (get "details")
    | definition => .definition (some (get "message")) (get "entity") (get "path")
    | duplicateEntity => .duplicateEntity (get "name")
    | invariant => .invariant (get "message") (get "entity") (get "invariant")

end FailureKind

end EntityModel.Script
