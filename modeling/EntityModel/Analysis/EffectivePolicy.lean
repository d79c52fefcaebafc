import EntityModel.Declaration.Policy
import EntityModel.Predicate.Source

/-!
# Effective policies

For each operation whether access is controlled at all. It is when the operation has a predicate,
whether or not its text can be recovered, or a query fragment, or when the policy has a scope rule.
Bypass conditions are passed on as they are.
-/

namespace EntityModel

namespace Predicate

def source? : Predicate → Option String
  | written (.text s) => some (Predicate.sourceOfText s)
  | written _ => none
  | function body => body

end Predicate

/-- A policy by operation. -/
structure EffectivePolicy where
  controlled : Operation → Bool := fun _ => false
  scope : List Scope := []
  bypass : List Bypass := []
  /-- the texts of the predicates that have one -/
  predicates : List (Operation × String) := []
  /-- the query fragments -/
  sql : List (Operation × Value) := []

namespace EffectivePolicy

/-- Whether any operation is controlled. -/
def enabled (p : EffectivePolicy) : Bool := Operation.all.any p.controlled

/-- Whether a declared policy controls an operation. -/
def controls (p : Policy) (op : Operation) : Bool :=
  (p.predicate op).isDeclared || (p.fragment op).isGiven || !p.scope.isEmpty

def ofPolicy (p : Policy) : EffectivePolicy where
  controlled := controls p
  scope := p.scope
  bypass := p.bypass
  predicates := Operation.all.filterMap fun op => ((p.predicate op).source?).map (op, ·)
  sql := Operation.all.filterMap fun op =>
    if (p.fragment op).isGiven then some (op, p.fragment op) else none

/-- What follows from a policy that may not be declared: then nothing is controlled. -/
def ofOption : Option Policy → EffectivePolicy
  | some p => ofPolicy p
  | none => {}

/-- The document form of an effective policy. -/
def encode (p : EffectivePolicy) : Value :=
  .record ([("enabled", .bool p.enabled)] ++
    Operation.all.map (fun op => (op.name, .bool (p.controlled op))) ++
    [("scope", .list (p.scope.map Scope.encode)), ("bypass", .list (p.bypass.map Bypass.encode)),
      ("predicates", .record (p.predicates.map fun (op, s) => (op.name, .text s))),
      ("sql", .record (p.sql.map fun (op, v) => (op.name, v)))])

end EffectivePolicy

end EntityModel
