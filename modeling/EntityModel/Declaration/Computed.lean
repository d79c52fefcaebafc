import EntityModel.Value.Reading

/-!
# Computed property declarations

A property that is derived rather than stored. Its type may be left out; it is then inferred from
the name during analysis.
-/

namespace EntityModel

/-- The declaration of a computed property. -/
structure Computed where
  name : Value
  type : Value := .null
  description : Value := .text ""
  deriving Repr

namespace Computed

/-- The document form of a computed property. -/
def encode (c : Computed) : Value :=
  .record ([("name", c.name)] ++
    (if c.type.isGiven then [("type", c.type)] else []) ++
    (if c.description.isGiven then [("description", c.description)] else []))

/-- A computed property out of a document or a bare name. -/
def decode : Value → Outcome Computed
  | .text name => .ok { name := .text name }
  | data => do
    return ⟨← data.entry "name", ← data.optional "type", ← data.entryOr "description" (.text "")⟩

/-- Whether two computed properties are equal. -/
def same (c d : Computed) : Bool :=
  c.name.same d.name && c.type.same d.type && c.description.same d.description

end Computed

end EntityModel
