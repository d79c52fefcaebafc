import EntityModel.Declaration.Kind
import EntityModel.Value.Reading

/-!
# Relation declarations

An association from the entity that declares it to a target entity. The foreign key may be left out;
it is then found during analysis. A relation with a join entity is many-to-many, whatever its kind
says.
-/

namespace EntityModel

/-- Columns and directions by which related records are ordered. -/
structure SortOrder where
  keys : List (Scalar × Value)
  /-- whether it was given as a list of pairs and not as a mapping -/
  listed : Bool := false
  deriving Repr

/-- The declaration of a relation. -/
structure Relation where
  name : Value
  kind : RelationKind
  target : Value
  foreignKey : Value := .null
  eager : Value := .bool false
  orderBy : Option SortOrder := none
  limit : Value := .null
  through : Value := .null
  otherKey : Value := .null
  deriving Repr

namespace SortOrder

/-- The columns and directions as a mapping. -/
def encode (o : SortOrder) : Value := .map (Entries.ofPairs o.keys)

/-- Whether every direction is an ascending or a descending one. -/
def checkDirections : List (Scalar × Value) → Outcome Unit
  | [] => .ok ()
  | (column, direction) :: rest => do
    let written ← direction.asText
    let word := Text.lowercase written
    if word == "asc" || word == "desc" then checkDirections rest
    else refuse (.direction column written)

/-- Whether two orders are equal. -/
def same (o p : SortOrder) : Bool :=
  let flat (o : SortOrder) : List Value := o.keys.flatMap fun (k, v) => [.scalar k, v]
  o.listed == p.listed && Value.sameItems (flat o) (flat p)

end SortOrder

namespace Relation

def givenOrder (r : Relation) : Option SortOrder := r.orderBy.filter fun o => !o.keys.isEmpty

/-- The relation itself, if it has a name and a target and its order and limit make sense. -/
def checked (r : Relation) : Outcome Relation := do
  if !r.name.isGiven then refuse (.emptyName .relation)
  if !r.target.isGiven then refuse (.noRelationTarget r.name)
  match r.orderBy with
  | some o => SortOrder.checkDirections o.keys
  | none => pure ()
  if !r.limit.isNull then
    if ← Value.before r.limit (.int 0) then refuse (.negativeLimit r.limit)
  return r

/-- Whether the relation goes through a join entity. -/
def isManyToMany (r : Relation) : Bool :=
  r.kind = .manyToMany || (r.kind = .hasMany && !r.through.isNull)

def encode (r : Relation) : Value :=
  .record ([("name", r.name), ("kind", .text r.kind.tag), ("target", r.target)] ++
    (if r.foreignKey.isGiven then [("foreign_key", r.foreignKey)] else []) ++
    (if r.eager.isGiven then [("eager", .bool true)] else []) ++
    (match r.givenOrder with | some o => [("order_by", o.encode)] | none => []) ++
    (if r.limit.isNull then [] else [("limit", r.limit)]) ++
    (if r.through.isGiven then [("through", r.through)] else []) ++
    (if r.otherKey.isGiven then [("other_key", r.otherKey)] else []))

/-- The kind of a relation out of its document, where it is called kind or type. -/
def decodeKind (data : Value) : Outcome RelationKind := do
  let kind ← data.optional "kind"
  let written ← if kind.isGiven then .ok kind else data.entry "type"
  RelationKind.parse (← written.asText)

/-- The order out of a mapping of columns to directions. -/
def decodeOrder (written : Value) : Outcome (Option SortOrder) := do
  if written.isGiven then return some { keys := ← written.asMap } else return none

/-- A relation out of a document; a name that counts as given replaces the one in the document. -/
def decode (name : Value) (data : Value) : Outcome Relation := do
  let order ← data.optional "order_by"
  let name ← if name.isGiven then .ok name else data.entry "name"
  let kind ← decodeKind data
  let target ← data.entry "target"
  let foreignKey ← data.optional "foreign_key"
  let eager ← data.entryOr "eager" (.bool false)
  let orderBy ← decodeOrder order
  let limit ← data.optional "limit"
  let through ← data.optional "through"
  let otherKey ← data.optional "other_key"
  checked { name, kind, target, foreignKey, eager, orderBy, limit, through, otherKey }

/-- Whether two relations are equal. -/
def same (r s : Relation) : Bool :=
  r.name.same s.name && r.kind == s.kind && r.target.same s.target &&
    r.foreignKey.same s.foreignKey && r.eager.same s.eager &&
    (match r.orderBy, s.orderBy with
      | none, none => true
      | some o, some p => o.same p
      | _, _ => false) &&
    r.limit.same s.limit && r.through.same s.through && r.otherKey.same s.otherKey

end Relation

end EntityModel
