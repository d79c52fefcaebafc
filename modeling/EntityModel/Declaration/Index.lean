import EntityModel.Declaration.Kind
import EntityModel.Value.Reading

/-!
# Index declarations

An index that an entity asks for, over one or more of its fields.
-/

namespace EntityModel

/-- The declaration of an index. -/
structure Index where
  fields : List Value
  name : Value := .null
  method : IndexMethod := .btree
  using_ : Value := .null
  unique : Value := .bool false
  where_ : Value := .null
  concurrently : Value := .bool false
  deriving Repr

namespace Index

/-- The index itself, if it covers a field. -/
def checked (i : Index) : Outcome Index :=
  if i.fields.isEmpty then refuse .noIndexFields else .ok i

def encode (i : Index) : Value :=
  .record ([("fields", .list i.fields), ("type", .text i.method.tag)] ++
    (if i.name.isGiven then [("name", i.name)] else []) ++
    (if i.using_.isGiven then [("using", i.using_)] else []) ++
    (if i.unique.isGiven then [("unique", .bool true)] else []) ++
    (if i.where_.isGiven then [("where", i.where_)] else []) ++
    (if i.concurrently.isGiven then [("concurrently", .bool true)] else []))

def decode (data : Value) : Outcome Index := do
  let fields ← (← data.entry "fields").elements
  let name ← data.optional "name"
  let method ← IndexMethod.member (← data.entryOr "type" (.text "btree"))
  checked {
    fields, name, method, using_ := ← data.optional "using",
    unique := ← data.entryOr "unique" (.bool false), where_ := ← data.optional "where",
    concurrently := ← data.entryOr "concurrently" (.bool false) }

/-- Whether two indexes are equal. -/
def same (i j : Index) : Bool :=
  Value.sameItems i.fields j.fields && i.name.same j.name && i.method == j.method &&
    i.using_.same j.using_ && i.unique.same j.unique && i.where_.same j.where_ &&
    i.concurrently.same j.concurrently

end Index

end EntityModel
