import EntityModel.Declaration.Kind
import EntityModel.Value.Reading

/-!
# Field declarations

A field of an entity, which may hold further fields: the elements of an array, the parts of an
object. A declaration is accepted when it has a name and its kind has what it needs: an enumeration
its values, a reference its target, an array its elements, an object parts of distinct names. A tag
that names no kind is accepted here.

Flags, the default, the description and the like are kept as they were written.
-/

namespace EntityModel

/-! ### Constraints -/

/-- Bounds and a pattern for the values of a field; null where none is given. -/
structure Constraints where
  min : Value := .null
  max : Value := .null
  pattern : Value := .null
  message : Value := .null
  deriving Repr

namespace Constraints

def make (min max pattern message : Value) : Outcome Constraints := do
  if !min.isNull && !max.isNull then
    if ← Value.before max min then refuse (.crossedBounds min max)
  return ⟨min, max, pattern, message⟩

def encode (c : Constraints) : Value :=
  .record ([("min", c.min), ("max", c.max), ("pattern", c.pattern), ("message", c.message)].filter
    fun entry => !entry.2.isNull)

def decode (data : Value) : Outcome Constraints := do
  make (← data.optional "min") (← data.optional "max") (← data.optional "pattern")
    (← data.optional "message")

/-- Whether two constraints are equal. -/
def same (c d : Constraints) : Bool :=
  Value.same c.min d.min && Value.same c.max d.max && Value.same c.pattern d.pattern &&
    Value.same c.message d.message

end Constraints

/-! ### Fields -/

/-- The attributes of a field apart from the fields inside it. -/
structure FieldAttributes where
  name : Value
  /-- the tag of the kind, as it was written -/
  type : String := "string"
  nullable : Value := .bool false
  unique : Value := .bool false
  readonly : Value := .bool false
  /-- the default value, where one is declared; null is one -/
  default : Option Value := none
  target : Value := .null
  values : Option (List Value) := none
  constraints : Option Constraints := none
  hint : Value := .null
  description : Value := .text ""
  deriving Repr

/-- The declaration of a field. -/
structure Field extends FieldAttributes where
  items : Option Field := none
  shape : Option (List Field) := none
  deriving Repr

namespace Field

/-- The kind that the tag names, if it names one. -/
def kind (f : Field) : Option FieldKind := FieldKind.lookup f.type

def hasDefault (f : Field) : Bool := f.default.isSome

/-- Whether some key stands twice. -/
def hasRepeat : List Scalar → Bool
  | [] => false
  | s :: rest => rest.any s.same || hasRepeat rest

/-- The field itself, if it has a name and its kind has what it needs. -/
def checked (f : Field) : Outcome Field := do
  if !f.name.isGiven then refuse (.emptyName .field)
  if f.kind = some .enumeration && (f.values.getD []).isEmpty then refuse (.noValues f.name)
  if f.kind = some .reference && !f.target.isGiven then refuse (.noTarget f.name)
  if f.kind = some .array && f.items.isNone then refuse (.noItems f.name)
  let names ← (f.shape.getD []).mapM fun part => part.name.asScalar
  if hasRepeat names then refuse (.repeatedSubField f.name)
  return f

/-! #### Documents -/

/-- An entry that is left out unless its value counts as given. -/
def entryIfGiven (key : String) (v : Value) : List (String × Value) :=
  if v.isGiven then [(key, v)] else []

/-- A flag that is left out unless it is set. -/
def flagIfGiven (key : String) (v : Value) : List (String × Value) :=
  if v.isGiven then [(key, .bool true)] else []

mutual

/-- The document form of a field: what differs from the defaults. -/
def encode : Field → Value
  | ⟨a, items, shape⟩ =>
    .record ([("name", a.name), ("type", .text a.type)] ++
      flagIfGiven "nullable" a.nullable ++ flagIfGiven "unique" a.unique ++
      flagIfGiven "readonly" a.readonly ++
      (match a.default with | some v => [("default", v)] | none => []) ++
      entryIfGiven "target" a.target ++ entryIfGiven "values" (.list (a.values.getD [])) ++
      (match items with | some item => [("items", item.encode)] | none => []) ++
      (match shape with
        | some parts => entryIfGiven "shape" (.list (encodeAll parts))
        | none => []) ++
      (match a.constraints with | some c => [("constraints", c.encode)] | none => []) ++
      entryIfGiven "hint" a.hint ++ entryIfGiven "description" a.description)
termination_by structural f => f

/-- The document forms of several fields. -/
def encodeAll : List Field → List Value
  | [] => []
  | f :: rest => f.encode :: encodeAll rest
termination_by structural fs => fs

end

/-- The constraints that a document gives, under a key of their own or beside the other keys. -/
def decodeConstraints (data : Value) : Outcome (Option Constraints) := do
  let own ← data.optional "constraints"
  let given :=
    if own.isNull && ["min", "max", "pattern"].any (fun key => (data.get? key).isSome) then
      Value.record (["min", "max", "pattern", "message"].map fun key => (key, data.getD key))
    else own
  if given.isGiven then some <$> Constraints.decode given else return none

def decodeValues (data : Value) : Outcome (Option (List Value)) := do
  let written ← data.optional "values"
  if written.isGiven then some <$> written.elements else return none

/-- A field out of a mapping, given the fields inside it. -/
def assemble (name data : Value) (shape : Option (List Field))
    (items : Outcome (Option Field)) : Outcome Field := do
  let name ← if name.isGiven then .ok name else data.entry "name"
  let type ← data.entryOr "type" (.text "string")
  let nullable ← data.entryOr "nullable" (.bool false)
  let unique ← data.entryOr "unique" (.bool false)
  let readonly ← data.entryOr "readonly" (.bool false)
  let target ← data.optional "target"
  let values ← decodeValues data
  let items ← items
  let constraints ← decodeConstraints data
  let hint ← data.optional "hint"
  let description ← data.entryOr "description" (.text "")
  if !name.isGiven then refuse (.emptyName .field)
  let type ← type.asText
  checked {
    name, type, nullable, unique, readonly, default := data.get? "default", target, values,
    constraints, hint, description, items, shape }

mutual

/-- A field out of a document; a name that counts as given replaces the one in the document. -/
def decode (name : Value) : Value → Outcome Field
  | .map entries => do
    assemble name (.map entries) (← decodeShape entries) (decodeItems entries)
  | _ => wrongKind
termination_by structural data => data

/-- The elements of an array, out of the entries of its document. -/
def decodeItems : List (Scalar × Value) → Outcome (Option Field)
  | [] => .ok none
  | (key, v) :: rest =>
    if key.same (.text "items") then
      if v.isGiven then some <$> decode (.text "item") v else .ok none
    else decodeItems rest
termination_by structural entries => entries

/-- The parts of an object, out of the entries of its document: a list of fields, or a mapping of
their names to them. -/
def decodeShape : List (Scalar × Value) → Outcome (Option (List Field))
  | [] => .ok none
  | (key, v) :: rest =>
    if key.same (.text "shape") then
      match v with
      | .map parts => some <$> decodeNamed parts
      | .list [] => .ok none
      | .list (part :: parts) => do
        let first ← decode .null part
        return some (first :: (← decodeAll parts))
      | .scalar s => if s.isGiven then wrongKind else .ok none
    else decodeShape rest
termination_by structural entries => entries

/-- Fields out of a list of documents. -/
def decodeAll : List Value → Outcome (List Field)
  | [] => .ok []
  | v :: vs => do return (← decode .null v) :: (← decodeAll vs)
termination_by structural vs => vs

/-- Fields out of a mapping of names to documents. -/
def decodeNamed : List (Scalar × Value) → Outcome (List Field)
  | [] => .ok []
  | (key, v) :: rest => do return (← decode (.scalar key) v) :: (← decodeNamed rest)
termination_by structural entries => entries

end

/-! #### Equality -/

/-- Whether two optional lists of values are equal. -/
def sameValues : Option (List Value) → Option (List Value) → Bool
  | none, none => true
  | some vs, some ws => Value.sameItems vs ws
  | _, _ => false

/-- Whether two optional values are equal. -/
def sameDefault : Option Value → Option Value → Bool
  | none, none => true
  | some v, some w => v.same w
  | _, _ => false

/-- Whether two optional constraints are equal. -/
def sameConstraints : Option Constraints → Option Constraints → Bool
  | none, none => true
  | some c, some d => c.same d
  | _, _ => false

/-- Whether the attributes of two fields are equal. -/
def sameAttributes (a b : FieldAttributes) : Bool :=
  a.name.same b.name && a.type == b.type && a.nullable.same b.nullable && a.unique.same b.unique &&
    a.readonly.same b.readonly && sameDefault a.default b.default && a.target.same b.target &&
    sameValues a.values b.values && sameConstraints a.constraints b.constraints &&
    a.hint.same b.hint && a.description.same b.description

mutual

/-- Whether two fields are equal. -/
def same : Field → Field → Bool
  | ⟨a, items, shape⟩, g =>
    sameAttributes a g.toFieldAttributes &&
      (match items, g.items with
        | none, none => true
        | some item, some other => item.same other
        | _, _ => false) &&
      (match shape, g.shape with
        | none, none => true
        | some parts, some others => sameAll parts others
        | _, _ => false)
termination_by structural f => f

/-- Whether two lists of fields are equal. -/
def sameAll : List Field → List Field → Bool
  | [], [] => true
  | f :: fs, g :: gs => f.same g && sameAll fs gs
  | _, _ => false
termination_by structural fs => fs

end

end Field

end EntityModel
