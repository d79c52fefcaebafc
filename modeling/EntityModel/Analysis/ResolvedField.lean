import EntityModel.Analysis.ColumnType
import EntityModel.Analysis.SampleHint
import EntityModel.Naming.Identifier

/-!
# Resolved fields

A field with all that follows from its declaration: its kind, an identifier, the types of its column
and in the generated code, and a hint for sample data. The fields inside an array or an object are
resolved by the same rules. A tag that names no kind is taken for a string.
-/

namespace EntityModel

/-- What follows from the attributes of a field, apart from the fields inside it. -/
structure ResolvedAttributes where
  name : String
  safeName : String
  kind : FieldKind
  declaredType : String
  codeType : String
  columnType : String
  sampleHint : String
  nullable : Value
  unique : Value
  readonly : Value
  default : Option Value
  refTarget : Value
  enumValues : Option (List Value)
  min : Value
  max : Value
  pattern : Value
  description : Value
  deriving Repr

/-- A field with all that follows from its declaration. -/
structure ResolvedField extends ResolvedAttributes where
  items : Option ResolvedField := none
  shape : Option (List ResolvedField) := none
  deriving Repr

namespace ResolvedField

/-- Whether the field refers to another entity. -/
def isReference (f : ResolvedField) : Bool := f.kind = .reference

def hasDefault (f : ResolvedField) : Bool := f.default.isSome

mutual

/-- The document form of a resolved field. -/
def encode : ResolvedField → Value
  | ⟨a, items, shape⟩ =>
    .record ([("name", .text a.name), ("safe_name", .text a.safeName), ("kind", .text a.kind.tag),
        ("declared_type", .text a.declaredType), ("python_type", .text a.codeType),
        ("sql_type", .text a.columnType), ("generator_hint", .text a.sampleHint),
        ("nullable", a.nullable), ("unique", a.unique), ("readonly", a.readonly)] ++
      (match a.default with | some v => [("default", v)] | none => []) ++
      Field.entryIfGiven "ref_target" a.refTarget ++
      Field.entryIfGiven "enum_values" (.list (a.enumValues.getD [])) ++
      (match items with | some item => [("items", item.encode)] | none => []) ++
      (match shape with
        | some parts => Field.entryIfGiven "shape" (.list (encodeAll parts))
        | none => []) ++
      ([("min", a.min), ("max", a.max), ("pattern", a.pattern)].filter fun e => !e.2.isNull) ++
      Field.entryIfGiven "description" a.description)
termination_by structural f => f

/-- The document forms of several resolved fields. -/
def encodeAll : List ResolvedField → List Value
  | [] => []
  | f :: rest => f.encode :: encodeAll rest
termination_by structural fs => fs

end

/-- The type of a field in the generated code, given its elements. -/
def codeTypeOf (kind : FieldKind) (items : Option ResolvedField) (values : List Value) : String :=
  if kind = .enumeration && !values.isEmpty then ColumnType.literal values
  else match kind, items with
    | .array, some item => "list[" ++ item.codeType ++ "]"
    | kind, _ => kind.codeType

/-- A field under a name, given the fields inside it. -/
def assemble (name : Value) (f : Field) (kind : FieldKind) (items : Option ResolvedField)
    (shape : Option (List ResolvedField)) : Outcome ResolvedField := do
  let constraints := f.constraints.getD {}
  let values := if kind = .enumeration then f.values else none
  let name ← name.asText
  let columnType ← ColumnType.ofField kind constraints.max (values.getD [])
  let sampleHint ← SampleHint.ofField f (.text name) kind
  return {
    name, safeName := Naming.toSafeIdentifier name, kind, declaredType := f.type,
    codeType := codeTypeOf kind items (values.getD []), columnType, sampleHint,
    nullable := f.nullable, unique := f.unique, readonly := f.readonly, default := f.default,
    refTarget := if kind = .reference then f.target else .null, enumValues := values,
    items, shape, min := constraints.min, max := constraints.max,
    pattern := constraints.pattern, description := f.description }

/-- The kind of a declared field; a tag that names no kind is taken for a string. -/
def resolvedKind (f : Field) : FieldKind := f.kind.getD .string

mutual

/-- A declared field under a name, resolved as one of a kind. -/
def ofKind : (f : Field) → (name : Value) → (kind : FieldKind) → Outcome ResolvedField
  | ⟨a, items, shape⟩, name, kind => do
    let elements ← match kind, items with
      | .array, some item => some <$> ofKind item (.text "item") (resolvedKind item)
      | _, _ => pure none
    let parts ← match kind, shape with
      | .object, some (part :: rest) => do
        let first ← ofKind part part.name (resolvedKind part)
        pure (some (first :: (← ofFields rest)))
      | _, _ => pure none
    assemble name ⟨a, items, shape⟩ kind elements parts
termination_by structural f => f

/-- Declared fields, resolved under their own names. -/
def ofFields : List Field → Outcome (List ResolvedField)
  | [] => .ok []
  | f :: rest => do return (← ofKind f f.name (resolvedKind f)) :: (← ofFields rest)
termination_by structural fs => fs

end

def ofField (name : Value) (f : Field) : Outcome ResolvedField := ofKind f name (resolvedKind f)

end ResolvedField

end EntityModel
