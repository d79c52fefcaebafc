import EntityModel.Declaration.Kind
import EntityModel.Value.Reading

/-!
# Types of columns and of generated code

What each kind of field becomes in the storage and in the generated code, and the same for the
scalar types of procedure signatures. An unknown scalar type becomes text.
-/

namespace EntityModel

namespace FieldKind

def codeType : FieldKind → String
  | uuid => "UUID"
  | string => "str"
  | text => "str"
  | email => "str"
  | url => "str"
  | integer => "int"
  | number => "float"
  | boolean => "bool"
  | date => "datetime"
  | enumeration => "str"
  | reference => "UUID"
  | array => "list[Any]"
  | object => "dict[str, Any]"

def columnType : FieldKind → String
  | uuid => "UUID"
  | string => "VARCHAR(255)"
  | text => "TEXT"
  | email => "VARCHAR(255)"
  | url => "TEXT"
  | integer => "INTEGER"
  | number => "DOUBLE PRECISION"
  | boolean => "BOOLEAN"
  | date => "TIMESTAMPTZ"
  | enumeration => "VARCHAR(50)"
  | reference => "UUID"
  | array => "JSONB"
  | object => "JSONB"

end FieldKind

namespace ColumnType

/-- The type of an enumeration in the generated code: its values as literals. -/
def literal (values : List Value) : String :=
  "Literal[" ++ ", ".intercalate (values.map Value.quoted) ++ "]"

/-- Room beyond the longest value of an enumeration. -/
def headroom : Nat := 10

/-- The column type of a field: bounded strings have room for their greatest length, enumerations
for their longest value and some more. -/
def ofField (kind : FieldKind) (max : Value) (values : List Value) : Outcome String := do
  if kind = .string && max.isGiven then
    return s!"VARCHAR({← max.asWhole})"
  else if kind = .enumeration && !values.isEmpty then
    let lengths ← values.mapM Value.length
    return s!"VARCHAR({lengths.foldl Nat.max 0 + headroom})"
  else return kind.columnType

/-! ### Scalars of procedure signatures -/

/-- A scalar type: the column type and the type in the generated code. -/
def scalars : List (String × String × String) := [
  ("uuid", "UUID", "UUID"), ("string", "TEXT", "str"), ("text", "TEXT", "str"),
  ("email", "TEXT", "str"), ("url", "TEXT", "str"), ("int", "INTEGER", "int"),
  ("integer", "INTEGER", "int"), ("number", "DOUBLE PRECISION", "float"),
  ("float", "DOUBLE PRECISION", "float"), ("boolean", "BOOLEAN", "bool"),
  ("date", "TIMESTAMPTZ", "datetime"), ("datetime", "TIMESTAMPTZ", "datetime"),
  ("json", "JSONB", "dict[str, Any]"), ("jsonb", "JSONB", "dict[str, Any]"),
  ("array", "JSONB", "list[Any]"), ("object", "JSONB", "dict[str, Any]")]

/-- The names of the scalar types, in alphabetical order. -/
def scalarNames : List String := (scalars.map (·.1)).mergeSort fun a b => !(b < a)

/-- The column type and the code type of a scalar name, in any case and with blanks around it. -/
def scalar? (name : String) : Option (String × String) :=
  scalars.lookup (Text.lowercase (Text.stripped name))

/-- The column type of a scalar name, if it is known. -/
def scalarColumn? (name : String) : Option String := (scalar? name).map (·.1)

/-- The column type of an unknown scalar. -/
def defaultColumn : String := "TEXT"

/-- The code type of an unknown scalar. -/
def defaultCode : String := "str"

/-- The type of a scalar name in the generated code. -/
def scalarCode (name : String) : String := ((scalar? name).map (·.2)).getD defaultCode

end ColumnType

end EntityModel
