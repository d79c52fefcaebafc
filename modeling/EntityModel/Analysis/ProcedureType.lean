import EntityModel.Analysis.ColumnType
import EntityModel.Analysis.Diagnostic
import EntityModel.Analysis.Directory
import EntityModel.Naming.Case

/-!
# Types of stored procedures

The types of a procedure's arguments and of what it returns. A return expression is `T`, `T[]` or
`void`, where `T` is exactly an entity's name or else a scalar; a scalar that is not known becomes
text, and a diagnostic says so.
-/

namespace EntityModel

/-- A type expression: an element type, and whether there is a list of it. -/
structure TypeExpression where
  element : String
  isArray : Bool
  deriving DecidableEq, Repr

namespace TypeExpression

def arrayMark : List Char := ['[', ']']

/-- An expression taken apart, blanks around the parts dropped. -/
def ofText (written : String) : TypeExpression :=
  let cs := Text.trim written.toList
  if arrayMark.isSuffixOf cs then
    ⟨String.ofList (Text.trim (cs.take (cs.length - 2))), true⟩
  else ⟨String.ofList cs, false⟩

/-- Whether the expression means that nothing is returned. -/
def isVoid (t : TypeExpression) : Bool :=
  !t.isArray && ["void", ""].contains (Text.lowercase t.element)

def isKnownScalar (t : TypeExpression) : Bool := (ColumnType.scalarColumn? t.element).isSome

def scalarColumn (t : TypeExpression) : String :=
  let column := (ColumnType.scalarColumn? t.element).getD ColumnType.defaultColumn
  if t.isArray then column ++ "[]" else column

def scalarCode (t : TypeExpression) : String :=
  let code := ColumnType.scalarCode t.element
  if t.isArray then "list[" ++ code ++ "]" else code

end TypeExpression

/-- An argument with its types. -/
structure TypedArgument where
  name : Value
  type : String
  codeType : String
  columnType : String
  default : Value
  deriving Repr

/-- A procedure with its types. -/
structure TypedProcedure where
  name : Value
  args : List TypedArgument
  returns : String
  returnType : TypeExpression
  columnType : String
  codeType : String
  /-- the entity that is returned, with its table -/
  entity : Option (String × Value)
  sql : Value
  language : Value
  volatility : Volatility
  security : Security
  description : Value
  deriving Repr

namespace TypedArgument

/-- The document form of a typed argument. -/
def encode (a : TypedArgument) : Value :=
  .record ([("name", a.name), ("type", .text a.type), ("python_type", .text a.codeType),
      ("storage_type", .text a.columnType)] ++
    (if a.default.isNull then [] else [("default", a.default)]))

end TypedArgument

namespace TypedProcedure

/-- The document form of a typed procedure. -/
def encode (p : TypedProcedure) : Value :=
  .record ([("name", p.name), ("args", .list (p.args.map TypedArgument.encode)),
      ("returns", .text p.returns), ("return_type", .text p.returnType.element),
      ("is_array", .bool p.returnType.isArray), ("is_void", .bool p.returnType.isVoid),
      ("is_entity", .bool p.entity.isSome), ("storage_type", .text p.columnType),
      ("python_type", .text p.codeType), ("language", p.language),
      ("volatility", .text p.volatility.word), ("security", .text p.security.word)] ++
    (match p.entity with
      | some (entity, table) => [("entity", .text entity), ("table", table)]
      | none => []) ++
    (if p.sql.isGiven then [("sql", p.sql)] else []) ++
    (if p.description.isGiven then [("description", p.description)] else []))

def unknownType (owner procedure subject : Value) (written : String) : Diagnostic where
  kind := .unknownProcedureType
  entity := owner
  subject
  message := .text ("Unknown type '" ++ written ++ "' in procedure '" ++ procedure.shown ++
    "'; using " ++ ColumnType.defaultColumn ++ ".")
  suggestion := .text ("Use an entity name or one of: " ++
    ", ".intercalate ColumnType.scalarNames ++ ".")

def typeArgument (owner procedure : Value) (a : Argument) :
    Outcome (TypedArgument × List Diagnostic) := do
  let written ← a.type.asText
  let type := TypeExpression.ofText written
  let subject := Value.text (procedure.shown ++ "." ++ a.name.shown)
  return ({
    name := a.name, type := written, codeType := type.scalarCode, columnType := type.scalarColumn,
    default := a.default },
    if type.isKnownScalar then [] else [unknownType owner procedure subject written])

def typeArguments (owner procedure : Value) :
    List Argument → Outcome (List TypedArgument × List Diagnostic)
  | [] => .ok ([], [])
  | a :: rest => do
    let (typed, diagnostics) ← typeArgument owner procedure a
    let (others, more) ← typeArguments owner procedure rest
    return (typed :: others, diagnostics ++ more)

/-- What a return expression becomes. -/
structure ReturnType where
  columnType : String
  codeType : String
  entity : Option (String × Value) := none
  isKnown : Bool := true

def returnTypeOf (d : Directory) (t : TypeExpression) : ReturnType :=
  if t.isVoid then { columnType := "VOID", codeType := "None" }
  else if d.contains t.element then
    let table := d.tableFor t.element
    let pascal := Naming.singularPascal t.element
    { columnType := if t.isArray then "SETOF " ++ table.shown else table.shown
      codeType := if t.isArray then "list[" ++ pascal ++ "]" else pascal
      entity := some (t.element, table) }
  else { columnType := t.scalarColumn, codeType := t.scalarCode, isKnown := t.isKnownScalar }

/-- A declared procedure, typed, with the diagnostics on it. Without an entity that declares it the
diagnostics concern the procedure itself. -/
def ofProcedure (d : Directory) (owner : Option Value) (p : Procedure) :
    Outcome (TypedProcedure × List Diagnostic) := do
  let owner := owner.getD p.name
  let (args, diagnostics) ← typeArguments owner p.name p.args
  let returnType := TypeExpression.ofText p.returns
  let types := returnTypeOf d returnType
  return ({
    name := p.name, args, returns := p.returns, returnType, columnType := types.columnType,
    codeType := types.codeType, entity := types.entity, sql := p.sql, language := p.language,
    volatility := p.volatility, security := p.security, description := p.description },
    diagnostics ++ if types.isKnown then [] else [unknownType owner p.name p.name p.returns])

/-- Declared procedures of an entity, typed in order, with the diagnostics on them. -/
def ofProcedures (d : Directory) (owner : Option Value) :
    List Procedure → Outcome (List TypedProcedure × List Diagnostic)
  | [] => .ok ([], [])
  | p :: rest => do
    let (typed, diagnostics) ← ofProcedure d owner p
    let (others, more) ← ofProcedures d owner rest
    return (typed :: others, diagnostics ++ more)

end TypedProcedure

end EntityModel
