import EntityModel.Analysis.ResolvedField
import EntityModel.Declaration.Index
import EntityModel.Naming.Case

/-!
# Index plans

The indexes of a table: the declared ones, then one for each reference field, then a unique one for
each unique field but the primary key, where a set of fields that is covered is not covered again.
-/

namespace EntityModel

/-- An index of a table. -/
structure PlannedIndex where
  name : Value
  table : Value
  fields : List Value
  method : IndexMethod := .btree
  unique : Value := .bool false
  using_ : Value := .null
  where_ : Value := .null
  concurrently : Value := .bool false
  /-- whether no declaration asks for it -/
  generated : Bool
  deriving Repr

namespace PlannedIndex

/-- The document form of a planned index. -/
def encode (i : PlannedIndex) : Value :=
  .record ([("name", i.name), ("table", i.table), ("fields", .list i.fields),
      ("type", .text i.method.tag), ("unique", i.unique), ("auto_generated", .bool i.generated)] ++
    (if i.using_.isGiven then [("using", i.using_)] else []) ++
    (if i.where_.isGiven then [("where", i.where_)] else []) ++
    (if i.concurrently.isGiven then [("concurrently", .bool true)] else []))

/-- The name of a declared index that gives none. -/
def declaredName (table : Value) (fields : List Value) : Outcome String := do
  return "idx_" ++ table.shown ++ "_" ++ "_".intercalate (← fields.mapM Value.asText)

def ofIndex (table : Value) (i : Index) : Outcome PlannedIndex := do
  let name ← if i.name.isGiven then pure i.name else .text <$> declaredName table i.fields
  return {
    name, table, fields := i.fields, method := i.method, unique := i.unique, using_ := i.using_,
    where_ := i.where_, concurrently := i.concurrently, generated := false }

def ofReference (table : Value) (field : String) : PlannedIndex where
  name := .text ("idx_" ++ table.shown ++ "_" ++ Naming.toSnakeCase field)
  table
  fields := [.text field]
  generated := true

def ofUnique (table : Value) (field : String) : PlannedIndex where
  name := .text ("idx_" ++ table.shown ++ "_" ++ Naming.toSnakeCase field ++ "_unique")
  table
  fields := [.text field]
  unique := .bool true
  generated := true

/-- Whether an index covers exactly one field, however often it lists it. -/
def coversOnly (field : String) (i : PlannedIndex) : Bool :=
  !i.fields.isEmpty && i.fields.all fun v => v.same (.text field)

end PlannedIndex

namespace IndexPlan

/-- The field that is the primary key, which needs no index. -/
def primaryKey : String := "id"

def cover (index : String → PlannedIndex) (wanted : ResolvedField → Bool)
    (fields : List ResolvedField) (plan : List PlannedIndex) : List PlannedIndex :=
  fields.foldl (fun plan f =>
    if wanted f && !plan.any (PlannedIndex.coversOnly f.name) then plan ++ [index f.name] else plan)
    plan

/-- Whether a field is to have an index for being unique. -/
def needsUnique (f : ResolvedField) : Bool := f.unique.isGiven && f.name != primaryKey

def make (table : Value) (fields : List ResolvedField) (declared : List Index) :
    Outcome (List PlannedIndex) := do
  let explicit ← declared.mapM fun i => do
    let planned ← PlannedIndex.ofIndex table i
    -- only scalars can be told apart as members of a set of fields
    let _ ← i.fields.mapM Value.asScalar
    return planned
  return cover (PlannedIndex.ofUnique table) needsUnique fields
    (cover (PlannedIndex.ofReference table) ResolvedField.isReference fields explicit)

/-- Whether an entity only joins others: it has two references at least, and at most one field more
besides the primary key. -/
def isJunction (fields : List ResolvedField) : Bool :=
  let references := fields.countP ResolvedField.isReference
  let others := fields.countP fun f => !f.isReference && f.name != primaryKey
  2 ≤ references && others ≤ 1

end IndexPlan

end EntityModel
