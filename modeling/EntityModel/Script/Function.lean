import EntityModel.Script.Item
import EntityModel.Script.Signature

/-!
# Functions of declaration scripts

The functions that a declaration script may call. Those in lowercase build a declaration from what
is usually given; the others take every part of it.
-/

namespace EntityModel.Script

/-- A function: its name, its parameters, and what a call of it stands for. -/
structure Function where
  name : String
  signature : Signature
  run : Bound Item → Outcome Item

namespace Bound

def item (b : Bound Item) (parameter : String) : Item := (b.get? parameter).getD (.plain .null)

def valueOr (b : Bound Item) (parameter : String) (default : Value) : Outcome Value :=
  match b.get? parameter with
  | some item => item.value
  | none => .ok default

def value (b : Bound Item) (parameter : String) : Outcome Value := b.valueOr parameter .null

def flag (b : Bound Item) (parameter : String) : Outcome Value := b.valueOr parameter (.bool false)

/-- The value of a text that is empty by default. -/
def text (b : Bound Item) (parameter : String) : Outcome Value := b.valueOr parameter (.text "")

/-- The value of a parameter, where an argument is given at all. -/
def value? (b : Bound Item) (parameter : String) : Outcome (Option Value) :=
  match b.get? parameter with
  | some item => some <$> item.value
  | none => .ok none

/-- The parts of a parameter, none by default. -/
def elements (b : Bound Item) (parameter : String) : Outcome (List Item) :=
  match b.get? parameter with
  | some item => item.elements
  | none => .ok []

def optional {α : Type} (b : Bound Item) (parameter : String) (read : Item → Outcome α) :
    Outcome (Option α) :=
  let item := b.item parameter
  if item.isNull then .ok none else some <$> read item

end Bound

namespace Function

/-! ### Fields -/

/-- The type of a field; plain text by default. -/
def typeOf (b : Bound Item) : Outcome Value :=
  ((b.get? "type").getD (.plain (.text "string"))).typeTag

def field : Function where
  name := "field"
  signature := {
    required := ["name"], optional := ["type"]
    byName := ["nullable", "unique", "readonly", "default", "min", "max", "pattern", "message",
      "hint", "description"] }
  run b := do
    let options : PlainOptions := {
      nullable := ← b.flag "nullable", unique := ← b.flag "unique"
      readonly := ← b.flag "readonly", default := ← b.value? "default", min := ← b.value "min"
      max := ← b.value "max", pattern := ← (b.item "pattern").patternSource
      message := ← b.value "message", hint := ← b.value "hint"
      description := ← b.text "description" }
    return .field (← Field.plain (← b.value "name") (← typeOf b) options)

/-- A field that refers to another entity. -/
def ref : Function where
  name := "ref"
  signature := { required := ["name", "target"], byName := ["nullable", "unique"] }
  run b := do
    return .field (← Field.reference (← b.value "name") (← b.value "target") (← b.flag "nullable")
      (← b.flag "unique"))

/-- A field that takes one of a list of values. -/
def enum : Function where
  name := "enum"
  signature := { required := ["name", "values"], byName := ["default", "nullable"] }
  run b := do
    return .field (← Field.enumeration (← b.value "name") (← b.value "values")
      (← b.value? "default") (← b.flag "nullable"))

def elementsOf : Item → Outcome (Option Field)
  | .plain (.text type) => some <$> Field.element (.text type)
  | .plain .null => .ok none
  | item => some <$> item.asField

/-- A field that takes a list of elements. -/
def array : Function where
  name := "array"
  signature := { required := ["name", "items"], byName := ["min", "max", "nullable"] }
  run b := do
    return .field (← Field.array (← b.value "name") (← elementsOf (b.item "items"))
      (← b.value "min") (← b.value "max") (← b.flag "nullable"))

def obj : Function where
  name := "obj"
  signature := { required := ["name", "shape"], byName := ["nullable"] }
  run b := do
    let shape ← (← b.elements "shape").mapM Item.asField
    return .field (← Field.object (← b.value "name") shape (← b.flag "nullable"))

/-- Constraints out of all their parts. -/
def fieldConstraints : Function where
  name := "FieldConstraints"
  signature := { optional := ["min", "max", "pattern", "message"] }
  run b := do
    return .constraints (← Constraints.make (← b.value "min") (← b.value "max")
      (← (b.item "pattern").patternSource) (← b.value "message"))

def fieldDef : Function where
  name := "FieldDef"
  signature := {
    required := ["name"]
    optional := ["type", "nullable", "unique", "readonly", "default", "target", "values", "items",
      "shape", "constraints", "hint", "description"] }
  run b := do
    let name ← b.value "name"
    if !name.isGiven then refuse (.emptyName .field)
    let type ← typeOf b
    let nullable ← b.flag "nullable"
    let unique ← b.flag "unique"
    let readonly ← b.flag "readonly"
    let default ← b.value? "default"
    let target ← b.value "target"
    let values ← b.optional "values" fun item => do (← item.value).elements
    let items ← b.optional "items" Item.asField
    let shape ← b.optional "shape" fun item => do (← item.elements).mapM Item.asField
    let constraints ← b.optional "constraints" Item.asConstraints
    let hint ← b.value "hint"
    let description ← b.text "description"
    return .field (← Field.named name type fun type => {
      name, type, nullable, unique, readonly, default, target, values, items, shape, constraints,
      hint, description })

/-! ### Relations -/

/-- What is given for a relation besides its name, kind and target. -/
def relationOptions (b : Bound Item) : Outcome Relation.Options := do
  return {
    foreignKey := ← b.value "foreign_key", eager := ← b.flag "eager"
    orderBy := ← b.value "order_by", limit := ← b.value "limit", through := ← b.value "through"
    otherKey := ← b.value "other_key" }

def relationOf (name : String) (kind : RelationKind) (byName : List String) : Function where
  name
  signature := { required := ["name", "target"], byName }
  run b := do
    return .relation (← Relation.ofKind kind (← b.value "name") (← b.value "target")
      (← relationOptions b))

def relationDef : Function where
  name := "RelationDef"
  signature := {
    required := ["name", "kind", "target"]
    optional := ["foreign_key", "eager", "order_by", "limit", "through", "other_key"] }
  run b := do
    return .relation (← Relation.ofParts (← b.value "name") (b.item "kind").asRelationKind
      (← b.value "target") (← relationOptions b))

/-! ### Policies -/

def operationNames : List String := Operation.all.map Operation.name

def predicatesOf (b : Bound Item) : Outcome Policy.Predicates := do
  return {
    select := ← (b.item "select").asPredicate, insert := ← (b.item "insert").asPredicate
    update := ← (b.item "update").asPredicate, delete := ← (b.item "delete").asPredicate }

/-- Scope rules: a mapping of fields to context keys, or a list of rules. -/
def scopesOf : Item → Outcome (List Scope)
  | .map entries => do return Policy.scopesOf (← Item.entryValues entries)
  | item => do (← item.elementsOrNone).mapM Item.asScope

/-- Bypass conditions: a mapping of context keys to values, or a list of conditions. -/
def bypassesOf : Item → Outcome (List Bypass)
  | .map entries => do Policy.bypassesOf (← Item.entryValues entries)
  | item => do (← item.elementsOrNone).mapM Item.asBypass

def rls : Function where
  name := "rls"
  signature := { byName := ["scope", "bypass"] ++ operationNames ++ ["sql"] }
  run b := do
    let scope ← scopesOf (b.item "scope")
    let bypass ← bypassesOf (b.item "bypass")
    let sql ← ((← b.value "sql").orElse (.map [])).toEntries
    return .policy (← Policy.ofParts scope bypass (← predicatesOf b) (.map sql))

def rlsScope : Function where
  name := "RlsScope"
  signature := { required := ["field", "context_key"] }
  run b := do return .scope ⟨← b.value "field", ← b.value "context_key"⟩

def rlsBypass : Function where
  name := "RlsBypass"
  signature := { required := ["context_key", "values"] }
  run b := do return .bypass ⟨← b.value "context_key", ← (← b.value "values").elements⟩

/-- A policy out of all its parts. -/
def rlsDef : Function where
  name := "RlsDef"
  signature := { optional := ["scope", "bypass"] ++ operationNames ++ ["sql"] }
  run b := do
    let scope ← (← b.elements "scope").mapM Item.asScope
    let bypass ← (← b.elements "bypass").mapM Item.asBypass
    return .policy (← Policy.ofParts scope bypass (← predicatesOf b) (← b.valueOr "sql" (.map [])))

/-! ### Indexes -/

/-- The access method of an index, after a change to the written one. -/
def methodOf (b : Bound Item) (change : String → String) : Outcome IndexMethod := do
  match ← b.valueOr "type" (.text IndexMethod.btree.tag) with
  | .text tag => IndexMethod.member (.text (change tag))
  | _ => wrongKind

/-- An index over fields, with what else is given for it. -/
def indexOver (b : Bound Item) (fields : List Value) (method : Outcome IndexMethod) :
    Outcome Item := do
  let name ← b.value "name"
  let using_ ← b.value "using"
  let unique ← b.flag "unique"
  let where_ ← b.value "where"
  let concurrently ← b.flag "concurrently"
  if fields.isEmpty then refuse .noIndexFields
  return .index { fields, name, method := ← method, using_, unique, where_, concurrently }

/-- An index over the fields that are given in order. -/
def index : Function where
  name := "index"
  signature := {
    byName := ["name", "type", "using", "unique", "where", "concurrently"], takesMore := true }
  run b := do
    let method ← methodOf b id
    indexOver b (← Item.values b.more) (.ok method)

/-- An index out of all its parts; its method may be written in any case. -/
def indexDef : Function where
  name := "IndexDef"
  signature := {
    required := ["fields"]
    optional := ["name", "type", "using", "unique", "where", "concurrently"] }
  run b := do
    let fields ← match ← b.value "fields" with
      | .text field => pure [Value.text field]
      | written => written.elements
    indexOver b fields (methodOf b Text.lowercase)

/-! ### Procedures -/

/-- What is given for a procedure besides its name, return expression and arguments. -/
def procedureOptions (b : Bound Item) : Outcome Procedure.Options := do
  return {
    sql := ← b.text "sql", language := ← b.valueOr "language" (.text "sql")
    volatility := ← b.valueOr "volatility" (.text "volatile")
    security := ← b.valueOr "security" (.text "invoker"), description := ← b.text "description" }

/-- The names of what may be given for a procedure besides these. -/
def procedureOptionNames : List String :=
  ["sql", "language", "volatility", "security", "description"]

/-- A procedure whose arguments are read once the rest has been accepted. -/
def procedureWith (b : Bound Item) (args : Outcome (List Argument)) : Outcome Item := do
  let options ← procedureOptions b
  let p ← Procedure.ofParts (← b.value "name") (← b.value "returns") [] options
  return .procedure { p with args := ← args }

/-- A procedure, with arguments out of a mapping of names to types or a list of arguments. -/
def rpc : Function where
  name := "rpc"
  signature := { required := ["name", "returns"], byName := "args" :: procedureOptionNames }
  run b := do
    match b.item "args" with
    | .map entries => do
      let args := Procedure.argumentsOf (← Item.entryValues entries)
      procedureWith b (.ok args)
    | item => do
      let items ← item.elementsOrNone
      procedureWith b (items.mapM Item.asArgument)

def rpcArgDef : Function where
  name := "RpcArgDef"
  signature := { required := ["name", "type"], optional := ["default"] }
  run b := do
    return .argument {
      name := ← b.value "name"
      type := ← b.value "type"
      default := ← b.value "default" }

/-- A procedure out of all its parts. -/
def rpcDef : Function where
  name := "RpcDef"
  signature := { required := ["name", "returns"], optional := "args" :: procedureOptionNames }
  run b := procedureWith b (do (← b.elements "args").mapM Item.asArgument)

/-! ### Entities -/

def computedDef : Function where
  name := "ComputedDef"
  signature := { required := ["name"], optional := ["type", "description"] }
  run b := do
    return .computed {
      name := ← b.value "name", type := ← b.value "type", description := ← b.text "description" }

/-- The names of what may be given for an entity besides its name. -/
def entityOptionNames : List String :=
  ["fields", "relations", "computed", "rls", "indexes", "rpc", "timestamps", "tags", "module",
    "group", "metadata", "description"]

/-- An entity out of what is given for it, given how computed properties are read. -/
def entityWith (b : Bound Item) (asComputed : Item → Outcome Computed) (metadata : Value) :
    Outcome Entity := do
  return {
    name := ← b.value "name"
    fields := ← (← b.elements "fields").mapM Item.asField
    relations := ← (← b.elements "relations").mapM Item.asRelation
    computed := ← (← b.elements "computed").mapM asComputed
    policy := ← b.optional "rls" Item.asPolicy
    indexes := ← (← b.elements "indexes").mapM Item.asIndex
    procedures := ← (← b.elements "rpc").mapM Item.asProcedure
    timestamps := ← b.valueOr "timestamps" (.bool true)
    tags := ← Item.values (← b.elements "tags")
    module := ← b.value "module"
    group := ← b.value "group"
    metadata := ← metadata.toEntries
    description := ← b.text "description" }

def computedOrName : Item → Outcome Computed
  | .computed c => .ok c
  | item => do return { name := ← item.value }

/-- An entity, with names for computed properties. -/
def defineEntity : Function where
  name := "define_entity"
  signature := { required := ["name"], byName := entityOptionNames }
  run b := do
    let metadata := (← b.value "metadata").orElse (.map [])
    return .entity (← (← entityWith b computedOrName metadata).checked)

def entityDef : Function where
  name := "EntityDef"
  signature := { required := ["name"], optional := entityOptionNames }
  run b := do
    if !(← b.value "name").isGiven then refuse (.emptyName .entity)
    let metadata ← b.valueOr "metadata" (.map [])
    return .entity (← (← entityWith b Item.asComputed metadata).checked)

/-! ### Calls -/

def all : List Function := [
  field, ref, enum, array, obj,
  relationOf "belongs_to" .belongsTo ["foreign_key", "eager"],
  relationOf "has_many" .hasMany
    ["foreign_key", "eager", "order_by", "limit", "through", "other_key"],
  relationOf "has_one" .hasOne ["foreign_key", "eager"],
  relationOf "many_to_many" .manyToMany ["through", "foreign_key", "other_key", "eager"],
  index, rpc, rls, defineEntity, fieldConstraints, fieldDef, relationDef, rlsScope, rlsBypass,
  rlsDef,
  indexDef, rpcArgDef, rpcDef, computedDef, entityDef]

def call (f : Function) (args : List Item) (named : List (String × Item)) : Outcome Item := do
  f.run (← f.signature.bind args named)

def ofName? (name : String) : Option Function := all.find? (·.name == name)

end Function

end EntityModel.Script
