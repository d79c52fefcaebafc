import EntityModel.Analysis.ComputedType
import EntityModel.Analysis.EffectivePolicy
import EntityModel.Analysis.IndexPlan
import EntityModel.Analysis.ProcedureType
import EntityModel.Analysis.ResolvedField
import EntityModel.Analysis.ResolvedRelation

/-!
# Schemas

An entity with all that follows from its declaration and from the directory of the run: names,
resolved fields and relations, the entities that it depends on, indexes and procedures.

An entity depends on what its reference fields and its belongs-to relations point at: records of
those entities have to be there first.
-/

namespace EntityModel

/-- An analysed entity. -/
structure Schema where
  name : String
  singular : String := ""
  plural : String := ""
  pascalName : String := ""
  camelName : String := ""
  displayName : String := ""
  tableName : Value := .null
  endpoint : String := ""
  fields : List ResolvedField := []
  relations : List ResolvedRelation := []
  computed : List TypedComputed := []
  /-- the entities whose records have to be there first -/
  dependsOn : List String := []
  isJunction : Bool := false
  policy : EffectivePolicy := {}
  indexes : List PlannedIndex := []
  procedures : List TypedProcedure := []
  timestamps : Value := .bool true
  tags : List Value := []
  module : Value := .null
  group : Value := .null
  metadata : Entries := []
  description : Value := .text ""

namespace Schema

def field? (s : Schema) (name : String) : Option ResolvedField := s.fields.find? (·.name == name)

def relation? (s : Schema) (name : Value) : Option ResolvedRelation :=
  s.relations.find? (·.name.same name)

def encode (s : Schema) : Value :=
  .record ([("name", .text s.name), ("singular", .text s.singular), ("plural", .text s.plural),
      ("pascal_name", .text s.pascalName), ("camel_name", .text s.camelName),
      ("display_name", .text s.displayName), ("table_name", s.tableName),
      ("endpoint", .text s.endpoint), ("fields", .list (ResolvedField.encodeAll s.fields)),
      ("relations", .list (s.relations.map ResolvedRelation.encode)),
      ("computed", .list (s.computed.map TypedComputed.encode)),
      ("depends_on", .texts s.dependsOn), ("is_junction", .bool s.isJunction),
      ("rls", s.policy.encode), ("indexes", .list (s.indexes.map PlannedIndex.encode)),
      ("rpc", .list (s.procedures.map TypedProcedure.encode)), ("has_timestamps", s.timestamps),
      ("tags", .list s.tags)] ++
    (if s.module.isGiven then [("module", s.module)] else []) ++
    (if s.group.isGiven then [("group", s.group)] else []) ++
    (if s.metadata.isEmpty then [] else [("metadata", .map s.metadata)]) ++
    (if s.description.isGiven then [("description", s.description)] else []))

/-! ### Dependencies -/

/-- Dependencies with one more, unless it is there or is the entity itself. -/
def addDependency (entity name : String) (found : List String) : List String :=
  if name == entity || found.contains name then found else found ++ [name]

/-- The diagnostic for a reference field whose target no entity is meant by. -/
def unknownReference (entity : String) (field written : String) : Diagnostic where
  kind := .unknownTarget
  entity := .text entity
  subject := .text field
  message := .text ("Ref field '" ++ field ++ "' targets unknown entity '" ++ written ++ "'.")
  suggestion := .text ("Define an entity named '" ++ written ++ "' or fix the target name.")

/-- The entities that reference fields point at, in the order of the fields, added to those found,
with the diagnostics on fields that point nowhere. -/
def fieldDependencies (d : Directory) (entity : String) :
    List ResolvedField → List String → Outcome (List String × List Diagnostic)
  | [], found => .ok (found, [])
  | f :: rest, found => do
    if f.refTarget.isGiven then
      let written ← f.refTarget.asText
      match d.resolve written with
      | some name => fieldDependencies d entity rest (addDependency entity name found)
      | none =>
        let (found, more) ← fieldDependencies d entity rest found
        return (found, unknownReference entity f.name written :: more)
    else fieldDependencies d entity rest found

/-- The entities that belongs-to relations point at, added to those found. -/
def relationDependencies (entity : String) (relations : List ResolvedRelation)
    (found : List String) : List String :=
  relations.foldl (fun found r =>
    if r.kind = .belongsTo && r.targetKnown then addDependency entity r.target found else found)
    found

/-- The entities that an entity depends on: targets of its reference fields, then targets of its
belongs-to relations. -/
def dependencies (d : Directory) (entity : String) (fields : List ResolvedField)
    (relations : List ResolvedRelation) : Outcome (List String × List Diagnostic) := do
  let (found, diagnostics) ← fieldDependencies d entity fields []
  return (relationDependencies entity relations found, diagnostics)

/-! ### Analysis -/

def ofEntity (d : Directory) (name : String) (e : Entity) : Outcome (Schema × List Diagnostic) := do
  let plural := d.plural name
  let table := d.tableFor name
  let camel := Naming.singularCamel name
  let fields ← ResolvedField.ofFields e.fields
  let (relations, onRelations) ← ResolvedRelation.ofRelations d name e.fields e.relations
  let (dependsOn, onFields) ← dependencies d name fields relations
  let (procedures, onProcedures) ← TypedProcedure.ofProcedures d (some (.text name)) e.procedures
  let computed ← e.computed.mapM TypedComputed.ofComputed
  let indexes ← IndexPlan.make table fields e.indexes
  return ({
    name, singular := Naming.singularize name, plural, pascalName := Naming.singularPascal name,
    camelName := camel, displayName := Naming.toDisplayName camel, tableName := table,
    endpoint := d.options.apiPrefix ++ "/" ++ plural, fields, relations, computed, dependsOn,
    isJunction := IndexPlan.isJunction fields, policy := .ofOption e.policy, indexes, procedures,
    timestamps := e.timestamps, tags := e.tags, module := e.module, group := e.group,
    metadata := e.metadata, description := e.description },
    onRelations ++ onFields ++ onProcedures)

/-- The entities of the directory, analysed in order, with the diagnostics on them. -/
def ofEntities (d : Directory) :
    List (String × Entity) → Outcome (List Schema × List Diagnostic)
  | [] => .ok ([], [])
  | (name, e) :: rest => do
    let (schema, diagnostics) ← ofEntity d name e
    let (others, more) ← ofEntities d rest
    return (schema :: others, diagnostics ++ more)

end Schema

end EntityModel
