import EntityModel.Declaration.Computed
import EntityModel.Declaration.Field
import EntityModel.Declaration.Index
import EntityModel.Declaration.Procedure
import EntityModel.Declaration.Relation

/-!
# Entity declarations

An entity and all that is declared on it. It is accepted when it has a name and when its fields,
its relations and its procedures have distinct names.
-/

namespace EntityModel

/-- The declaration of an entity. -/
structure Entity where
  name : Value
  fields : List Field := []
  relations : List Relation := []
  computed : List Computed := []
  policy : Option Policy := none
  indexes : List Index := []
  procedures : List Procedure := []
  timestamps : Value := .bool true
  tags : List Value := []
  module : Value := .null
  group : Value := .null
  metadata : Entries := []
  description : Value := .text ""
  deriving Repr

namespace Entity

/-- Checks that names are distinct: those in `seen` have come before. -/
def checkNames (part : NamedPart) (entity : Value) :
    (seen : List Scalar) → List Value → Outcome Unit
  | _, [] => .ok ()
  | seen, name :: rest => do
    let key ← name.asScalar
    if seen.any key.same then refuse (.repeatedName part name entity)
    else checkNames part entity (key :: seen) rest

/-- The entity itself, if it has a name and its parts have distinct names. -/
def checked (e : Entity) : Outcome Entity := do
  if !e.name.isGiven then refuse (.emptyName .entity)
  checkNames .field e.name [] (e.fields.map (·.name))
  checkNames .relation e.name [] (e.relations.map (·.name))
  checkNames .procedure e.name [] (e.procedures.map (·.name))
  return e

def field? (e : Entity) (name : Value) : Option Field := e.fields.find? (·.name.same name)

def relation? (e : Entity) (name : Value) : Option Relation := e.relations.find? (·.name.same name)

/-! ### Documents -/

/-- A list of document forms under a key, left out when it is empty. -/
def encodeSome (key : String) (forms : List Value) : List (String × Value) :=
  if forms.isEmpty then [] else [(key, .list forms)]

/-- The document form of an entity: what differs from the defaults. -/
def encode (e : Entity) : Value :=
  .record ([("name", e.name), ("fields", .list (e.fields.map Field.encode))] ++
    encodeSome "relations" (e.relations.map Relation.encode) ++
    encodeSome "computed" (e.computed.map Computed.encode) ++
    (match e.policy with | some p => [("rls", p.encode)] | none => []) ++
    encodeSome "indexes" (e.indexes.map Index.encode) ++
    encodeSome "rpc" (e.procedures.map Procedure.encode) ++
    (if e.timestamps.isGiven then [] else [("timestamps", .bool false)]) ++
    encodeSome "tags" e.tags ++
    (if e.module.isGiven then [("module", e.module)] else []) ++
    (if e.group.isGiven then [("group", e.group)] else []) ++
    (if e.metadata.isEmpty then [] else [("metadata", .map e.metadata)]) ++
    (if e.description.isGiven then [("description", e.description)] else []))

/-- A declaration of one text, which stands for a document with that text under one key. -/
def expandShorthand (shorthand : String) : Value → Value
  | .text s => .record [(shorthand, .text s)]
  | v => v

/-- The declarations under a key: a list of documents, or a mapping of names to documents or to
texts that stand for them. -/
def decodeNamed {α : Type} (key shorthand : String) (decode : Value → Value → Outcome α)
    (data : Value) : Outcome (List α) := do
  match (← data.optional key).orElse (.list []) with
  | .map entries =>
    entries.mapM fun (name, v) => decode (.scalar name) (expandShorthand shorthand v)
  | written => (← written.elements).mapM (decode .null)

/-- The declarations under a key of which there is no mapping form. -/
def decodeListed {α : Type} (key : String) (decode : Value → Outcome α) (data : Value) :
    Outcome (List α) := do
  (← (← data.entryOr key (.list [])).elements).mapM decode

def decode (data : Value) : Outcome Entity := do
  let name ← data.entry "name"
  let fields ← decodeNamed "fields" "type" Field.decode data
  let relations ← decodeNamed "relations" "type" Relation.decode data
  let computed ← decodeListed "computed" Computed.decode data
  let written ← data.optional "rls"
  let policy ← if written.isGiven then some <$> Policy.decode written else pure none
  let indexes ← decodeListed "indexes" Index.decode data
  let procedures ← decodeNamed "rpc" "returns" Procedure.decode data
  let timestamps ← data.entryOr "timestamps" (.bool true)
  let tags ← (← data.entryOr "tags" (.list [])).elements
  let module ← data.optional "module"
  let group ← data.optional "group"
  let metadata := (← data.optional "metadata").orElse (.map [])
  let description ← data.entryOr "description" (.text "")
  if !name.isGiven then refuse (.emptyName .entity)
  let metadata ← metadata.toEntries
  checked {
    name, fields, relations, computed, policy, indexes, procedures, timestamps, tags, module, group,
    metadata, description }

/-- Whether two entities are equal. -/
def same (e f : Entity) : Bool :=
  e.name.same f.name && Field.sameAll e.fields f.fields &&
    Policy.sameBy Relation.same e.relations f.relations &&
    Policy.sameBy Computed.same e.computed f.computed &&
    (match e.policy, f.policy with
      | none, none => true
      | some p, some q => p.same q
      | _, _ => false) &&
    Policy.sameBy Index.same e.indexes f.indexes &&
    Policy.sameBy Procedure.same e.procedures f.procedures &&
    e.timestamps.same f.timestamps && Value.sameItems e.tags f.tags && e.module.same f.module &&
    e.group.same f.group && Value.same (.map e.metadata) (.map f.metadata) &&
    e.description.same f.description

end Entity

end EntityModel
