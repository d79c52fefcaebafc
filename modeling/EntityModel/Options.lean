import EntityModel.Naming.Inflection
import EntityModel.Value.Reading

/-!
# Run options

What a run is given besides the declarations: plurals of particular words, table names of particular
entities, and the path under which entities are reached.
-/

namespace EntityModel

/-- The options of a run. -/
structure Options where
  /-- plurals by singulars, all in lowercase -/
  pluralization : Naming.Overrides := []
  /-- table names by entity names -/
  tables : Entries := []
  /-- the path before the entity's own part, without a slash at the end -/
  apiPrefix : String := "/api"
  deriving Repr

namespace Options

/-- The plurals with one more; a singular that is there keeps its place. -/
def putPlural (singular plural : String) : Naming.Overrides → Naming.Overrides
  | [] => [(singular, plural)]
  | (s, p) :: rest =>
    if s == singular then (s, plural) :: rest else (s, p) :: putPlural singular plural rest

/-- Plurals out of a mapping, in lowercase. -/
def readPlurals (written : Value) : Outcome Naming.Overrides := do
  let pairs ← (← written.asMap).mapM fun (k, v) => do
    return (Text.lowercase (← (Value.scalar k).asText), Text.lowercase (← v.asText))
  return pairs.foldl (fun plurals pair => putPlural pair.1 pair.2 plurals) []

def trimSlashes (path : String) : String :=
  String.ofList (path.toList.reverse.dropWhile (· == '/')).reverse

/-- Options out of plurals, table names and a path. -/
def make (pluralization tables apiPrefix : Value) : Outcome Options := do
  return {
    pluralization := ← readPlurals pluralization
    tables := ← (tables.orElse (.map [])).toEntries
    apiPrefix := trimSlashes (← apiPrefix.asText) }

def decode (data : Value) : Outcome Options := do
  make ((← data.optional "pluralization").orElse (.map []))
    ((← data.optional "table_map").orElse (.map [])) (← data.entryOr "api_prefix" (.text "/api"))

def encode (o : Options) : Value :=
  .record [("pluralization", .record (o.pluralization.map fun (s, p) => (s, .text p))),
    ("table_map", .map o.tables), ("api_prefix", .text o.apiPrefix)]

/-- The table name given for an entity, or null. -/
def tableFor (o : Options) (entity : String) : Value :=
  (Entries.find? (.text entity) o.tables).getD .null

end Options

end EntityModel
