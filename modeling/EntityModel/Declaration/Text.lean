import EntityModel.Declaration.Document
import EntityModel.Json.Reader
import EntityModel.Yaml.Reader
import EntityModel.Yaml.Writer

/-!
# Entity documents as text

A document may be written in JSON or in YAML. A text that does not follow its format is refused as a
whole; a text that writes nothing, null or another empty value counts as an empty mapping.
-/

namespace EntityModel.Document

def ofJson (text : String) : Outcome (List Entity) :=
  match Json.read? text with
  | some data => readParsed data
  | none => .error (unreadable "JSON")

def ofYaml (text : String) : Outcome (List Entity) :=
  match Yaml.read text with
  | .ok data => readParsed data
  | .error .malformed => .error (unreadable "YAML")
  | .error (.noValue fault) => .error fault

/-- A document with the given declarations, in YAML. -/
def toYaml (entities : List Entity) : String :=
  Yaml.write [(.text "entities", .list (entities.map Entity.encode))]

end EntityModel.Document
