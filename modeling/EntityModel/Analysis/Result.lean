import EntityModel.Analysis.CreationOrder
import EntityModel.Digest
import EntityModel.Json.Writer

/-!
# Analysis results

A whole run: every entity analysed against the directory of all of them, the schemas put into an
order in which they can be created, and the diagnostics collected. Before it is handed out, a result
is checked for completeness and for references that point nowhere.
-/

namespace EntityModel

/-- Schemas in creation order, and the diagnostics in the order in which they arose. -/
structure AnalysisResult where
  schemas : List Schema
  diagnostics : List Diagnostic := []

namespace AnalysisResult

/-! ### Checks -/

/-- The fault of a result that contradicts itself. -/
def violated (message : String) (entity : Value) (rule : String) : Fault :=
  .failed (.invariant (.text message) entity (.text rule))

/-- Checks that the targets that are said to be known are entities of the run. -/
def checkRelations (d : Directory) (schema : String) : List ResolvedRelation → Outcome Unit
  | [] => .ok ()
  | r :: rest =>
    if r.targetKnown && !d.contains r.target then
      .error (violated ("Relation '" ++ r.name.shown ++ "' points at '" ++ r.target ++
        "', which is not in the entity set") (.text schema) "relation_target")
    else checkRelations d schema rest

def checkDependencies (d : Directory) (schema : String) : List String → Outcome Unit
  | [] => .ok ()
  | dependency :: rest =>
    if d.contains dependency then checkDependencies d schema rest
    else .error (violated ("Dependency '" ++ dependency ++ "' is not in the entity set")
      (.text schema) "depends_on")

def checkReferences (d : Directory) : List Schema → Outcome Unit
  | [] => .ok ()
  | schema :: rest => do
    checkRelations d schema.name schema.relations
    checkDependencies d schema.name schema.dependsOn
    checkReferences d rest

/-- Checks that there is a schema for each entity and that no reference points nowhere. -/
def verify (d : Directory) (schemas : List Schema) : Outcome Unit :=
  if schemas.length = d.entities.length then checkReferences d schemas
  else .error (violated
    s!"Expected {d.entities.length} analyzed schemas, got {schemas.length}" .null "completeness")

/-! ### Analysis -/

def ofDirectory (d : Directory) : Outcome AnalysisResult := do
  let (analyzed, diagnostics) ← Schema.ofEntities d d.entities
  let (schemas, cycles) ← CreationOrder.sort analyzed
  verify d schemas
  return ⟨schemas, diagnostics ++ cycles⟩

def analyze (entities : List Entity) (options : Options) : Outcome AnalysisResult := do
  ofDirectory (← Directory.build entities options)

/-! ### Reading a result -/

/-- The names of the schemas, in creation order. -/
def names (r : AnalysisResult) : List String := r.schemas.map (·.name)

def schema? (r : AnalysisResult) (name : String) : Option Schema :=
  r.schemas.find? (·.name == name)

def warnings (r : AnalysisResult) : List String := r.diagnostics.map Diagnostic.text

def summary (r : AnalysisResult) : String :=
  s!"Analyzed {r.schemas.length} entities with {r.diagnostics.length} diagnostics"

def encode (r : AnalysisResult) : Value :=
  .record [("schemas", .list (r.schemas.map Schema.encode)),
    ("diagnostics", .list (r.diagnostics.map Diagnostic.encode))]

def json (layout : Json.Layout) (r : AnalysisResult) : Outcome String := Json.text layout r.encode

/-- The text from which the fingerprint is taken: the schemas alone. -/
def canonicalText (r : AnalysisResult) : Outcome String :=
  Json.text .canonical (.list (r.schemas.map Schema.encode))

/-- A digest that changes with the schemas only. -/
def fingerprint (r : AnalysisResult) : Outcome String := do
  return "sha256:" ++ Digest.sha256 (← r.canonicalText).toUTF8.toList

end AnalysisResult

end EntityModel
