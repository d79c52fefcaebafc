import EntityModel.Declaration.Entity

/-!
# Entity documents

A document lists the declarations of a run under the key `entities`. Problems of its structure are
found first and reported together; then each declaration is read, and the first one that is refused
ends the reading.
-/

namespace EntityModel.Document

def checkEntry (position : Nat) (entry : Value) : List String × List Value :=
  match entry with
  | .map _ =>
    let name := entry.getD "name"
    if !name.isGiven then ([s!"entities[{position}] has no name"], [])
    else match entry.getD "fields" with
      | .list _ | .map _ | .null => ([], [name])
      | _ => (["Entity '" ++ name.shown ++ "': 'fields' must be a list or mapping"], [name])
  | _ => ([s!"entities[{position}] must be a mapping"], [])

/-- The problems of the entries from a position on, and their names. -/
def checkEntries : Nat → List Value → List String × List Value
  | _, [] => ([], [])
  | position, entry :: rest =>
    let (problems, names) := checkEntry position entry
    let (more, others) := checkEntries (position + 1) rest
    (problems ++ more, names ++ others)

/-- The problems of names that have come before. -/
def checkRepeats : (seen : List Scalar) → List Scalar → List String
  | _, [] => []
  | seen, name :: rest =>
    (if seen.any name.same then ["Duplicate entity name '" ++ name.shown ++ "'"] else []) ++
      checkRepeats (name :: seen) rest

/-- The problems of a document's structure; none when its declarations can be read. -/
def problems (data : Value) : Outcome (List String) := do
  match data with
  | .map _ => match data.getD "entities" with
    | .null => return ["Document has no 'entities' list"]
    | .list entries =>
      let (found, names) := checkEntries 0 entries
      return found ++ checkRepeats [] (← names.mapM Value.asScalar)
    | _ => return ["'entities' must be a list"]
  | _ => return ["Document must be a mapping"]

/-- The failure of a declaration, out of what is wrong with it. -/
def definitionFault (name : Value) (fault : Fault) : Fault :=
  let failed (detail : String) : Fault :=
    .failed (.definition
      (some (.text ("Invalid entity '" ++ name.shown ++ "': " ++ detail))) name .null)
  match fault with
  | .wrongKind => .failed (.definition none name .null)
  | .missingKey key => failed ("missing key " ++ Text.quoted key)
  | .refused refusal => failed refusal.message
  | fault => fault

def readEntity (data : Value) : Outcome Entity := do
  let name ← data.optional "name"
  (Entity.decode data).mapError (definitionFault name)

/-- The declarations of a document, in order. -/
def read (data : Value) : Outcome (List Entity) := do
  let found ← problems data
  if !found.isEmpty then
    .error (.failed (.definition
      (some (.text ("Invalid entity document: " ++ "; ".intercalate found))) .null .null))
  else match data.getD "entities" with
    | .list entries => entries.mapM readEntity
    | _ => return []

/-- The failure of a text that cannot be read at all. -/
def unreadable (format : String) : Fault :=
  .failed (.definition (some (.text ("Invalid " ++ format))) .null .null)

/-- The declarations of a document that was read from a text; an empty text is an empty mapping. -/
def readParsed (data : Value) : Outcome (List Entity) := read (data.orElse (.map []))

end EntityModel.Document
