import EntityModel.Proofs.Declaration.Styles

/-!
# The two styles of entity documents

Fields, relations and procedures of an entity, the parts of an object at any depth and the arguments
of a procedure may each be written as a mapping of names to declarations or as a list of
declarations with their names inside. Whichever mappings of a document are changed into lists, the
same entity is read, or the document is refused for the same reason.
-/

namespace EntityModel

namespace Entity

/-- The entries of an entity's document with the chosen mappings as lists: its fields, its relations
and its procedures, and the chosen ones inside them. -/
def restyle (c : Choice) (entries : Entries) : Entries :=
  entries.mapValues fun key v =>
    if key = .text "fields" then
      restyleSection (some "type") Field.restyle (c.after (.key "fields")) v
    else if key = .text "relations" then
      restyleSection (some "type") (fun _ entries => entries) (c.after (.key "relations")) v
    else if key = .text "rpc" then
      restyleSection (some "returns") Procedure.restyle (c.after (.key "rpc")) v
    else v

lemma find?_restyle (c : Choice) {key : String} (fields : key ≠ "fields")
    (relations : key ≠ "relations") (procedures : key ≠ "rpc") (entries : Entries) :
    Entries.find? (.text key) (restyle c entries) = Entries.find? (.text key) entries := by
  simp [restyle, fields, relations, procedures]

/-- Whichever mappings of names to declarations in a document are changed into lists of the same
declarations, the document is read alike. -/
theorem decode_restyle (choice : Choice) (doc : Value) :
    decode (doc.onEntries (restyle choice)) = decode doc := by
  cases doc with
  | scalar | list => rfl
  | map entries =>
    have fields : Entries.find? (.text "fields") (restyle choice entries) =
        (Entries.find? (.text "fields") entries).map
          (restyleSection (some "type") Field.restyle (choice.after (.key "fields"))) := by
      simp [restyle]
    have relations : Entries.find? (.text "relations") (restyle choice entries) =
        (Entries.find? (.text "relations") entries).map (restyleSection (some "type")
          (fun _ entries => entries) (choice.after (.key "relations"))) := by
      simp [restyle]
    have procedures : Entries.find? (.text "rpc") (restyle choice entries) =
        (Entries.find? (.text "rpc") entries).map
          (restyleSection (some "returns") Procedure.restyle (choice.after (.key "rpc"))) := by
      simp [restyle]
    rw [Value.onEntries]
    unfold decode
    rw [decodeNamed_restyle Field.readsName
        (fun c name entries => Field.decode_restyleForm c name (.map entries)) fields,
      decodeNamed_restyle Relation.readsName (fun _ _ _ => rfl) relations,
      decodeNamed_restyle Procedure.readsName Procedure.decode_map_restyle procedures]
    simp [decodeListed, Value.entry, Value.entryOr, Value.optional, find?_restyle]

/-- A document with mappings everywhere, with all of them as lists. -/
example : Value.onEntries (restyle fun _ => true) (.record [
      ("name", "Book"),
      ("fields", .record [
        ("title", "string"),
        ("cover", .record [("type", "object"), ("shape", .record [
          ("width", .record [("type", "number")])])])]),
      ("rpc", .record [
        ("recent", .record [("returns", "Book[]"), ("args", .record [("since", "date")])]),
        ("purge", "void")])]) =
    .record [
      ("name", "Book"),
      ("fields", .list [
        .record [("name", "title"), ("type", "string")],
        .record [("name", "cover"), ("type", "object"), ("shape", .list [
          .record [("name", "width"), ("type", "number")]])]]),
      ("rpc", .list [
        .record [("name", "recent"), ("returns", "Book[]"), ("args", .list [
          .record [("name", "since"), ("type", "date")]])],
        .record [("name", "purge"), ("returns", "void")]])] := by
  rfl

end Entity

end EntityModel
