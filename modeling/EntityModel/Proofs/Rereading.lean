import EntityModel.Analysis.Result
import EntityModel.Proofs.Analysis.Directory
import EntityModel.Proofs.Analysis.RereadSchemas
import EntityModel.Proofs.CreationOrder.Alike

/-!
# The analysis of declarations that went through their documents

Writing conforming declarations and reading them back does not change what is analysed: the document
form of the result is the same, under all options and whatever diagnostics or failures there are.
The one exception is a has-many relation whose join entity is an empty text. An empty join entity
counts as given when it is asked whether the relation is many-to-many, and as not given when it is
written.
-/

namespace EntityModel

open Outcome

variable (d : Directory)

namespace AnalysisResult

/-- The result without what its document form does not show. -/
def tidied (r : AnalysisResult) : AnalysisResult :=
  { r with schemas := r.schemas.map Schema.tidied }

@[simp] lemma encode_tidied (r : AnalysisResult) : r.tidied.encode = r.encode := by
  have schemas : (r.schemas.map Schema.tidied).map Schema.encode = r.schemas.map Schema.encode := by
    simp
  unfold encode tidied
  rw [schemas]

lemma checkRelations_tidied (schema : String) (relations : List ResolvedRelation) :
    checkRelations d.reread schema (relations.map ResolvedRelation.tidied) =
      checkRelations d schema relations := by
  induction relations with
  | nil => rfl
  | cons r rest ih =>
    rw [List.map_cons, checkRelations, checkRelations, ih, Directory.contains_reread]
    rfl

lemma checkDependencies_reread (schema : String) (dependencies : List String) :
    checkDependencies d.reread schema dependencies = checkDependencies d schema dependencies := by
  induction dependencies with
  | nil => rfl
  | cons dependency rest ih =>
    rw [checkDependencies, checkDependencies, ih, Directory.contains_reread]

/-- Tidying schemas does not change the check of their references. -/
lemma checkReferences_tidied (schemas : List Schema) :
    checkReferences d.reread (schemas.map Schema.tidied) = checkReferences d schemas := by
  induction schemas with
  | nil => rfl
  | cons schema rest ih =>
    have relations := checkRelations_tidied d schema.name schema.relations
    rw [List.map_cons, checkReferences, checkReferences, ih, checkDependencies_reread]
    exact congrArg (· >>= fun _ => checkDependencies d schema.name schema.dependsOn >>= fun _ =>
      checkReferences d rest) relations

lemma verify_tidied (schemas : List Schema) :
    verify d.reread (schemas.map Schema.tidied) = verify d schemas := by
  have entities : d.reread.entities.length = d.entities.length := List.length_map _
  unfold verify
  rw [List.length_map, entities, checkReferences_tidied]

/-- The entities of a directory that were read back have the result of the entities, but for what no
document form shows. -/
lemma ofDirectory_reread (conforms : ∀ entry ∈ d.entities, entry.2.Conforms)
    (built : ∀ entry ∈ d.entities, entry.2.Built)
    (keeps : ∀ entry ∈ d.entities, ∀ r ∈ entry.2.relations, r.KeepsKind) :
    ofDirectory d.reread = tidied <$> ofDirectory d := by
  have schemas : Schema.ofEntities d.reread d.reread.entities = _ :=
    Schema.ofEntities_reread d conforms built keeps
  have alike : CreationOrder.Alike Schema.tidied := ⟨fun _ => rfl, fun _ => rfl⟩
  unfold ofDirectory
  rw [schemas]
  rcases Schema.ofEntities d d.entities with fault | ⟨analyzed, diagnostics⟩
  · rfl
  simp only [ok_map, ok_bind, CreationOrder.sort_map alike]
  rcases CreationOrder.sort analyzed with fault | ⟨order, cycles⟩
  · rfl
  simp only [ok_map, ok_bind, verify_tidied]
  cases verify d order <;> rfl

/-- Entities that were read back have the result of the entities, but for what no document form
shows. -/
lemma analyze_reread {es : List Entity} (conforms : ∀ e ∈ es, e.Conforms)
    (built : ∀ e ∈ es, e.Built) (keeps : ∀ e ∈ es, ∀ r ∈ e.relations, r.KeepsKind)
    (options : Options) :
    analyze (es.map Entity.reread) options = tidied <$> analyze es options := by
  have texts : ∀ e ∈ es, e.name.IsText := fun e mem => (conforms e mem).name
  have listed := Directory.build_ensures texts options
  unfold analyze
  rw [Directory.build_reread]
  cases directory : Directory.build es options with
  | error fault => rfl
  | ok d =>
    obtain ⟨_, listed⟩ := listed.of_eq_ok directory
    exact ofDirectory_reread d (fun entry mem => conforms _ (listed.mem_entities mem))
      (fun entry mem => built _ (listed.mem_entities mem))
      fun entry mem => keeps _ (listed.mem_entities mem)

/-- Conforming entities that the constructors accept can be written and read back, and what was read
back has a result of the same document form, or the same failure. -/
theorem encode_analyze_reread {es : List Entity} (conforms : ∀ e ∈ es, e.Conforms)
    (built : ∀ e ∈ es, e.Built) (keeps : ∀ e ∈ es, ∀ r ∈ e.relations, r.KeepsKind)
    (options : Options) :
    ∃ again, es.mapM (fun e => Entity.decode e.encode) = .ok again ∧
      encode <$> analyze again options = encode <$> analyze es options := by
  refine ⟨es.map Entity.reread, ?_, ?_⟩
  · have read := mapM_map_eq_ok es fun e mem => Entity.decode_encode (built e mem)
    rwa [List.mapM_map] at read
  · rw [analyze_reread conforms built keeps options]
    cases analyze es options with
    | error fault => rfl
    | ok r => exact congrArg Except.ok r.encode_tidied

/-! ### Examples -/

/-- An entity with empty texts, constraints without a bound and a column twice in an order. -/
def shelf : Entity where
  name := "shelf"
  fields := [{ name := "label", hint := .text "", constraints := some {} }]
  relations := [{
    name := "books", kind := .hasMany, target := "book", foreignKey := .text "",
    orderBy := some { keys := [(.text "at", "desc"), (.text "at", "asc")], listed := true } }]
  indexes := [{ fields := ["label"], using_ := .text "" }]
  module := .text ""

/-- The shelf conforms. -/
lemma shelf_conforms : shelf.Conforms where
  name := ⟨_, rfl⟩
  fields := by
    refine List.forall_mem_singleton.2 (.mk ?_ (by simp) (by simp))
    refine ⟨⟨_, rfl⟩, ⟨_, rfl⟩, ⟨_, rfl⟩, ⟨_, rfl⟩, .inl rfl, by simp, ?_, .inr ⟨_, rfl⟩, ⟨_, rfl⟩⟩
    rintro _ ⟨⟩
    exact ⟨.inl rfl, .inl rfl, .inl rfl, .inl rfl⟩
  relations := by
    refine List.forall_mem_singleton.2 ⟨⟨_, rfl⟩, ⟨_, rfl⟩, .inr ⟨_, rfl⟩, ⟨_, rfl⟩, ?_, .inl rfl,
      .inl rfl, .inl rfl⟩
    rintro _ ⟨⟩
    simp [Value.IsText]
  computed := by simp [shelf]
  policy := by simp [shelf]
  indexes := by
    refine List.forall_mem_singleton.2 ⟨?_, .inl rfl, .inr ⟨_, rfl⟩, ⟨_, rfl⟩, .inl rfl, ⟨_, rfl⟩⟩
    exact List.forall_mem_singleton.2 ⟨_, rfl⟩
  procedures := by simp [shelf]
  timestamps := ⟨_, rfl⟩
  tags := by simp [shelf]
  module := .inr ⟨_, rfl⟩
  group := .inl rfl
  metadata := by simp [shelf]
  description := ⟨_, rfl⟩

/-- The constructor accepts the shelf. -/
lemma shelf_built : shelf.Built where
  own := rfl
  fields := List.forall_mem_singleton.2 (.mk rfl (by rintro _ ⟨⟩; rfl) (by simp) (by simp))
  relations := List.forall_mem_singleton.2 rfl
  policy := by simp [shelf]
  indexes := List.forall_mem_singleton.2 rfl
  procedures := by simp [shelf]

/-- The shelf is read back and analysed with the same result. -/
theorem encode_analyze_shelf : ∃ again, [shelf].mapM (fun e => Entity.decode e.encode) = .ok again ∧
    encode <$> analyze again {} = encode <$> analyze [shelf] {} := by
  refine encode_analyze_reread (List.forall_mem_singleton.2 shelf_conforms)
    (List.forall_mem_singleton.2 shelf_built) (List.forall_mem_singleton.2 ?_) {}
  exact List.forall_mem_singleton.2 fun _ => by simp

/-- An entity with a has-many relation whose join entity is an empty text. -/
def album : Entity where
  name := "album"
  relations := [{ name := "tracks", kind := .hasMany, target := "track", through := .text "" }]

/-- The kinds of the relations that stand in the document form of a result, schema by schema. -/
def relationKinds (v : Value) : List (List (Option String)) :=
  let items (v : Value) : List Value := match v with
    | .list items => items
    | _ => []
  (items (v.getD "schemas")).map fun schema =>
    (items (schema.getD "relations")).map fun r => (r.getD "kind").text?

/-- The relation to the tracks is many-to-many until the album is read back, and has-many then. -/
theorem encode_analyze_album_ne : Entity.decode album.encode = .ok album.reread ∧
    encode <$> analyze [album.reread] {} ≠ encode <$> analyze [album] {} := by
  have before : ((encode <$> analyze [album] {}).toOption.map relationKinds) =
      some [[some "manyToMany"]] := by decide +kernel
  have after : ((encode <$> analyze [album.reread] {}).toOption.map relationKinds) =
      some [[some "hasMany"]] := by decide +kernel
  refine ⟨rfl, fun same => ?_⟩
  rw [same, before] at after
  simp at after

end AnalysisResult

end EntityModel
