import EntityModel.Proofs.Analysis.CanonicalParts

/-!
# What a fingerprint sees

The text from which the fingerprint of a result is taken tells the schemas of portable declarations
apart, up to their canonical forms (`AnalysisResult.canonicalText_eq_iff`): mappings are unordered,
and a text that may be missing counts as missing where it is empty. What else a canonical form loses
is the order of the columns by which a relation is ordered. That order matters to the queries that
are made from a schema, and the fingerprint does not see it.
-/

namespace EntityModel

open Value

namespace Schema

/-- The schema with its mappings, and the orders of its relations, sorted by keys; texts that may be
missing are missing where they are empty. -/
def canonical (s : Schema) : Schema :=
  { s with
    fields := s.fields.map ResolvedField.canonical
    relations := s.relations.map ResolvedRelation.canonical
    indexes := s.indexes.map PlannedIndex.tidied
    module := s.module.orElse .null
    group := s.group.orElse .null
    metadata := Entries.sorted s.metadata }

/-- The slots of the document form of a schema. -/
def slots (s : Schema) : List (String × Option Value) :=
  [("name", some (.text s.name)), ("singular", some (.text s.singular)),
    ("plural", some (.text s.plural)), ("pascal_name", some (.text s.pascalName)),
    ("camel_name", some (.text s.camelName)), ("display_name", some (.text s.displayName)),
    ("table_name", some s.tableName), ("endpoint", some (.text s.endpoint)),
    ("fields", some (.list (s.fields.map ResolvedField.encode))),
    ("relations", some (.list (s.relations.map ResolvedRelation.encode))),
    ("computed", some (.list (s.computed.map TypedComputed.encode))),
    ("depends_on", some (.texts s.dependsOn)), ("is_junction", some (.bool s.isJunction)),
    ("rls", some s.policy.encode), ("indexes", some (.list (s.indexes.map PlannedIndex.encode))),
    ("rpc", some (.list (s.procedures.map TypedProcedure.encode))),
    ("has_timestamps", some s.timestamps), ("tags", some (.list s.tags)),
    ("module", s.module.ifGiven), ("group", s.group.ifGiven),
    ("metadata", (Value.map s.metadata).ifGiven), ("description", s.description.ifGiven)]

lemma encode_eq_record (s : Schema) : s.encode = .record (filled s.slots) := by
  unfold encode
  cases empty : s.metadata.isEmpty <;> simp [slots, ResolvedField.encodeAll_eq_map, empty]

theorem Conforms.isJson {s : Schema} (h : s.Conforms) : s.encode.IsJson := by
  have metadata : (Value.map s.metadata).IsJson :=
    .map (fun e mem => (h.metadata e mem).1) fun e mem => (h.metadata e mem).2
  rw [encode_eq_record]
  refine isJson_record_filled ?_
  simp only [slots, List.forall_mem_cons, List.not_mem_nil, false_imp_iff, implies_true,
    writes_text, writes_bool, true_and, and_true]
  exact ⟨h.tableName.isPlain.isJson.writes, writes_list_map fun f mem => (h.fields f mem).isJson,
    writes_list_map fun r mem => (h.relations r mem).isJson,
    writes_list_map fun c mem => TypedComputed.isJson_encode (h.computed c mem),
    writes_list_map fun s _ => (isPlain_text s).isJson, h.policy.isJson.writes,
    writes_list_map fun i mem => (h.indexes i mem).isJson,
    writes_list_map fun p mem => (h.procedures p mem).isJson, h.timestamps.isPlain.isJson.writes,
    (isJson_texts h.tags).writes, h.module.isPlain.isJson.writes_ifGiven,
    h.group.isPlain.isJson.writes_ifGiven, metadata.writes_ifGiven,
    h.description.isPlain.isJson.writes_ifGiven⟩

/-- Metadata that is empty is left out, and is like no other once it is sorted. -/
lemma sorted_metadata_iff {m n : Entries} :
    (Value.map m).ifGiven.map Value.sorted = (Value.map n).ifGiven.map Value.sorted ↔
      m.sorted = n.sorted := by
  have length (m : Entries) : m.sorted.length = m.length := by
    rw [Entries.sorted, List.length_mergeSort, List.length_map]
  have ne (e : Scalar × Value) (rest : Entries) :
      Entries.sorted [] ≠ Entries.sorted (e :: rest) := fun same => by
    have lengths := congrArg List.length same
    rw [length, length] at lengths
    simp at lengths
  cases m with
  | nil =>
    cases n with
    | nil => simp
    | cons e rest => simp [ifGiven, ne e rest]
  | cons e rest =>
    cases n with
    | nil => simp [ifGiven, (ne e rest).symm]
    | cons e' rest' => simp [ifGiven]

/-- Conforming schemas have the same sorted document form just if they have the same canonical
form. -/
theorem Conforms.sorted_encode_iff {s t : Schema} (hs : s.Conforms) (ht : t.Conforms) :
    s.encode.sorted = t.encode.sorted ↔ s.canonical = t.canonical := by
  have fields := sorted_list_map_eq_iff fun f mem g mem' =>
    (hs.fields f mem).sorted_encode_iff (ht.fields g mem')
  have relations := sorted_list_map_eq_iff fun r mem r' mem' =>
    (hs.relations r mem).sorted_encode_iff (ht.relations r' mem')
  have computed := sorted_list_map_eq_iff_eq fun c mem c' mem' =>
    TypedComputed.sorted_encode_iff (hs.computed c mem) (ht.computed c' mem')
  have indexes := sorted_list_map_eq_iff fun i mem j mem' =>
    (hs.indexes i mem).sorted_encode_iff (ht.indexes j mem')
  have procedures := sorted_list_map_eq_iff_eq fun p mem q mem' =>
    (hs.procedures p mem).sorted_encode_iff (ht.procedures q mem')
  have dependsOn : (Value.texts s.dependsOn).sorted = (Value.texts t.dependsOn).sorted ↔
      s.dependsOn = t.dependsOn := sorted_list_map_eq_iff_eq fun name _ other _ => by simp
  rw [encode_eq_record, encode_eq_record,
    sorted_record_filled_iff (by simp [slots]) (by simp [slots])]
  simp only [slots, List.map_cons, List.map_nil, List.cons.injEq, Option.map_some,
    Option.some.injEq, fields, relations, computed, indexes, procedures, dependsOn,
    sorted_metadata_iff, sorted_scalar, scalar.injEq, Scalar.text.injEq, Scalar.bool.injEq,
    hs.policy.sorted_encode_iff ht.policy, sorted_texts_eq_iff hs.tags ht.tags,
    hs.tableName.isPlain.sorted_eq_iff ht.tableName.isPlain,
    hs.timestamps.isPlain.sorted_eq_iff ht.timestamps.isPlain,
    hs.module.isPlain.ifGiven_eq_iff ht.module.isPlain .null rfl,
    hs.group.isPlain.ifGiven_eq_iff ht.group.isPlain .null rfl,
    hs.description.ifGiven_eq_iff ht.description, canonical, Schema.mk.injEq, and_true]

end Schema

namespace AnalysisResult

variable {r r' : AnalysisResult}

/-- Results of conforming schemas have canonical texts, and the same one just if their schemas have
the same canonical forms. -/
lemma canonicalText_of_conforms (conforms : ∀ s ∈ r.schemas, s.Conforms)
    (conforms' : ∀ s ∈ r'.schemas, s.Conforms) :
    ∃ text text', r.canonicalText = .ok text ∧ r'.canonicalText = .ok text' ∧
      (text = text' ↔ r.schemas.map Schema.canonical = r'.schemas.map Schema.canonical) := by
  have json {schemas : List Schema} (conforms : ∀ s ∈ schemas, s.Conforms) :
      (Value.list (schemas.map Schema.encode)).IsJson :=
    .list (List.forall_mem_map.2 fun s mem => (conforms s mem).isJson)
  obtain ⟨text, text', written, written', same⟩ :=
    Json.text_canonical_eq_iff (json conforms) (json conforms')
  refine ⟨text, text', written, written', same.trans ?_⟩
  exact sorted_list_map_eq_iff fun s mem s' mem' =>
    (conforms s mem).sorted_encode_iff (conforms' s' mem')

/-- The results of portable entities have canonical texts, and the same one just if their schemas
have the same canonical forms. -/
theorem canonicalText_eq_iff {es es' : List Entity} (portable : ∀ e ∈ es, e.Portable)
    (portable' : ∀ e ∈ es', e.Portable) {options options' : Options} (conforms : options.Conforms)
    (conforms' : options'.Conforms) (ok : analyze es options = .ok r)
    (ok' : analyze es' options' = .ok r') :
    ∃ text text', r.canonicalText = .ok text ∧ r'.canonicalText = .ok text' ∧
      (text = text' ↔ r.schemas.map Schema.canonical = r'.schemas.map Schema.canonical) :=
  canonicalText_of_conforms ((analyze_conforms portable conforms).of_eq_ok ok)
    ((analyze_conforms portable' conforms').of_eq_ok ok')

end AnalysisResult

/-! ### Orders -/

namespace SortOrder

/-- The order by columns, each with its direction, one after the other. -/
def ofColumns (columns : List (String × String)) : SortOrder where
  keys := columns.map fun c => (.text c.1, .text c.2)
  listed := true

/-- Two orders have the same canonical form just if they have the same columns in the same
directions, whichever of the columns comes first. -/
theorem canonical_ofColumns_iff {columns others : List (String × String)}
    (distinct : (columns.map (·.1)).Nodup) (distinct' : (others.map (·.1)).Nodup) :
    (ofColumns columns).canonical = (ofColumns others).canonical ↔ columns.Perm others := by
  let entry (c : String × String) : String × Value := (c.1, .text c.2)
  have keys (columns : List (String × String)) :
      (ofColumns columns).keys = (columns.map entry).map Entries.keyed := by
    rw [ofColumns, List.map_map]
    rfl
  have form {columns : List (String × String)} (distinct : (columns.map (·.1)).Nodup) :
      Entries.ofPairs (ofColumns columns).keys = (columns.map entry).map Entries.keyed := by
    rw [Entries.ofPairs_of_distinct ?_, keys]
    rw [Entries.Distinct, ofColumns, List.pairwise_map]
    refine (List.pairwise_map.1 distinct).imp fun ne => ?_
    simpa [Scalar.same] using ne
  have sorted (columns : List (String × String)) :
      ∀ e ∈ columns.map entry, e.2.sorted = e.2 :=
    List.forall_mem_map.2 fun c _ => sorted_scalar _
  have injective : Function.Injective entry := fun c d same => by
    simpa [entry, Prod.ext_iff] using same
  rw [canonical, canonical, form distinct, form distinct', SortOrder.mk.injEq, and_iff_left rfl,
    Entries.sorted_map_keyed_iff (by rwa [List.map_map]) (sorted _) (sorted _),
    List.map_perm_map_iff injective]

end SortOrder

namespace AnalysisResult

/-! ### Examples -/

/-- An entity whose records refer to records of the same entity, in an order. -/
def feed (o : SortOrder) : Entity where
  name := "feed"
  relations := [{
    name := "posts", kind := .hasMany, target := "feed", foreignKey := .text "feedId",
    orderBy := some o }]

def ordered (o : SortOrder) (r : AnalysisResult) : AnalysisResult :=
  { r with schemas := r.schemas.map fun s =>
      { s with relations := s.relations.map fun relation => { relation with orderBy := some o } } }

/-- The order goes into the result as it is, and nothing else depends on it. -/
lemma analyze_feed (o : SortOrder) :
    analyze [feed o] {} = ordered o <$> analyze [feed { keys := [] }] {} := by
  with_unfolding_all rfl

def feedResult (schema : Schema) (relation : ResolvedRelation) (diagnostics : List Diagnostic)
    (o : SortOrder) : AnalysisResult where
  schemas := [{ schema with relations := [{ relation with orderBy := some o }] }]
  diagnostics := diagnostics

/-- The result for the feed has one schema with one relation. -/
lemma exists_analyze_feed : ∃ (schema : Schema) (relation : ResolvedRelation)
    (diagnostics : List Diagnostic), ∀ o,
      analyze [feed o] {} = .ok (feedResult schema relation diagnostics o) := by
  have shape : ((analyze [feed { keys := [] }] {}).toOption.map fun r =>
      r.schemas.map fun s => s.relations.length) = some [1] := by decide +kernel
  cases plain : analyze [feed { keys := [] }] {} with
  | error fault =>
    rw [plain] at shape
    simp [Except.toOption] at shape
  | ok r =>
    obtain ⟨schemas, diagnostics⟩ := r
    rw [plain] at shape
    obtain ⟨schema, rfl, one⟩ := List.map_eq_singleton_iff.1 (Option.some.inj shape)
    obtain ⟨relation, only⟩ := List.length_eq_one_iff.1 one
    refine ⟨schema, relation, diagnostics, fun o => ?_⟩
    rw [analyze_feed, plain]
    simp [ordered, feedResult, only]

/-- The schemas of two feeds agree in canonical form where their orders do. -/
lemma map_canonical_feedResult_iff (schema : Schema) (relation : ResolvedRelation)
    (diagnostics : List Diagnostic) {o o' : SortOrder} (given : o.keys ≠ [])
    (given' : o'.keys ≠ []) :
    (feedResult schema relation diagnostics o).schemas.map Schema.canonical =
        (feedResult schema relation diagnostics o').schemas.map Schema.canonical ↔
      o.canonical = o'.canonical := by
  simp [feedResult, Schema.canonical, ResolvedRelation.canonical, Option.filter, given, given']

/-- The feed is portable with any order by columns that passes its check. -/
lemma feed_portable {o : SortOrder}
    (texts : ∀ e ∈ o.keys, (∃ column, e.1 = .text column) ∧ e.2.IsText)
    (checked : SortOrder.checkDirections o.keys = .ok ()) : (feed o).Portable where
  built := by
    refine ⟨rfl, by simp [feed], List.forall_mem_singleton.2 ?_, by simp [feed], by simp [feed],
      by simp [feed]⟩
    refine (Relation.checked_eq_ok_iff _).2 ⟨rfl, rfl, ?_, .inl rfl⟩
    rintro _ ⟨⟩
    exact checked
  conforms := by
    refine ⟨⟨_, rfl⟩, by simp [feed], List.forall_mem_singleton.2 ?_, by simp [feed],
      by simp [feed], by simp [feed], by simp [feed], ⟨_, rfl⟩, by simp [feed], .inl rfl, .inl rfl,
      by simp [feed], ⟨_, rfl⟩⟩
    refine ⟨⟨_, rfl⟩, ⟨_, rfl⟩, .inr ⟨_, rfl⟩, ⟨_, rfl⟩, ?_, .inl rfl, .inl rfl, .inl rfl⟩
    rintro _ ⟨⟩
    exact texts
  json := ⟨by simp [feed], by simp [feed]⟩

lemma conforms_default : Options.Conforms {} := by simp [Options.Conforms]

def byDate (direction : String) : SortOrder := .ofColumns [("date", direction)]

lemma feed_byDate_portable {direction : String}
    (checked : SortOrder.checkDirections (byDate direction).keys = .ok ()) :
    ∀ e ∈ [feed (byDate direction)], e.Portable :=
  List.forall_mem_singleton.2
  (feed_portable (by simp [byDate, SortOrder.ofColumns, IsText]) checked)

/-- The canonical texts of the feed tell its directions apart. -/
theorem canonicalText_feed_ne : ∃ r r' text text', analyze [feed (byDate "asc")] {} = .ok r ∧
    analyze [feed (byDate "desc")] {} = .ok r' ∧ r.canonicalText = .ok text ∧
    r'.canonicalText = .ok text' ∧ text ≠ text' := by
  obtain ⟨schema, relation, diagnostics, analyzed⟩ := exists_analyze_feed
  obtain ⟨text, text', written, written', same⟩ := canonicalText_eq_iff (feed_byDate_portable rfl)
    (feed_byDate_portable rfl) conforms_default conforms_default (analyzed (byDate "asc"))
    (analyzed (byDate "desc"))
  refine ⟨_, _, text, text', analyzed _, analyzed _, written, written', fun equal => ?_⟩
  have given (direction : String) : (byDate direction).keys ≠ [] := List.cons_ne_nil _ _
  have forms := (map_canonical_feedResult_iff schema relation diagnostics (given _) (given _)).1
    (same.1 equal)
  have perm := (SortOrder.canonical_ofColumns_iff (by simp) (by simp)).1 forms
  simp at perm

def titleThenDate : SortOrder := .ofColumns [("title", "asc"), ("date", "desc")]

/-- By dates, and by titles where the dates are the same. -/
def dateThenTitle : SortOrder := .ofColumns [("date", "desc"), ("title", "asc")]

lemma titleThenDate_canonical : titleThenDate.canonical = dateThenTitle.canonical :=
  (SortOrder.canonical_ofColumns_iff (by simp) (by simp)).2 (.swap _ _ _)

/-- The columns by which the relations of a schema are ordered. -/
def columns (s : Schema) : List (Option (List Scalar)) :=
  s.relations.map fun r => r.orderBy.map fun o => o.keys.map (·.1)

/-- A feed that is ordered by titles and then by dates has the canonical text of one that is ordered
by dates and then by titles. -/
theorem canonicalText_feed_eq :
    (feed titleThenDate).Portable ∧ (feed dateThenTitle).Portable ∧ ∃ r r' text,
      analyze [feed titleThenDate] {} = .ok r ∧ analyze [feed dateThenTitle] {} = .ok r' ∧
      r.canonicalText = .ok text ∧ r'.canonicalText = .ok text ∧
      r.schemas.map columns ≠ r'.schemas.map columns := by
  have byTitle : (feed titleThenDate).Portable :=
    feed_portable (by simp [titleThenDate, SortOrder.ofColumns, IsText]) rfl
  have byDate : (feed dateThenTitle).Portable :=
    feed_portable (by simp [dateThenTitle, SortOrder.ofColumns, IsText]) rfl
  obtain ⟨schema, relation, diagnostics, analyzed⟩ := exists_analyze_feed
  have conforms {o : SortOrder} (portable : (feed o).Portable) :=
    (analyze_conforms (List.forall_mem_singleton.2 portable) conforms_default).of_eq_ok (analyzed o)
  obtain ⟨text, text', written, written', same⟩ :=
    canonicalText_of_conforms (conforms byTitle) (conforms byDate)
  obtain rfl : text = text' := same.2 <| (map_canonical_feedResult_iff schema relation diagnostics
    (List.cons_ne_nil _ _) (List.cons_ne_nil _ _)).2 titleThenDate_canonical
  refine ⟨byTitle, byDate, _, _, text, analyzed _, analyzed _, written, written', ?_⟩
  simp [feedResult, columns, titleThenDate, dateThenTitle, SortOrder.ofColumns]

end AnalysisResult

end EntityModel
