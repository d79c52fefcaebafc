import EntityModel.Analysis.Schema
import EntityModel.Proofs.Analysis.RereadRelations
import EntityModel.Proofs.EntityRoundTrip

/-!
# The analysis of entities that were read back

Every stage of an analysis gives for conforming entities that were read back what it gives for the
entities themselves, up to what no document form shows: an order is a mapping, and texts that are
empty count as not given (`Schema.tidied`).
-/

namespace EntityModel

open Outcome

attribute [local irreducible] FieldKind.lookup

variable (d : Directory)

/-! ### Procedures, computed properties, indexes and policies -/

namespace TypedProcedure

lemma ofProcedure_reread (owner : Option Value) (p : Procedure) :
    ofProcedure d.reread owner p = ofProcedure d owner p := by
  unfold ofProcedure returnTypeOf
  simp only [Directory.contains_reread]
  rfl

lemma ofProcedures_reread {procedures : List Procedure}
    (conforms : ∀ p ∈ procedures, p.Conforms) (owner : Option Value) :
    ofProcedures d.reread owner (procedures.map Procedure.reread) =
      ofProcedures d owner procedures := by
  induction procedures with
  | nil => rfl
  | cons p rest ih =>
    obtain ⟨first, others⟩ := List.forall_mem_cons.1 conforms
    rw [List.map_cons, ofProcedures, ofProcedures, first.reread, ofProcedure_reread, ih others]

end TypedProcedure

lemma TypedComputed.ofComputed_reread (c : Computed) : ofComputed c.reread = ofComputed c := by
  have given : c.reread.type.isGiven = c.type.isGiven := Value.isGiven_orElse_null c.type
  unfold ofComputed make
  rw [given]
  by_cases typed : c.type.isGiven = true
  · rw [show c.reread.type = c.type from Value.orElse_of_isGiven typed]
    rfl
  · rw [if_neg typed, if_neg typed]
    rfl

/-- What does not count as given is left out whether or not it is null. -/
lemma entry_orElse_null (key : String) (v : Value) :
    (if (v.orElse .null).isGiven then [(key, v.orElse .null)] else []) =
      if v.isGiven then [(key, v)] else [] := by
  rw [Value.isGiven_orElse_null]
  by_cases given : v.isGiven = true
  · rw [Value.orElse_of_isGiven given]
  · rw [if_neg given, if_neg given]

/-- The index without what its document form does not show: what is empty is not given. -/
def PlannedIndex.tidied (i : PlannedIndex) : PlannedIndex :=
  { i with using_ := i.using_.orElse .null, where_ := i.where_.orElse .null }

namespace PlannedIndex

@[simp] lemma encode_tidied (i : PlannedIndex) : i.tidied.encode = i.encode := by
  unfold encode tidied
  dsimp only
  rw [entry_orElse_null, entry_orElse_null]

/-- A declared index that has been read again is planned alike, tidied. -/
lemma ofIndex_reread {i : Index} (conforms : i.Conforms) (table : Value) :
    ofIndex table i.reread = tidied <$> ofIndex table i := by
  have given : i.reread.name.isGiven = i.name.isGiven := Value.isGiven_orElse_null i.name
  have unique : i.reread.unique = i.unique := conforms.unique.bool_isGiven
  have concurrently : i.reread.concurrently = i.concurrently := conforms.concurrently.bool_isGiven
  unfold ofIndex
  rw [given, unique, concurrently]
  by_cases named : i.name.isGiven = true
  · rw [if_pos named, if_pos named, show i.reread.name = i.name from Value.orElse_of_isGiven named]
    rfl
  · rw [if_neg named, if_neg named]
    change (Value.text <$> declaredName table i.fields) >>= _ = _
    cases declaredName table i.fields <;> rfl

end PlannedIndex

namespace IndexPlan

/-- Indexes that are added for fields are the same in a tidied plan. -/
lemma cover_tidied (index : String → PlannedIndex)
    (plain : ∀ name, (index name).tidied = index name)
    (wanted : ResolvedField → Bool) (fields : List ResolvedField) (plan : List PlannedIndex) :
    cover index wanted fields (plan.map PlannedIndex.tidied) =
      (cover index wanted fields plan).map PlannedIndex.tidied := by
  unfold cover
  induction fields generalizing plan with
  | nil => rfl
  | cons f rest ih =>
    have covered : (plan.map PlannedIndex.tidied).any (PlannedIndex.coversOnly f.name) =
        plan.any (PlannedIndex.coversOnly f.name) := by
      rw [List.any_map]
      rfl
    rw [List.foldl_cons, List.foldl_cons, covered, ← ih]
    split_ifs with wants
    · rw [List.map_append, List.map_singleton, plain]
    · rfl

/-- The indexes of a table are the same after reading, tidied. -/
lemma make_reread {declared : List Index} (conforms : ∀ i ∈ declared, i.Conforms) (table : Value)
    (fields : List ResolvedField) :
    make table fields (declared.map Index.reread) =
      List.map PlannedIndex.tidied <$> make table fields declared := by
  have each : ∀ i ∈ declared, (do
      let planned ← PlannedIndex.ofIndex table i.reread
      let _ ← i.reread.fields.mapM Value.asScalar
      return planned) = PlannedIndex.tidied <$> (do
      let planned ← PlannedIndex.ofIndex table i
      let _ ← i.fields.mapM Value.asScalar
      return planned : Outcome PlannedIndex) := by
    intro i mem
    have fields : i.reread.fields = i.fields := rfl
    rw [PlannedIndex.ofIndex_reread (conforms i mem), fields]
    cases PlannedIndex.ofIndex table i with
    | error fault => rfl
    | ok planned => cases i.fields.mapM Value.asScalar <;> rfl
  unfold make
  rw [mapM_map_eq_map declared each, map_eq_pure_bind, bind_assoc, map_bind]
  congr 1
  funext explicit
  simp only [pure_bind, map_pure]
  rw [cover_tidied _ fun _ => rfl, cover_tidied _ fun _ => rfl]

end IndexPlan

namespace EffectivePolicy

/-- A conforming policy without a document form is one without rules. -/
lemma eq_of_isGiven_encode {p : Policy} (conforms : p.Conforms) (empty : p.encode.isGiven = false) :
    p = {} := by
  have undeclared {q : Predicate} (conforms : q.Conforms) {key : String}
      (none : optionalEntry key q.form = []) : q = .written .null := by
    obtain ⟨v, rfl | ⟨s, rfl⟩, rfl⟩ := conforms
    · rfl
    · simp [Predicate.form] at none
  rw [Policy.encode_eq, Value.isGiven_record] at empty
  simp only [Bool.not_eq_false', List.isEmpty_iff, List.append_eq_nil_iff] at empty
  obtain ⟨⟨⟨scope, bypass⟩, select, insert, update, delete⟩, sql⟩ := empty
  obtain ⟨pScope, pBypass, pSelect, pInsert, pUpdate, pDelete, pSql⟩ := p
  obtain rfl := undeclared (conforms.predicate .select) select
  obtain rfl := undeclared (conforms.predicate .insert) insert
  obtain rfl := undeclared (conforms.predicate .update) update
  obtain rfl := undeclared (conforms.predicate .delete) delete
  obtain rfl : pScope = [] := by simpa using scope
  obtain rfl : pBypass = [] := by simpa using bypass
  obtain rfl : pSql = [] := by simpa using sql
  rfl

/-- A policy has the same effective form after reading. -/
lemma ofOption_reread {policy : Option Policy} (conforms : ∀ p, policy = some p → p.Conforms) :
    ofOption ((policy.filter (·.encode.isGiven)).map Policy.reread) = ofOption policy := by
  cases policy with
  | none => rfl
  | some p =>
    cases given : p.encode.isGiven with
    | true => simp [Option.filter, given, (conforms p rfl).reread]
    | false =>
      obtain rfl := eq_of_isGiven_encode (conforms p rfl) given
      have controlled : controls {} = fun _ => false := by
        funext op
        cases op <;> rfl
      rw [Option.filter, given, ofOption, ofPolicy, controlled]
      rfl

end EffectivePolicy

/-! ### Schemas -/

namespace Schema

/-- The schema without what its document form does not show: orders are mappings, and texts that are
empty are not given. -/
def tidied (s : Schema) : Schema :=
  { s with
    relations := s.relations.map ResolvedRelation.tidied
    indexes := s.indexes.map PlannedIndex.tidied
    module := s.module.orElse .null
    group := s.group.orElse .null }

/-- Tidying a schema does not change its document. -/
@[simp] lemma encode_tidied (s : Schema) : s.tidied.encode = s.encode := by
  have relations : (s.relations.map ResolvedRelation.tidied).map ResolvedRelation.encode =
      s.relations.map ResolvedRelation.encode := by
    simp
  have indexes : (s.indexes.map PlannedIndex.tidied).map PlannedIndex.encode =
      s.indexes.map PlannedIndex.encode := by
    simp
  unfold encode tidied
  dsimp only
  rw [relations, indexes, entry_orElse_null, entry_orElse_null]

lemma fieldDependencies_reread (entity : String) (fields : List ResolvedField)
    (found : List String) :
    fieldDependencies d.reread entity fields found = fieldDependencies d entity fields found := by
  induction fields generalizing found with
  | nil => rfl
  | cons f rest ih =>
    rw [fieldDependencies, fieldDependencies]
    simp only [Directory.resolve_reread, ih]

lemma relationDependencies_tidied (entity : String) (relations : List ResolvedRelation)
    (found : List String) :
    relationDependencies entity (relations.map ResolvedRelation.tidied) found =
      relationDependencies entity relations found := by
  unfold relationDependencies
  rw [List.foldl_map]
  rfl

lemma dependencies_reread (entity : String) (fields : List ResolvedField)
    (relations : List ResolvedRelation) :
    dependencies d.reread entity fields (relations.map ResolvedRelation.tidied) =
      dependencies d entity fields relations := by
  unfold dependencies
  simp only [fieldDependencies_reread, relationDependencies_tidied]

/-- An entity that was read back has the schema of the entity, but for what no document form
shows. -/
lemma ofEntity_reread {e : Entity} (conforms : e.Conforms) (built : e.Built)
    (keeps : ∀ r ∈ e.relations, r.KeepsKind) (name : String) :
    ofEntity d.reread name e.reread =
      (fun (schema, diagnostics) => (schema.tidied, diagnostics)) <$> ofEntity d name e := by
  have computed : (e.computed.map Computed.reread).mapM TypedComputed.ofComputed =
      e.computed.mapM TypedComputed.ofComputed := by
    rw [List.mapM_map]
    congr 1
    exact funext TypedComputed.ofComputed_reread
  have timestamps : e.reread.timestamps = e.timestamps := conforms.timestamps.bool_isGiven
  have description : e.reread.description = e.description := conforms.description.orElse_empty
  have policy : EffectivePolicy.ofOption e.reread.policy = .ofOption e.policy :=
    EffectivePolicy.ofOption_reread conforms.policy
  have fields : ResolvedField.ofFields e.reread.fields = ResolvedField.ofFields e.fields :=
    ResolvedField.ofFields_reread built.fields conforms.fields
  have relations := ResolvedRelation.ofRelations_reread d conforms.relations keeps name e.fields
  have procedures := TypedProcedure.ofProcedures_reread d conforms.procedures (some (.text name))
  unfold ofEntity
  rw [fields, timestamps, description, policy]
  cases ResolvedField.ofFields e.fields with
  | error fault => rfl
  | ok resolved =>
  have indexes := IndexPlan.make_reread conforms.indexes (d.tableFor name) resolved
  simp only [ok_bind, Entity.reread, relations, procedures, computed]
  rcases ResolvedRelation.ofRelations d name e.fields e.relations with
      fault | ⟨related, onRelations⟩
  · rfl
  simp only [ok_map, ok_bind, dependencies_reread]
  rcases dependencies d name resolved related with fault | ⟨dependsOn, onFields⟩
  · rfl
  simp only [ok_bind]
  rcases TypedProcedure.ofProcedures d (some (.text name)) e.procedures with
    fault | ⟨typed, onProcedures⟩
  · rfl
  simp only [ok_bind]
  cases e.computed.mapM TypedComputed.ofComputed with
  | error fault => rfl
  | ok properties =>
  have table : d.reread.tableFor name = d.tableFor name := rfl
  simp only [ok_bind, table, indexes]
  cases IndexPlan.make (d.tableFor name) resolved e.indexes with
  | error fault => rfl
  | ok plan =>
    have plural : d.reread.plural name = d.plural name := rfl
    have options : d.reread.options = d.options := rfl
    simp only [ok_map, ok_bind, plural, options, map_pure, tidied]

/-- Entities that were read back have the schemas of the entities, but for what no document form
shows. -/
lemma ofEntities_reread {entries : List (String × Entity)}
    (conforms : ∀ entry ∈ entries, entry.2.Conforms) (built : ∀ entry ∈ entries, entry.2.Built)
    (keeps : ∀ entry ∈ entries, ∀ r ∈ entry.2.relations, r.KeepsKind) :
    ofEntities d.reread (entries.map fun (name, e) => (name, e.reread)) =
      (fun (schemas, diagnostics) => (schemas.map tidied, diagnostics)) <$>
        ofEntities d entries := by
  induction entries with
  | nil => rfl
  | cons entry rest ih =>
    obtain ⟨name, e⟩ := entry
    obtain ⟨conformsFirst, conformsOthers⟩ := List.forall_mem_cons.1 conforms
    obtain ⟨builtFirst, builtOthers⟩ := List.forall_mem_cons.1 built
    obtain ⟨keepsFirst, keepsOthers⟩ := List.forall_mem_cons.1 keeps
    rw [List.map_cons, ofEntities, ofEntities,
      ofEntity_reread d conformsFirst builtFirst keepsFirst,
      ih conformsOthers builtOthers keepsOthers]
    cases ofEntity d name e with
    | error fault => rfl
    | ok analyzed => cases ofEntities d rest <;> rfl

end Schema

end EntityModel
