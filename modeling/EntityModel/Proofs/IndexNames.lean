import EntityModel.Proofs.Analysis.Indexes
import EntityModel.Proofs.Naming.Words

/-!
# Names of the indexes of a plan

The name that is made for an index says its table and what it is on: the fields as they are written
for a declared index, the snake case form of the field for one that is added. Nothing keeps these
names apart but what they say, so a plan has two indexes of one name just if two of them say the
same (`IndexPlan.nodup_names_iff`).
-/

namespace EntityModel

open Outcome Naming

/-- What the name made for a declared index says that it is on: its fields, one after the other. -/
def Index.label (d : Index) : String := "_".intercalate (d.fields.filterMap Value.text?)

namespace PlannedIndex

variable {table : Value} {d : Index} {i : PlannedIndex}

def madeName (table : Value) (label : String) : Value :=
  .text ("idx_" ++ table.shown ++ "_" ++ label)

lemma madeName_injective : Function.Injective (madeName table) := by
  intro label other same
  simpa [madeName] using same

/-- Texts are read as texts, all of them. -/
lemma mapM_asText {listed : List Value} (texts : ∀ v ∈ listed, v.IsText) :
    listed.mapM Value.asText = .ok (listed.filterMap Value.text?) := by
  induction listed with
  | nil => rfl
  | cons v rest ih =>
    obtain ⟨⟨s, rfl⟩, others⟩ := List.forall_mem_cons.1 texts
    rw [List.mapM_cons, ih others]
    rfl

lemma Declares.name_eq (declares : Declares table d i) (texts : ∀ v ∈ d.fields, v.IsText)
    (unnamed : d.name.isGiven = false) : i.name = madeName table d.label := by
  obtain ⟨made, isMade, name⟩ := declares.unnamed (Bool.eq_false_iff.1 unnamed)
  rw [declaredName, mapM_asText texts] at isMade
  rw [name, ← Except.ok.inj isMade]
  rfl

end PlannedIndex

namespace IndexPlan

variable {table : Value} {fields references uniques : List ResolvedField} {declared : List Index}

/-- No two indexes of a plan say that they are on the same: neither two declared ones, nor two added
for reference fields or two added for unique fields, nor a declared one and one that is added. A
reference field says the same as a unique field if it has its words and then the word "unique". -/
structure NamesApart (fields : List ResolvedField) (declared : List Index) : Prop where
  labels : (declared.map Index.label).Nodup
  references : ∀ f ∈ fields, OwnsReference declared f → ∀ g ∈ fields, OwnsReference declared g →
    lowerWords f.name = lowerWords g.name → f = g
  uniques : ∀ f ∈ fields, OwnsUnique declared f → ∀ g ∈ fields, OwnsUnique declared g →
    lowerWords f.name = lowerWords g.name → f = g
  declared_reference : ∀ d ∈ declared, ∀ f ∈ fields, OwnsReference declared f →
    d.label ≠ toSnakeCase f.name
  declared_unique : ∀ d ∈ declared, ∀ f ∈ fields, OwnsUnique declared f →
    d.label ≠ toSnakeCase f.name ++ "_unique"
  reference_unique : ∀ f ∈ fields, OwnsReference declared f → ∀ g ∈ fields, OwnsUnique declared g →
    ¬ (lowerWords g.name ≠ [] ∧ lowerWords f.name = lowerWords g.name ++ ["unique"])

/-- What the names of a plan say that its indexes are on. -/
def labels (declared : List Index) (references uniques : List ResolvedField) : List String :=
  declared.map Index.label ++ references.map (fun f => toSnakeCase f.name) ++
    uniques.map fun f => toSnakeCase f.name ++ "_unique"

/-- The names of a plan are made of what they say. -/
lemma map_name_eq {explicit : List PlannedIndex}
    (declares : List.Forall₂ (PlannedIndex.Declares table) declared explicit)
    (texts : ∀ d ∈ declared, ∀ v ∈ d.fields, v.IsText)
    (unnamed : ∀ d ∈ declared, d.name.isGiven = false) :
    (explicit ++ references.map (fun f => PlannedIndex.ofReference table f.name) ++
        uniques.map fun f => PlannedIndex.ofUnique table f.name).map (·.name) =
      (labels declared references uniques).map (PlannedIndex.madeName table) := by
  have made :
      explicit.map (·.name) = (declared.map Index.label).map (PlannedIndex.madeName table) := by
    rw [List.map_map]
    have known := (List.forall₂_and_left _ _).2 ⟨fun d mem =>
      And.intro (texts d mem) (unnamed d mem), declares⟩
    exact map_eq_map known fun _ _ h => h.2.name_eq h.1.1 h.1.2
  simp only [labels, List.map_append, List.map_map, made]
  congr 1
  refine List.map_congr_left fun f _ => ?_
  simp [PlannedIndex.ofUnique, PlannedIndex.madeName, String.append_assoc]

namespace Layout

/-- The names of a plan say different things just if nothing in the declarations makes two say the
same. -/
lemma nodup_labels_iff (layout : Layout fields declared references uniques)
    (distinct : (fields.map (·.name)).Nodup) :
    (labels declared references uniques).Nodup ↔ NamesApart fields declared := by
  have nodup := distinct.of_map
  have isPlain : IsPlain "unique" := ⟨by decide, by decide⟩
  have references_iff : (references.map fun f => toSnakeCase f.name).Nodup ↔
      ∀ f ∈ references, ∀ g ∈ references, lowerWords f.name = lowerWords g.name → f = g := by
    rw [List.nodup_map_iff_inj_on (nodup.sublist layout.references_sublist)]
    simp only [toSnakeCase_eq_iff]
  have uniques_iff : (uniques.map fun f => toSnakeCase f.name ++ "_unique").Nodup ↔
      ∀ f ∈ uniques, ∀ g ∈ uniques, lowerWords f.name = lowerWords g.name → f = g := by
    rw [List.nodup_map_iff_inj_on (nodup.sublist layout.uniques_sublist)]
    simp only [String.append_left_inj, toSnakeCase_eq_iff]
  have mixed_iff (f g : ResolvedField) : toSnakeCase f.name ≠ toSnakeCase g.name ++ "_unique" ↔
      ¬ (lowerWords g.name ≠ [] ∧ lowerWords f.name = lowerWords g.name ++ ["unique"]) :=
    not_congr (toSnakeCase_eq_append_iff isPlain)
  simp only [labels, List.nodup_append, references_iff, uniques_iff, List.forall_mem_append,
    List.forall_mem_map, mixed_iff, layout.mem_references_iff, layout.mem_uniques_iff, and_imp]
  constructor
  · rintro ⟨⟨labels, references, declared_reference⟩, uniques, declared_unique, reference_unique⟩
    exact ⟨labels, references, uniques, declared_reference, declared_unique, reference_unique⟩
  · rintro ⟨labels, references, uniques, declared_reference, declared_unique, reference_unique⟩
    exact ⟨⟨labels, references, declared_reference⟩, uniques, declared_unique, reference_unique⟩

end Layout

/-- For fields of distinct names, and if no declared index brings its name along, there is a plan,
and its indexes have distinct names just if no two of them say that they are on the same. -/
theorem nodup_names_iff (table : Value) (texts : ∀ d ∈ declared, ∀ v ∈ d.fields, v.IsText)
    (distinct : (fields.map (·.name)).Nodup) (unnamed : ∀ d ∈ declared, d.name.isGiven = false) :
    ∃ plan, make table fields declared = .ok plan ∧
      ((plan.map (·.name)).Nodup ↔ NamesApart fields declared) := by
  obtain ⟨explicit, references, uniques, declares, layout, made⟩ :=
    exists_layout table texts distinct
  refine ⟨_, made, ?_⟩
  rw [map_name_eq declares texts unnamed, List.nodup_map_iff PlannedIndex.madeName_injective]
  exact layout.nodup_labels_iff distinct

/-- A draft with its author and an address of its own. -/
def draftFields : List Field :=
  [{ name := .text "authorId", type := "ref", target := .text "user" },
    { name := .text "slug", unique := .bool true }, { name := .text "title" }]

/-- An index over the two fields of a draft that have indexes of their own. -/
def draftSlugs : Index where
  fields := [.text "authorId", .text "slug"]

/-- An index over all of the two fields has a name of its own beside theirs. -/
theorem nodup_names_draft : ∃ fields plan, ResolvedField.ofFields draftFields = .ok fields ∧
    make (.text "drafts") fields [draftSlugs] = .ok plan ∧
      (plan.map (·.name)).Nodup ∧ NamesApart fields [draftSlugs] := by
  obtain ⟨fields, resolved, isField, isName⟩ :
      ∃ fields, ResolvedField.ofFields draftFields = .ok fields ∧
      fields.map (·.name) = ["authorId", "slug", "title"] ∧
      List.map (·.name) <$> make (.text "drafts") fields [draftSlugs] =
        .ok [.text "idx_drafts_authorId_slug", .text "idx_drafts_author_id",
          .text "idx_drafts_slug_unique"] := ⟨_, rfl, rfl, by rfl⟩
  have texts : ∀ d ∈ [draftSlugs], ∀ v ∈ d.fields, v.IsText := by
    simp [draftSlugs, Value.isText_text]
  have unnamed : ∀ d ∈ [draftSlugs], d.name.isGiven = false := by
    simp [draftSlugs, Value.isGiven, Scalar.isGiven]
  have distinct : (fields.map (·.name)).Nodup := isField ▸ by decide
  obtain ⟨plan, made, names_iff⟩ := nodup_names_iff (.text "drafts") texts distinct unnamed
  rw [made, ok_map, Except.ok.injEq] at isName
  have nodup : (plan.map (·.name)).Nodup := isName ▸ by simp
  exact ⟨fields, plan, resolved, made, nodup, names_iff.1 nodup⟩

/-- Two indexes of different methods on one field have one name. -/
theorem not_nodup_names_title : ∃ fields plan, ResolvedField.ofFields draftFields = .ok fields ∧
    (fields.map (·.name)).Nodup ∧
      make (.text "drafts") fields [{ fields := [.text "title"] },
        { fields := [.text "title"], method := .gin }] = .ok plan ∧
      ¬ (plan.map (·.name)).Nodup := by
  obtain ⟨fields, resolved, isField, isName⟩ :
      ∃ fields, ResolvedField.ofFields draftFields = .ok fields ∧
      fields.map (·.name) = ["authorId", "slug", "title"] ∧
      List.map (·.name) <$> make (.text "drafts") fields [{ fields := [.text "title"] },
          { fields := [.text "title"], method := .gin }] =
        .ok [.text "idx_drafts_title", .text "idx_drafts_title", .text "idx_drafts_author_id",
          .text "idx_drafts_slug_unique"] := ⟨_, rfl, rfl, by rfl⟩
  obtain ⟨plan, made, isPlan⟩ := map_eq_ok_iff.1 isName
  exact ⟨fields, plan, resolved, isField ▸ by decide, made, isPlan ▸ by simp⟩

end IndexPlan

end EntityModel
