import EntityModel.Proofs.Analysis.Indexes
import EntityModel.Proofs.Analysis.KeptFields

/-!
# Uniqueness in a plan

A field that is to be unique is the exact field set of some index of the plan. That index is a
unique one unless a declaration has settled the matter: a declared index on exactly this field
replaces the one that the field would get, whether or not it is unique itself
(`IndexPlan.exists_unique_iff`).
-/

namespace EntityModel

open Outcome

namespace IndexPlan

variable {table : Value} {declared : List Index} {fs : List Field} {fields : List ResolvedField}

/-- In a plan each field that is to be unique is covered exactly. Unless it is a reference field
that no declared index covers exactly, it is covered by a unique index just if a declared index does
so or no declared index covers it exactly. -/
theorem exists_unique_iff (resolved : ResolvedField.ofFields fs = .ok fields)
    (distinct : (fs.map (·.name)).Nodup) (texts : ∀ d ∈ declared, ∀ v ∈ d.fields, v.IsText) :
    ∃ plan, make table fields declared = .ok plan ∧
      ∀ f ∈ fs, f.unique.isGiven = true → f.name ≠ .text primaryKey →
        (∃ i ∈ plan, CoversExactly i.fields f.name) ∧
        ((f.kind = some .reference → ∃ d ∈ declared, CoversExactly d.fields f.name) →
          ((∃ i ∈ plan, i.unique.isGiven = true ∧ CoversExactly i.fields f.name) ↔
            (∃ d ∈ declared, d.unique.isGiven = true ∧ CoversExactly d.fields f.name) ∨
              ¬ ∃ d ∈ declared, CoversExactly d.fields f.name)) := by
  have kept := (ResolvedField.ofFields_keeps fs).of_eq_ok resolved
  have names : (fields.map (·.name)).map Value.text = fs.map (·.name) := by
    rw [List.map_map]
    exact map_eq_map kept fun _ _ keeps => keeps.name.symm
  have distinct : (fields.map (·.name)).Nodup := .of_map _ (names ▸ distinct)
  obtain ⟨explicit, references, declares, isReferences, made⟩ := make_eq table texts distinct
  refine ⟨_, made, fun f mem unique other => ?_⟩
  obtain ⟨out, isOut, keeps⟩ := exists_of_mem_left kept mem
  have needed : needsUnique out = true := by
    have given : out.unique.isGiven = true := keeps.unique ▸ unique
    have notKey : out.name ≠ primaryKey := fun same => other (keeps.name.trans (same ▸ rfl))
    simp [needsUnique, given, notKey]
  rw [keeps.name]
  have explicit_iff : (∃ i ∈ explicit, CoversExactly i.fields (.text out.name)) ↔
      ∃ d ∈ declared, CoversExactly d.fields (.text out.name) :=
    PlannedIndex.exists_declares_iff declares fun _ listed => CoversExactly listed (.text out.name)
  have reference_iff : (∃ i ∈ references, CoversExactly i.fields (.text out.name)) ↔
      out.isReference = true ∧ ¬ ∃ d ∈ declared, CoversExactly d.fields (.text out.name) := by
    rw [isReferences, exists_mem_map_covers_iff (fun _ => rfl) distinct isOut, isUncovered_iff,
      explicit_iff]
  have added_iff : (∃ i ∈ (fields.filter (isUncovered needsUnique (explicit ++ references))).map
        (fun f => PlannedIndex.ofUnique table f.name), CoversExactly i.fields (.text out.name)) ↔
      ¬ ∃ i ∈ explicit ++ references, CoversExactly i.fields (.text out.name) := by
    rw [exists_mem_map_covers_iff (fun _ => rfl) distinct isOut, isUncovered_iff]
    simp only [needed, true_and]
  constructor
  · by_cases covered : ∃ i ∈ explicit ++ references, CoversExactly i.fields (.text out.name)
    · obtain ⟨i, isIndex, exactly⟩ := covered
      exact ⟨i, List.mem_append_left _ isIndex, exactly⟩
    · obtain ⟨i, isAdded, exactly⟩ := added_iff.2 covered
      exact ⟨i, List.mem_append_right _ isAdded, exactly⟩
  · intro settled
    -- a reference field is here covered by a declared index and so gets none of its own
    have noReference : ¬ ∃ i ∈ references, CoversExactly i.fields (.text out.name) := by
      rw [reference_iff]
      rintro ⟨reference, none⟩
      have kind : ResolvedField.resolvedKind f = .reference :=
        keeps.kind ▸ of_decide_eq_true reference
      exact none (settled (ResolvedField.kind_of_resolvedKind (by simp) kind))
    have covered_iff : (∃ i ∈ explicit ++ references, CoversExactly i.fields (.text out.name)) ↔
        ∃ d ∈ declared, CoversExactly d.fields (.text out.name) := by
      simp only [List.mem_append, or_and_right, exists_or, explicit_iff]
      exact or_iff_left noReference
    have unique_iff := PlannedIndex.exists_declares_iff declares fun unique listed =>
      unique.isGiven = true ∧ CoversExactly listed (.text out.name)
    rw [covered_iff] at added_iff
    rw [← unique_iff, ← added_iff, isReferences]
    exact exists_isGiven_unique_iff table fun listed => CoversExactly listed (.text out.name)

/-- A post with a slug that no other post has, and its author. -/
def postFields : List Field :=
  [{ name := .text "id", type := "uuid", unique := .bool true },
    { name := .text "slug", unique := .bool true },
    { name := .text "authorId", type := "ref", target := .text "user" }]

def slugs : Index where
  fields := [.text "slug"]

/-- An index of the posts of each author by their slugs. -/
def slugsOfAuthors : Index where
  fields := [.text "authorId", .text "slug"]

/-- Where the only declared index has other fields besides, the slugs of posts are kept apart. -/
theorem exists_unique_slug : ∃ fields plan, ResolvedField.ofFields postFields = .ok fields ∧
    make (.text "posts") fields [slugsOfAuthors] = .ok plan ∧
      ∃ i ∈ plan, i.unique.isGiven = true ∧ CoversExactly i.fields (.text "slug") := by
  obtain ⟨fields, resolved⟩ : ∃ fields, ResolvedField.ofFields postFields = .ok fields := ⟨_, rfl⟩
  have distinct : (postFields.map (·.name)).Nodup := by simp [postFields]
  have texts : ∀ d ∈ [slugsOfAuthors], ∀ v ∈ d.fields, v.IsText := by
    simp [slugsOfAuthors, Value.IsText]
  obtain ⟨plan, made, covered⟩ :
      ∃ plan, make (.text "posts") fields [slugsOfAuthors] = .ok plan ∧ _ :=
    exists_unique_iff resolved distinct texts
  have slug := (covered { name := .text "slug", unique := .bool true } (by simp [postFields]) rfl
    (by simp [primaryKey])).2 (fun reference => absurd reference (by decide))
  have uncovered : ∀ d ∈ [slugsOfAuthors], ¬ CoversExactly d.fields (.text "slug") := by
    simp [slugsOfAuthors, CoversExactly]
  exact ⟨fields, plan, resolved, made, slug.2 (.inr (by simpa using uncovered))⟩

/-- With a declared index that lets slugs repeat, nothing keeps them apart. -/
theorem not_exists_unique_slug : ∃ fields plan, ResolvedField.ofFields postFields = .ok fields ∧
    make (.text "posts") fields [slugs] = .ok plan ∧
      ¬ ∃ i ∈ plan, i.unique.isGiven = true ∧ CoversExactly i.fields (.text "slug") := by
  refine ⟨_, [
    { name := .text "idx_posts_slug", table := .text "posts", fields := [.text "slug"],
      generated := false },
    PlannedIndex.ofReference (.text "posts") "authorId"], rfl, by rfl, ?_⟩
  simp [PlannedIndex.ofReference]

end IndexPlan

end EntityModel
