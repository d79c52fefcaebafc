import EntityModel.Proofs.Analysis.Indexes

/-!
# Coverage of a plan

A plan keeps what is declared and adds what the fields need, and no more: each reference field and
each unique field but the primary key is exactly what some index is on, and no index that is added
is on the same fields as a declared one or as another that is added (`IndexPlan.make_meets`).
-/

namespace EntityModel

open Outcome

/-- Two lists of fields are the same set of fields. -/
def SameFields (listed others : List Value) : Prop := ∀ v, v ∈ listed ↔ v ∈ others

lemma sameFields_singleton_iff {listed : List Value} {name : Value} :
    SameFields listed [name] ↔ CoversExactly listed name :=
  forall_congr' fun _ => iff_congr Iff.rfl List.mem_singleton

namespace IndexPlan

variable {table : Value} {fields references uniques : List ResolvedField} {declared : List Index}
  {explicit : List PlannedIndex}

/-- A field that has to be found by an index of its own: a reference, or a field that is unique and
not the primary key. -/
def Needs (f : ResolvedField) : Prop :=
  f.isReference = true ∨ f.unique.isGiven = true ∧ f.name ≠ primaryKey

lemma needsUnique_iff {f : ResolvedField} :
    needsUnique f = true ↔ f.unique.isGiven = true ∧ f.name ≠ primaryKey := by
  simp [needsUnique]

/-- Plans in three parts: the declared indexes as they are, indexes of reference fields, and indexes
of unique fields. Together they cover each field that needs it, and nothing is covered twice for
need. -/
structure Meets (table : Value) (fields : List ResolvedField) (declared : List Index)
    (explicit ofReferences ofUniques : List PlannedIndex) : Prop where
  /-- the declared indexes stand in their order and are kept as they are -/
  declares : List.Forall₂ (PlannedIndex.Declares table) declared explicit
  references : ∃ references : List ResolvedField, references.Sublist fields ∧
    (∀ f ∈ references, f.isReference = true) ∧
    ofReferences = references.map fun f => PlannedIndex.ofReference table f.name
  uniques : ∃ uniques : List ResolvedField, uniques.Sublist fields ∧
    (∀ f ∈ uniques, f.unique.isGiven = true ∧ f.name ≠ primaryKey) ∧
    ofUniques = uniques.map fun f => PlannedIndex.ofUnique table f.name
  generated : ∀ i ∈ ofReferences ++ ofUniques, i.generated = true ∧ ∃ name, i.fields = [.text name]
  covered : ∀ f ∈ fields, Needs f →
    ∃ i ∈ explicit ++ ofReferences ++ ofUniques, CoversExactly i.fields (.text f.name)
  distinct : (ofReferences ++ ofUniques).Pairwise fun i j => ¬ SameFields i.fields j.fields
  apart : ∀ i ∈ ofReferences ++ ofUniques, ∀ d ∈ declared, ¬ SameFields d.fields i.fields

namespace Layout

/-- No field has an index of its own twice. -/
lemma nodup_names (layout : Layout fields declared references uniques)
    (distinct : (fields.map (·.name)).Nodup) : ((references ++ uniques).map (·.name)).Nodup := by
  rw [List.map_append, List.nodup_append]
  refine ⟨distinct.sublist (layout.references_sublist.map _),
    distinct.sublist (layout.uniques_sublist.map _), ?_⟩
  rintro name isReference other isUnique rfl
  obtain ⟨f, mem, rfl⟩ := List.mem_map.1 isReference
  obtain ⟨g, mem', same⟩ := List.mem_map.1 isUnique
  obtain ⟨isField, reference, -⟩ := (layout.mem_references_iff f).1 mem
  obtain ⟨isField', -, other, -⟩ := (layout.mem_uniques_iff g).1 mem'
  obtain rfl : g = f := List.inj_on_of_nodup_map distinct isField' isField same
  exact Bool.false_ne_true (other.symm.trans reference)

lemma not_isDeclared (layout : Layout fields declared references uniques) {f : ResolvedField}
    (mem : f ∈ references ++ uniques) : ¬ IsDeclared declared f := by
  rcases List.mem_append.1 mem with mem | mem
  · exact ((layout.mem_references_iff f).1 mem).2.2
  · exact ((layout.mem_uniques_iff f).1 mem).2.2.2

/-- A field that needs an index has a declared one or one of its own. -/
lemma isDeclared_or (layout : Layout fields declared references uniques) {f : ResolvedField}
    (mem : f ∈ fields) (needs : Needs f) :
    IsDeclared declared f ∨ f ∈ references ∨ f ∈ uniques := by
  by_cases isDeclared : IsDeclared declared f
  · exact .inl isDeclared
  · refine .inr ?_
    rw [layout.mem_references_iff, layout.mem_uniques_iff]
    cases reference : f.isReference with
    | true => exact .inl ⟨mem, reference, isDeclared⟩
    | false =>
      rcases needs with isReference | unique
      · exact absurd (reference.symm.trans isReference) Bool.false_ne_true
      · exact .inr ⟨mem, needsUnique_iff.2 unique, reference, isDeclared⟩

end Layout

/-- Each index that is added is on the one field that it is added for. -/
lemma exists_of_mem_added {i : PlannedIndex}
    (mem : i ∈ references.map (fun f => PlannedIndex.ofReference table f.name) ++
      uniques.map fun f => PlannedIndex.ofUnique table f.name) :
    i.generated = true ∧ ∃ f ∈ references ++ uniques, i.fields = [.text f.name] := by
  rcases List.mem_append.1 mem with mem | mem
  · obtain ⟨f, isReference, rfl⟩ := List.mem_map.1 mem
    exact ⟨rfl, f, List.mem_append_left _ isReference, rfl⟩
  · obtain ⟨f, isUnique, rfl⟩ := List.mem_map.1 mem
    exact ⟨rfl, f, List.mem_append_right _ isUnique, rfl⟩

/-- Each index that is added is on the field it is added for. -/
lemma map_fields_added (table : Value) (references uniques : List ResolvedField) :
    (references.map (fun f => PlannedIndex.ofReference table f.name) ++
      uniques.map fun f => PlannedIndex.ofUnique table f.name).map (·.fields) =
    ((references ++ uniques).map (·.name)).map fun name => [.text name] := by
  simp [PlannedIndex.ofReference, PlannedIndex.ofUnique, Function.comp_def]

/-- For fields of distinct names there is a plan: first the declared indexes, as they are, then
those for reference fields, then those for unique fields, each in the order of the fields, so that
what needs an index has one and none is added in vain. -/
theorem make_meets (table : Value) (texts : ∀ d ∈ declared, ∀ v ∈ d.fields, v.IsText)
    (distinct : (fields.map (·.name)).Nodup) :
    ∃ explicit ofReferences ofUniques,
      make table fields declared = .ok (explicit ++ ofReferences ++ ofUniques) ∧
        Meets table fields declared explicit ofReferences ofUniques := by
  obtain ⟨explicit, references, uniques, declares, layout, made⟩ :=
    exists_layout table texts distinct
  refine ⟨explicit, _, _, made, ?_⟩
  constructor
  case declares => exact declares
  case references =>
    exact ⟨references, layout.references_sublist,
      fun f mem => ((layout.mem_references_iff f).1 mem).2.1, rfl⟩
  case uniques =>
    exact ⟨uniques, layout.uniques_sublist,
      fun f mem => needsUnique_iff.1 ((layout.mem_uniques_iff f).1 mem).2.1, rfl⟩
  case generated =>
    intro i mem
    obtain ⟨generated, f, -, single⟩ := exists_of_mem_added mem
    exact ⟨generated, f.name, single⟩
  case covered =>
    intro f mem needs
    rw [List.append_assoc]
    rcases layout.isDeclared_or mem needs with isDeclared | isReference | isUnique
    · obtain ⟨i, isExplicit, exactly⟩ := (PlannedIndex.exists_declares_iff declares
        fun _ listed => CoversExactly listed (.text f.name)).2 isDeclared
      exact ⟨i, List.mem_append_left _ isExplicit, exactly⟩
    · refine ⟨_, List.mem_append_right _
        (List.mem_append_left _ (List.mem_map_of_mem isReference)), ?_⟩
      exact coversExactly_singleton.2 rfl
    · refine ⟨_, List.mem_append_right _
        (List.mem_append_right _ (List.mem_map_of_mem isUnique)), ?_⟩
      exact coversExactly_singleton.2 rfl
  case distinct =>
    have names := layout.nodup_names distinct
    have fieldSets :
        (((references ++ uniques).map (·.name)).map fun name => [Value.text name]).Nodup :=
      names.map fun _ _ same => by simpa using same
    rw [← map_fields_added table] at fieldSets
    refine (List.pairwise_map.1 fieldSets).imp_of_mem fun {i j} memI memJ differ same => ?_
    obtain ⟨-, f, -, single⟩ := exists_of_mem_added memI
    obtain ⟨-, g, -, single'⟩ := exists_of_mem_added memJ
    rw [single, single', sameFields_singleton_iff, coversExactly_singleton] at same
    exact differ (by rw [single, single', same])
  case apart =>
    intro i mem d isDeclared same
    obtain ⟨-, f, isField, single⟩ := exists_of_mem_added mem
    rw [single, sameFields_singleton_iff] at same
    exact layout.not_isDeclared isField ⟨d, isDeclared, same⟩

/-- A member of a tenant: a user who is no other member, under an address that no other member
has. -/
def memberFields : List Field :=
  [{ name := .text "id", type := "uuid", unique := .bool true },
    { name := .text "tenantId", type := "ref", target := .text "tenant" },
    { name := .text "userId", type := "ref", target := .text "user", unique := .bool true },
    { name := .text "email", unique := .bool true }]

/-- An index over two references, and one over addresses that lists them twice. -/
def memberIndexes : List Index :=
  [{ fields := [.text "tenantId", .text "userId"] }, { fields := [.text "email", .text "email"] }]

/-- What is declared covers the addresses alone, so that both references have an index that is
added. -/
theorem make_meets_member : ∃ fields explicit ofReferences ofUniques,
    ResolvedField.ofFields memberFields = .ok fields ∧
      make (.text "members") fields memberIndexes = .ok (explicit ++ ofReferences ++ ofUniques) ∧
        Meets (.text "members") fields memberIndexes explicit ofReferences ofUniques := by
  obtain ⟨fields, resolved, names⟩ : ∃ fields, ResolvedField.ofFields memberFields = .ok fields ∧
      fields.map (·.name) = ["id", "tenantId", "userId", "email"] := ⟨_, rfl, rfl⟩
  have texts : ∀ d ∈ memberIndexes, ∀ v ∈ d.fields, v.IsText := by
    simp [memberIndexes, Value.isText_text]
  obtain ⟨explicit, ofReferences, ofUniques, made⟩ :=
    make_meets (.text "members") texts (names ▸ by decide : (fields.map (·.name)).Nodup)
  exact ⟨fields, explicit, ofReferences, ofUniques, resolved, made⟩

end IndexPlan

end EntityModel
