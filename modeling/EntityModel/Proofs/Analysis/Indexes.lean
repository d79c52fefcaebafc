import EntityModel.Proofs.Analysis.RereadFields
import EntityModel.Proofs.Analysis.Schemas

/-!
# Indexes of a plan

An index covers a field exactly if the field is all that it lists. For fields of distinct names the
passes of a plan only add: after the declared indexes comes one for each reference field that no
declared index covers exactly, then one for each unique field that none of these covers
(`IndexPlan.make_eq`).
-/

namespace EntityModel

open Outcome

/-! ### Coverage -/

/-- The fields that are listed are exactly the one of a name, however often it is listed. -/
def CoversExactly (listed : List Value) (name : Value) : Prop := ∀ v, v ∈ listed ↔ v = name

lemma coversExactly_singleton {v name : Value} : CoversExactly [v] name ↔ v = name := by
  constructor
  · intro h
    exact (h v).1 List.mem_cons_self
  · rintro rfl w
    exact List.mem_singleton

namespace PlannedIndex

variable {name other : String} {i : PlannedIndex}

lemma same_text_iff {v : Value} : v.same (.text name) = true ↔ v = .text name := by
  cases v with
  | scalar s => cases s <;> simp [Value.same, Scalar.same, Scalar.compareNumbers?, Scalar.int?]
  | list | map => simp [Value.same]

/-- An index covers only a field if its fields are this one. -/
lemma coversOnly_iff : coversOnly name i = true ↔ CoversExactly i.fields (.text name) := by
  simp only [coversOnly, Bool.and_eq_true, Bool.not_eq_true', List.isEmpty_eq_false_iff,
    List.all_eq_true, same_text_iff]
  constructor
  · rintro ⟨nonempty, all⟩ v
    obtain ⟨w, mem⟩ := List.exists_mem_of_ne_nil _ nonempty
    refine ⟨all v, ?_⟩
    rintro rfl
    exact all w mem ▸ mem
  · intro h
    exact ⟨List.ne_nil_of_mem ((h _).2 rfl), fun v => (h v).1⟩

/-- What a declared index is planned as: it is kept as it is, under its name or a name made for
it. -/
structure Declares (table : Value) (d : Index) (i : PlannedIndex) : Prop where
  named : d.name.isGiven = true → i.name = d.name
  unnamed : ¬ d.name.isGiven = true →
    ∃ made, declaredName table d.fields = .ok made ∧ i.name = .text made
  table : i.table = table
  fields : i.fields = d.fields
  method : i.method = d.method
  unique : i.unique = d.unique
  using_ : i.using_ = d.using_
  where_ : i.where_ = d.where_
  concurrently : i.concurrently = d.concurrently
  generated : i.generated = false

/-- A planned index declares what was declared, on the table. -/
lemma ofIndex_declares (table : Value) (d : Index) :
    Ensures anyFault (Declares table d) (ofIndex table d) := by
  unfold ofIndex
  refine Ensures.ite_bind (P := fun name => (d.name.isGiven = true → name = d.name) ∧
      (¬ d.name.isGiven = true → ∃ made, declaredName table d.fields = .ok made ∧
        name = .text made))
    (fun given => ⟨fun _ => rfl, absurd given⟩) (fun missing => ?_)
    fun name isName => ⟨isName.1, isName.2, rfl, rfl, rfl, rfl, rfl, rfl, rfl, rfl⟩
  cases made : declaredName table d.fields with
  | ok name => exact ⟨fun given => absurd given missing, fun _ => ⟨name, rfl, rfl⟩⟩
  | error fault => exact trivial

/-- The planned indexes have what the declared ones have, in their order. -/
lemma exists_declares_iff {table : Value} {declared : List Index} {planned : List PlannedIndex}
    (h : List.Forall₂ (Declares table) declared planned) (P : Value → List Value → Prop) :
    (∃ i ∈ planned, P i.unique i.fields) ↔ ∃ d ∈ declared, P d.unique d.fields := by
  constructor
  · rintro ⟨i, mem, holds⟩
    obtain ⟨d, isDeclared, same⟩ := exists_of_mem_right h mem
    exact ⟨d, isDeclared, same.unique ▸ same.fields ▸ holds⟩
  · rintro ⟨d, mem, holds⟩
    obtain ⟨i, isPlanned, same⟩ := exists_of_mem_left h mem
    exact ⟨i, isPlanned, same.unique.symm ▸ same.fields.symm ▸ holds⟩

end PlannedIndex

/-! ### Passes -/

namespace IndexPlan

variable {index : String → PlannedIndex} {wanted : ResolvedField → Bool}
  {fields : List ResolvedField}

/-- Whether a field is wanted and no index of a plan covers it. -/
def isUncovered (wanted : ResolvedField → Bool) (plan : List PlannedIndex) (f : ResolvedField) :
    Bool :=
  wanted f && !plan.any (PlannedIndex.coversOnly f.name)

/-- For fields of distinct names a pass adds an index for each wanted field that is not covered when
the pass begins: what it adds itself covers no later field. -/
lemma cover_eq (covers : ∀ name, (index name).fields = [.text name])
    (distinct : (fields.map (·.name)).Nodup) (plan : List PlannedIndex) :
    cover index wanted fields plan =
      plan ++ (fields.filter (isUncovered wanted plan)).map fun f => index f.name := by
  unfold cover
  induction fields generalizing plan with
  | nil => simp
  | cons f rest ih =>
    obtain ⟨new, others⟩ := List.nodup_cons.1 distinct
    have test : (wanted f && !plan.any (PlannedIndex.coversOnly f.name)) =
        isUncovered wanted plan f := rfl
    rw [List.foldl_cons, ih others, test]
    by_cases uncovered : isUncovered wanted plan f = true
    · rw [if_pos uncovered, List.filter_cons_of_pos uncovered, List.map_cons, List.append_assoc,
        List.singleton_append]
      have same : ∀ g ∈ rest,
          isUncovered wanted (plan ++ [index f.name]) g = isUncovered wanted plan g := by
        intro g mem
        have apart : PlannedIndex.coversOnly g.name (index f.name) = false := by
          rw [Bool.eq_false_iff, ne_eq, PlannedIndex.coversOnly_iff, covers,
            coversExactly_singleton]
          intro same
          simp only [Value.scalar.injEq, Scalar.text.injEq] at same
          exact new (List.mem_map.2 ⟨g, mem, same.symm⟩)
        simp [isUncovered, apart]
      rw [List.filter_congr same]
    · rw [if_neg uncovered, List.filter_cons_of_neg uncovered]

lemma any_coversOnly_iff {plan : List PlannedIndex} {name : String} :
    plan.any (PlannedIndex.coversOnly name) = true ↔
      ∃ i ∈ plan, CoversExactly i.fields (.text name) := by
  simp only [List.any_eq_true, PlannedIndex.coversOnly_iff]

lemma isUncovered_iff {plan : List PlannedIndex} {f : ResolvedField} :
    isUncovered wanted plan f = true ↔
      wanted f = true ∧ ¬ ∃ i ∈ plan, CoversExactly i.fields (.text f.name) := by
  rw [← any_coversOnly_iff]
  simp [isUncovered]

/-- For fields of distinct names a pass covers those fields for which it adds an index. -/
lemma exists_mem_map_covers_iff (covers : ∀ name, (index name).fields = [.text name])
    (distinct : (fields.map (·.name)).Nodup) {added : ResolvedField → Bool} {f : ResolvedField}
    (mem : f ∈ fields) :
    (∃ i ∈ (fields.filter added).map fun g => index g.name, CoversExactly i.fields (.text f.name)) ↔
      added f = true := by
  constructor
  · rintro ⟨i, isIndex, exact⟩
    obtain ⟨g, isAdded, rfl⟩ := List.mem_map.1 isIndex
    obtain ⟨isField, holds⟩ := List.mem_filter.1 isAdded
    rw [covers, coversExactly_singleton] at exact
    have same : g.name = f.name := by simpa using exact
    exact List.inj_on_of_nodup_map distinct isField mem same ▸ holds
  · intro holds
    refine ⟨_, List.mem_map_of_mem (List.mem_filter.2 ⟨mem, holds⟩), ?_⟩
    rw [covers, coversExactly_singleton]

/-- The indexes that are made for reference fields are not unique, those for unique fields are. -/
lemma exists_isGiven_unique_iff (table : Value) {explicit : List PlannedIndex}
    {references uniques : List ResolvedField} (P : List Value → Prop) :
    (∃ i ∈ explicit ++ references.map (fun f => PlannedIndex.ofReference table f.name) ++
        uniques.map (fun f => PlannedIndex.ofUnique table f.name),
        i.unique.isGiven = true ∧ P i.fields) ↔
      (∃ i ∈ explicit, i.unique.isGiven = true ∧ P i.fields) ∨
        ∃ i ∈ uniques.map (fun f => PlannedIndex.ofUnique table f.name), P i.fields := by
  constructor
  · rintro ⟨i, mem, given, holds⟩
    rcases List.mem_append.1 mem with before | isUnique
    · rcases List.mem_append.1 before with isExplicit | isReference
      · exact .inl ⟨i, isExplicit, given, holds⟩
      · obtain ⟨f, -, rfl⟩ := List.mem_map.1 isReference
        exact absurd given (by simp [PlannedIndex.ofReference])
    · exact .inr ⟨i, isUnique, holds⟩
  · rintro (⟨i, isExplicit, given, holds⟩ | ⟨i, isUnique, holds⟩)
    · exact ⟨i, List.mem_append_left _ (List.mem_append_left _ isExplicit), given, holds⟩
    · refine ⟨i, List.mem_append_right _ isUnique, ?_, holds⟩
      obtain ⟨f, -, rfl⟩ := List.mem_map.1 isUnique
      rfl

/-- A plan for fields of distinct names: the declared indexes, then those for reference fields that
no declared index covers, then those for unique fields that no index so far covers. -/
theorem make_eq (table : Value) {declared : List Index}
    (texts : ∀ d ∈ declared, ∀ v ∈ d.fields, v.IsText) (distinct : (fields.map (·.name)).Nodup) :
    ∃ explicit references, List.Forall₂ (PlannedIndex.Declares table) declared explicit ∧
      references = (fields.filter (isUncovered ResolvedField.isReference explicit)).map
        (fun f => PlannedIndex.ofReference table f.name) ∧
      make table fields declared = .ok (explicit ++ references ++
        (fields.filter (isUncovered needsUnique (explicit ++ references))).map
          fun f => PlannedIndex.ofUnique table f.name) := by
  have planned : ∀ d ∈ declared, Ensures never (PlannedIndex.Declares table d) (do
      let i ← PlannedIndex.ofIndex table d
      let _ ← d.fields.mapM Value.asScalar
      return i) := by
    intro d mem
    obtain ⟨i, ok, -⟩ := (PlannedIndex.ofIndex_within (texts d mem) table).exists_ok
    obtain ⟨scalars, isScalar, -⟩ := (Ensures.mapM (R := fun _ _ => True)
      fun v isField => (texts d mem v isField).asScalar).exists_ok
    rw [ok, ok_bind, isScalar]
    exact (PlannedIndex.ofIndex_declares table d).of_eq_ok ok
  obtain ⟨explicit, ok, declares⟩ := (Ensures.mapM planned).exists_ok
  refine ⟨explicit, _, declares, rfl, ?_⟩
  unfold make
  rw [ok, ok_bind, cover_eq (fun _ => rfl) distinct, cover_eq (fun _ => rfl) distinct]
  rfl

/-! ### Fields with indexes of their own -/

/-- Some declared index is exactly on the field. -/
def IsDeclared (declared : List Index) (f : ResolvedField) : Prop :=
  ∃ d ∈ declared, CoversExactly d.fields (.text f.name)

/-- The field refers to another entity, and no declared index is exactly on it. -/
def OwnsReference (declared : List Index) (f : ResolvedField) : Prop :=
  f.isReference = true ∧ ¬ IsDeclared declared f

/-- The field is to have a unique index, and neither a declared index nor one that it has as a
reference is exactly on it. -/
def OwnsUnique (declared : List Index) (f : ResolvedField) : Prop :=
  needsUnique f = true ∧ f.isReference = false ∧ ¬ IsDeclared declared f

/-- The fields for which a plan has an index that no declaration asks for, as references and as
unique fields, in the order of the fields. -/
structure Layout (fields : List ResolvedField) (declared : List Index)
    (references uniques : List ResolvedField) : Prop where
  references_sublist : references.Sublist fields
  uniques_sublist : uniques.Sublist fields
  mem_references_iff : ∀ f, f ∈ references ↔ f ∈ fields ∧ OwnsReference declared f
  mem_uniques_iff : ∀ f, f ∈ uniques ↔ f ∈ fields ∧ OwnsUnique declared f

/-- A plan for fields of distinct names: the declared indexes, then those of references without a
declared index, then those of other unique fields without a declared index. -/
theorem exists_layout (table : Value) {declared : List Index}
    (texts : ∀ d ∈ declared, ∀ v ∈ d.fields, v.IsText) (distinct : (fields.map (·.name)).Nodup) :
    ∃ explicit references uniques, List.Forall₂ (PlannedIndex.Declares table) declared explicit ∧
      Layout fields declared references uniques ∧
      make table fields declared = .ok (explicit ++
        references.map (fun f => PlannedIndex.ofReference table f.name) ++
        uniques.map fun f => PlannedIndex.ofUnique table f.name) := by
  obtain ⟨explicit, _, declares, rfl, made⟩ := make_eq table texts distinct
  have explicit_iff (f : ResolvedField) :
      (∃ i ∈ explicit, CoversExactly i.fields (.text f.name)) ↔ IsDeclared declared f :=
    PlannedIndex.exists_declares_iff declares fun _ listed => CoversExactly listed (.text f.name)
  have references_iff (f : ResolvedField) :
      isUncovered ResolvedField.isReference explicit f = true ↔ OwnsReference declared f := by
    rw [isUncovered_iff, explicit_iff]
    rfl
  refine ⟨explicit, _, _, declares, ?_, made⟩
  refine ⟨List.filter_sublist, List.filter_sublist, fun f => ?_, fun f => ?_⟩
  · rw [List.mem_filter, references_iff]
  · rw [List.mem_filter]
    refine and_congr_right fun mem => ?_
    rw [isUncovered_iff]
    refine and_congr_right fun _ => ?_
    simp only [List.mem_append, or_and_right, exists_or, not_or]
    rw [explicit_iff, exists_mem_map_covers_iff (fun _ => rfl) distinct mem, references_iff,
      OwnsReference, ← Bool.not_eq_true]
    tauto

end IndexPlan

end EntityModel
