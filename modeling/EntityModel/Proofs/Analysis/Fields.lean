import EntityModel.Analysis.ResolvedField
import EntityModel.Proofs.Outcome
import EntityModel.Proofs.WellTyped

/-!
# The analysis of fields

A well-typed field is resolved unless one of its bounds is a number that is no whole number and has
no whole part, or that is too great: nothing else in a field can go wrong. Its name and what a
reference field points at are kept.
-/

namespace EntityModel

open Outcome

variable {bound : Value → Prop} {allowed : Fault → Prop}

/-! ### Values -/

namespace Value

lemma asText_ensures (v : Value) : Ensures anyFault (fun s => v = .text s) v.asText := by
  unfold asText
  split
  · rfl
  · trivial

lemma IsText.asText {v : Value} (h : v.IsText) :
    Ensures allowed (fun s => v = .text s) v.asText := by
  obtain ⟨s, rfl⟩ := h
  rfl

lemma IsText.asScalar {v : Value} (h : v.IsText) : Within allowed v.asScalar := by
  obtain ⟨s, rfl⟩ := h
  trivial

lemma IsText.length {v : Value} (h : v.IsText) : Within allowed v.length := by
  obtain ⟨s, rfl⟩ := h
  trivial

/-- Reading a value as a whole number, and asking whether it is one, has none but the allowed
faults. -/
structure Readable (allowed : Fault → Prop) (v : Value) : Prop where
  asWhole : Within allowed v.asWhole
  isWhole : Within allowed v.isWhole

/-- The faults of numbers: no number at all, or beyond the range of the type that is needed. -/
def NumberFault : Fault → Prop
  | .refused .notWhole | .outOfRange _ => True
  | _ => False

/-- A number can be read, or it is a number fault. -/
lemma IsNumber.readable {v : Value} (h : v.IsNumber) : v.Readable NumberFault := by
  unfold IsNumber at h
  split at h
  · rename_i i
    refine ⟨trivial, ?_⟩
    simp only [isWhole]
    split <;> trivial
  · exact ⟨trivial, trivial⟩
  · rename_i x
    refine ⟨?_, trivial⟩
    cases x <;> trivial
  · exact h.elim

/-- A finite number can be read without a fault. -/
lemma IsFinite.readable {v : Value} (h : v.IsFinite) : v.Readable never := by
  unfold IsFinite at h
  split at h
  · rename_i i
    refine ⟨trivial, ?_⟩
    simp only [isWhole]
    trivial
  · exact ⟨trivial, trivial⟩
  · rename_i x
    refine ⟨?_, trivial⟩
    cases x with
    | finite => trivial
    | infinite | nan => simp [Binary64.fraction?] at h
  · exact h.elim

end Value

/-! ### Columns and hints -/

variable (readable : ∀ v, bound v → v.Readable allowed)

include readable

/-- The type of a column is found without a fault of another kind. -/
lemma ColumnType.ofField_within {kind : FieldKind} {max : Value} {values : List Value}
    (high : max = .null ∨ bound max) (texts : ∀ v ∈ values, v.IsText) :
    Within allowed (ofField kind max values) := by
  unfold ofField
  split_ifs with bounded
  · rcases high with rfl | high
    · simp [Value.isGiven, Scalar.isGiven] at bounded
    · exact (readable _ high).asWhole.bind fun _ _ => trivial
  · refine Ensures.bind (Ensures.mapM (R := fun _ _ => True) fun v mem => ?_) fun _ _ => trivial
    exact (texts v mem).length
  · trivial

namespace SampleHint

/-- A bound is read, or its default is taken, without a fault of another kind. -/
lemma bound_within {v : Value} (h : v = .null ∨ bound v) (fallback : Nat) :
    Within allowed (SampleHint.bound v fallback) := by
  unfold SampleHint.bound
  split_ifs with null
  · trivial
  · rcases h with rfl | h
    · exact absurd rfl null
    · refine (readable _ h).isWhole.bind fun whole _ => ?_
      cases whole with
      | true => exact (readable _ h).asWhole.bind fun _ _ => trivial
      | false => trivial

/-- Two bounds between which an expression draws are read without a fault of another kind. -/
lemma range_within {low high : Value} (hLow : low = .null ∨ bound low)
    (hHigh : high = .null ∨ bound high) (first second : Nat) (f : String → String → String) :
    Within allowed (do
      return f (← SampleHint.bound low first) (← SampleHint.bound high second)) :=
  (bound_within readable hLow first).bind fun _ _ =>
    (bound_within readable hHigh second).bind fun _ _ => trivial

/-- An expression within bounds is found without a fault of another kind. -/
lemma ofBounds_within {kind : FieldKind} {low high : Value} (hLow : low = .null ∨ bound low)
    (hHigh : high = .null ∨ bound high) : Within allowed (ofBounds kind low high) := by
  unfold ofBounds
  split_ifs
  · exact range_within readable hLow hHigh 1 1000 _
  · exact range_within readable hLow hHigh 0 1000 _
  · exact range_within readable hLow hHigh 1 100 _
  · trivial

/-- A field without parts is resolved without a fault of another kind. -/
lemma ofPlain_within {name : Value} {a : FieldAttributes} {kind : FieldKind} (text : name.IsText)
    (h : a.WellTyped bound) : Within allowed (ofPlain name a kind) := by
  unfold ofPlain
  dsimp only
  refine Ensures.ite_bind (fun hint => (h.hint.isText hint).asText.map_within) (fun _ => trivial)
    fun given _ => ?_
  refine Ensures.ite_bind (P := fun _ => True) (fun _ => trivial) (fun _ => text.asText.map_within)
    fun named _ => ?_
  cases given.or named with
  | some _ => trivial
  | none => exact ofBounds_within readable h.low h.high

omit readable in
/-- An object is resolved without a fault of another kind as long as its parts are. -/
lemma ofParts_within {parts : List Field}
    (h : ∀ part ∈ parts, Within allowed (ofField part part.name (part.kind.getD .string))) :
    Within allowed (ofParts parts) := by
  induction parts with
  | nil => trivial
  | cons part rest ih =>
    obtain ⟨first, others⟩ := List.forall_mem_cons.1 h
    rw [ofParts.eq_def]
    exact first.bind fun _ _ => (ih others).bind fun _ _ => trivial

/-- The hint of a well-typed field is spoilt by its bounds alone. -/
theorem ofField_within {f : Field} (h : f.WellTyped bound) {name : Value} (text : name.IsText)
    (kind : FieldKind) : Within allowed (ofField f name kind) := by
  induction f using Field.induction_on generalizing name kind with
  | mk a items shape inItems inShape =>
    obtain ⟨attributes, hItem, hParts⟩ := Field.wellTyped_mk.1 h
    rw [ofField.eq_def]
    dsimp only
    split_ifs
    · trivial
    · cases items with
      | none => exact range_within readable attributes.low attributes.high 1 5 _
      | some item =>
        refine (inItems item rfl (hItem item rfl) (Value.isText_text _) _).bind fun _ _ => ?_
        exact range_within readable attributes.low attributes.high 1 5 _
    · cases shape with
      | none => trivial
      | some parts =>
        refine (ofParts_within fun part mem => ?_).bind fun _ _ => trivial
        have typed := hParts parts rfl part mem
        exact inShape parts rfl part mem typed typed.attributes.name _
    · exact ofPlain_within readable text attributes

end SampleHint

/-! ### Resolved fields -/

namespace ResolvedField

omit readable in
lemma encodeAll_eq_map (fs : List ResolvedField) : encodeAll fs = fs.map encode := by
  induction fs with
  | nil => rfl
  | cons f rest ih => rw [encodeAll, ih, List.map_cons]

/-- What a field keeps when it is resolved under a name: that name, and its target if it is a
reference. -/
structure Resolves (name : Value) (f : Field) (out : ResolvedField) : Prop where
  name : name = .text out.name
  reference : f.kind = some .reference → out.refTarget = f.target
  other : f.kind ≠ some .reference → out.refTarget = .null

omit readable in
lemma getD_eq_reference {kind : Option FieldKind} :
    kind.getD .string = .reference ↔ kind = some .reference := by
  cases kind <;> simp

/-- A field is resolved with the diagnostics that its declaration calls for, given its parts are. -/
lemma assemble_ensures {name : Value} {f : Field} {kind : FieldKind} {items : Option ResolvedField}
    {shape : Option (List ResolvedField)} (text : name.IsText) (h : f.WellTyped bound)
    (isKind : resolvedKind f = kind) :
    Ensures allowed (Resolves name f) (assemble name f kind items shape) := by
  have texts : ∀ values : Option (List Value), (values = none ∨ values = f.values) →
      ∀ v ∈ values.getD [], v.IsText := by
    rintro values (rfl | rfl)
    · simp
    · cases written : f.values with
      | none => simp
      | some vs => exact h.attributes.values vs written
  unfold assemble
  refine text.asText.bind fun s isName => ?_
  refine (ColumnType.ofField_within readable h.attributes.high (texts _ ?_)).bind fun _ _ => ?_
  · split <;> simp
  refine (SampleHint.ofField_within readable h (Value.isText_text s) _).bind fun _ _ => ?_
  rw [ensures_pure]
  have iff : f.kind = some .reference ↔ kind = .reference := by
    rw [← isKind, resolvedKind, getD_eq_reference]
  exact ⟨isName, fun reference => if_pos (iff.1 reference),
    fun other => if_neg fun is => other (iff.2 is)⟩

omit readable in
/-- Fields are resolved one by one, in order. -/
lemma ofFields_ensures {fs : List Field}
    (h : ∀ f ∈ fs, Ensures allowed (Resolves f.name f) (ofKind f f.name (resolvedKind f))) :
    Ensures allowed (List.Forall₂ (fun f => Resolves f.name f) fs) (ofFields fs) := by
  induction fs with
  | nil => exact List.Forall₂.nil
  | cons f rest ih =>
    obtain ⟨first, others⟩ := List.forall_mem_cons.1 h
    rw [ofFields.eq_def]
    exact first.bind fun _ hf => (ih others).bind fun _ hrest => List.Forall₂.cons hf hrest

/-- A well-typed field is resolved, unless one of its bounds cannot be read. -/
theorem ofKind_ensures {f : Field} (h : f.WellTyped bound) {name : Value} (text : name.IsText)
    {kind : FieldKind} (isKind : resolvedKind f = kind) :
    Ensures allowed (Resolves name f) (ofKind f name kind) := by
  induction f using Field.induction_on generalizing name kind with
  | mk a items shape inItems inShape =>
    obtain ⟨attributes, hItem, hParts⟩ := Field.wellTyped_mk.1 h
    rw [ofKind.eq_def]
    dsimp only
    split
    · rename_i item
      have inside := inItems item rfl (hItem item rfl) (Value.isText_text "item") rfl
      exact inside.map_within.bind fun _ _ => assemble_ensures readable text h isKind
    · split
      · rename_i part rest _
        have each : ∀ f ∈ part :: rest, Ensures allowed (Resolves f.name f)
            (ofKind f f.name (resolvedKind f)) := fun f mem =>
          have typed := hParts _ rfl f mem
          inShape _ rfl f mem typed typed.attributes.name rfl
        obtain ⟨first, others⟩ := List.forall_mem_cons.1 each
        refine first.bind fun _ _ => (ofFields_ensures others).bind fun _ _ => ?_
        exact assemble_ensures readable text h isKind
      · exact assemble_ensures readable text h isKind

/-- The fields of a well-typed entity are resolved, unless a bound cannot be read. -/
theorem ofFields_ensures_of_wellTyped {fs : List Field} (h : ∀ f ∈ fs, f.WellTyped bound) :
    Ensures allowed (List.Forall₂ (fun f => Resolves f.name f) fs) (ofFields fs) :=
  ofFields_ensures fun f mem => ofKind_ensures readable (h f mem) (h f mem).attributes.name rfl

end ResolvedField

end EntityModel
