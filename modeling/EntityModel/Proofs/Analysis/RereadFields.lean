import EntityModel.Analysis.ResolvedField
import EntityModel.Proofs.Declaration.Conforming
import EntityModel.Proofs.Declaration.FieldRoundTrip

/-!
# The analysis of fields that were read back

Reading a conforming field back from its document changes nothing of what is resolved from it.
-/

namespace EntityModel

open Outcome

attribute [local irreducible] FieldKind.lookup

/-! ### Attributes -/

/-- Constraints of which none is given are the empty ones. -/
lemma Constraints.eq_of_isEmpty {c : Constraints} (empty : c.isEmpty = true) : c = {} := by
  have null {v : Value} (h : v.isNull = true) : v = .null := by
    unfold Value.isNull at h
    split at h
    · rfl
    · simp at h
  obtain ⟨min, max, pattern, message⟩ := c
  simp only [isEmpty, Bool.and_eq_true] at empty
  obtain ⟨⟨⟨hmin, hmax⟩, hpattern⟩, hmessage⟩ := empty
  rw [null hmin, null hmax, null hpattern, null hmessage]

namespace FieldAttributes

/-- Constraints that give nothing are as good as none. -/
lemma getD_constraints_reread (a : FieldAttributes) :
    a.reread.constraints.getD {} = a.constraints.getD {} := by
  change (a.constraints.filter (!·.isEmpty)).getD {} = _
  cases a.constraints with
  | none => rfl
  | some c =>
    cases empty : c.isEmpty with
    | false => simp [Option.filter, empty]
    | true =>
      rw [c.eq_of_isEmpty empty]
      rfl

lemma getD_values_reread (a : FieldAttributes) : a.reread.values.getD [] = a.values.getD [] :=
  Field.getD_filter_isEmpty a.values

lemma isGiven_hint_reread (a : FieldAttributes) : a.reread.hint.isGiven = a.hint.isGiven :=
  Value.isGiven_orElse_null a.hint

end FieldAttributes

/-! ### Hints -/

namespace SampleHint

lemma ofPlain_reread (name : Value) (a : FieldAttributes) (kind : FieldKind) :
    ofPlain name a.reread kind = ofPlain name a kind := by
  unfold ofPlain
  rw [a.getD_constraints_reread, a.isGiven_hint_reread]
  by_cases given : a.hint.isGiven = true
  · rw [show a.reread.hint = a.hint from Value.orElse_of_isGiven given]
  · rw [if_neg given, if_neg given]

/-- The parts of an object are drawn alike if each part is. -/
lemma ofParts_map {parts : List Field} {g : Field → Field} (names : ∀ f, (g f).name = f.name)
    (kinds : ∀ f, (g f).kind = f.kind)
    (h : ∀ part ∈ parts, ∀ name kind, ofField (g part) name kind = ofField part name kind) :
    ofParts (parts.map g) = ofParts parts := by
  induction parts with
  | nil => rfl
  | cons part rest ih =>
    obtain ⟨first, others⟩ := List.forall_mem_cons.1 h
    rw [List.map_cons, ofParts, ofParts, names, kinds, first, ih others]

/-- A field that has been written and read has the same expression for samples. -/
lemma ofField_reread (f : Field) (own name : Value) (kind : FieldKind) :
    ofField (f.reread.withName own) name kind = ofField f name kind := by
  induction f using Field.induction_on generalizing own name kind with
  | mk a items shape inItems inShape =>
    have plain : ofPlain name { a.reread with name := own } kind = ofPlain name a kind :=
      ofPlain_reread name a kind
    rw [Field.reread_mk, Field.withName, ofField.eq_def, ofField.eq_def _ _ kind]
    dsimp only
    rw [a.getD_values_reread, a.getD_constraints_reread, plain]
    congr 1
    congr 1
    · cases items with
      | none => rfl
      | some item =>
        have element : (item.reread.withName (.text "item")).kind = item.kind := item.kind_reread
        simp only [Option.map_some, element, inItems item rfl]
    · cases shape with
      | none => rfl
      | some parts =>
        cases parts with
        | nil => simp [Option.filter]
        | cons part rest =>
          have kept : (some (part :: rest)).filter (!·.isEmpty) = some (part :: rest) := rfl
          have same : ofParts ((part :: rest).map Field.reread) = ofParts (part :: rest) :=
            ofParts_map Field.reread_name Field.kind_reread fun f mem name kind => by
              simpa [Field.withName_reread_name] using inShape _ rfl f mem f.name name kind
          rw [kept, Option.map_some]
          dsimp only
          rw [same]
          rfl

end SampleHint

/-! ### Resolved fields -/

namespace ResolvedField

lemma resolvedKind_reread (f : Field) (own : Value) :
    resolvedKind (f.reread.withName own) = resolvedKind f := by
  have kind : (f.reread.withName own).kind = f.kind := f.kind_reread
  rw [resolvedKind, kind, resolvedKind]

/-- Only a string may be taken for what no tag names. -/
lemma kind_of_resolvedKind {f : Field} {kind : FieldKind} (other : kind ≠ .string)
    (is : resolvedKind f = kind) : f.kind = some kind := by
  unfold resolvedKind at is
  cases known : f.kind with
  | none => simp [known, other.symm] at is
  | some k => simpa [known] using is

/-- A field that has been written and read is resolved to the same, given its parts are. -/
lemma assemble_reread {f : Field} (built : f.Built) (conforms : f.Conforms) (own name : Value)
    (items : Option ResolvedField) (shape : Option (List ResolvedField)) :
    assemble name (f.reread.withName own) (resolvedKind f) items shape =
      assemble name f (resolvedKind f) items shape := by
  have attributes := conforms.attributes
  have sound := built.sound
  have values :
      (if resolvedKind f = .enumeration then f.toFieldAttributes.reread.values else none) =
      if resolvedKind f = .enumeration then f.values else none := by
    split_ifs with is
    · have some := sound.valued (kind_of_resolvedKind (by simp) is)
      change f.values.filter (!·.isEmpty) = f.values
      cases written : f.values with
      | none => rfl
      | some vs =>
        have nonempty : vs ≠ [] := by simpa [written] using some
        simp [Option.filter, nonempty]
    · rfl
  have target : (if resolvedKind f = .reference then f.toFieldAttributes.reread.target else .null) =
      if resolvedKind f = .reference then f.target else .null := by
    split_ifs with is
    · exact Value.orElse_of_isGiven (sound.targeted (kind_of_resolvedKind (by simp) is))
    · rfl
  have hint (s : String) := SampleHint.ofField_reread f own (.text s) (resolvedKind f)
  have constraints := f.toFieldAttributes.getD_constraints_reread
  have description : f.toFieldAttributes.reread.description = f.description :=
    attributes.description.orElse_empty
  have nullable : f.toFieldAttributes.reread.nullable = f.nullable :=
    attributes.nullable.bool_isGiven
  have unique : f.toFieldAttributes.reread.unique = f.unique := attributes.unique.bool_isGiven
  have readonly : f.toFieldAttributes.reread.readonly = f.readonly :=
    attributes.readonly.bool_isGiven
  unfold assemble
  simp only [hint]
  simp only [Field.withName, Field.reread_attributes, values, target, constraints, description,
    nullable, unique, readonly]
  rfl

def ofItems : Option Field → Outcome (Option ResolvedField)
  | some item => some <$> ofKind item (.text "item") (resolvedKind item)
  | none => .ok none

def ofShape : Option (List Field) → Outcome (Option (List ResolvedField))
  | some (part :: rest) => some <$> ofFields (part :: rest)
  | _ => .ok none

/-- Only an array has elements and only an object has parts. -/
lemma ofKind_mk (a : FieldAttributes) (items : Option Field) (shape : Option (List Field))
    (name : Value) (kind : FieldKind) :
    ofKind ⟨a, items, shape⟩ name kind = (do
      let elements ← if kind = .array then ofItems items else .ok none
      let parts ← if kind = .object then ofShape shape else .ok none
      assemble name ⟨a, items, shape⟩ kind elements parts) := by
  have parts (part : Field) (rest : List Field)
      (next : Option (List ResolvedField) → Outcome ResolvedField) :
      (do let first ← ofKind part part.name (resolvedKind part)
          let others ← ofFields rest
          next (some (first :: others))) = ofShape (some (part :: rest)) >>= next := by
    rw [ofShape, ofFields]
    cases ofKind part part.name (resolvedKind part) with
    | error fault => rfl
    | ok first => cases ofFields rest <;> rfl
  rw [ofKind.eq_def]
  cases kind with
  | array =>
    cases items with
    | none => rfl
    | some item => rfl
  | object =>
    rcases shape with _ | _ | ⟨part, rest⟩
    · rfl
    · rfl
    · exact parts part rest fun resolved =>
        assemble name ⟨a, items, some (part :: rest)⟩ .object none resolved
  | _ => rfl

lemma ofFields_eq_mapM (fs : List Field) :
    ofFields fs = fs.mapM fun f => ofKind f f.name (resolvedKind f) := by
  induction fs with
  | nil => rfl
  | cons f rest ih => rw [ofFields, ih, List.mapM_cons]

lemma ofFields_map {fs : List Field} {g : Field → Field}
    (h : ∀ f ∈ fs, ofKind (g f) (g f).name (resolvedKind (g f)) =
      ofKind f f.name (resolvedKind f)) : ofFields (fs.map g) = ofFields fs := by
  induction fs with
  | nil => rfl
  | cons f rest ih =>
    obtain ⟨first, others⟩ := List.forall_mem_cons.1 h
    rw [List.map_cons, ofFields, ofFields, first, ih others]

/-- Reading a conforming field back changes nothing of what is resolved from it. -/
theorem ofKind_reread {f : Field} (built : f.Built) (conforms : f.Conforms) (own name : Value) :
    ofKind (f.reread.withName own) name (resolvedKind f) = ofKind f name (resolvedKind f) := by
  induction built generalizing own name with
  | @mk a items shape checked bounds inItems inShape ihItems ihShape =>
    cases conforms with
    | mk attributes conformItems conformShape =>
    have elements : ofItems (items.map fun item => item.reread.withName (.text "item")) =
        ofItems items := by
      cases items with
      | none => rfl
      | some item =>
        rw [Option.map_some, ofItems, ofItems, resolvedKind_reread,
          ihItems item rfl (conformItems item rfl)]
    have parts : ofShape ((shape.filter (!·.isEmpty)).map (·.map Field.reread)) =
        ofShape shape := by
      rcases shape with _ | _ | ⟨part, rest⟩
      · rfl
      · rfl
      · have same : ofFields ((part :: rest).map Field.reread) = ofFields (part :: rest) :=
          ofFields_map fun f mem => by
            have inside := ihShape _ rfl f mem (conformShape _ rfl f mem) f.name f.name
            rw [Field.withName_reread_name] at inside
            have kind := resolvedKind_reread f f.name
            rw [Field.withName_reread_name] at kind
            rw [Field.reread_name, kind, inside]
        have kept : (some (part :: rest)).filter (!·.isEmpty) = some (part :: rest) := rfl
        rw [kept, Option.map_some, List.map_cons, ofShape, ofShape, ← List.map_cons, same]
    have assembled := assemble_reread (.mk checked bounds inItems inShape)
      (.mk attributes conformItems conformShape) own name
    rw [Field.reread_mk, Field.withName] at assembled ⊢
    rw [ofKind_mk, ofKind_mk]
    dsimp only at assembled ⊢
    simp only [elements, parts, assembled]

/-- Reading conforming fields back changes nothing of what is resolved from them. -/
theorem ofFields_reread {fs : List Field} (built : ∀ f ∈ fs, f.Built)
    (conforms : ∀ f ∈ fs, f.Conforms) : ofFields (fs.map Field.reread) = ofFields fs :=
  ofFields_map fun f mem => by
    have same := ofKind_reread (built f mem) (conforms f mem) f.name f.name
    have kind := resolvedKind_reread f f.name
    rw [Field.withName_reread_name] at same kind
    rw [Field.reread_name, kind, same]

end ResolvedField

end EntityModel
