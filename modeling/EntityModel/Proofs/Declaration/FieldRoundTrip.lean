import EntityModel.Proofs.Declaration.Reread
import EntityModel.Proofs.Outcome
import EntityModel.Proofs.Value.Record

/-!
# Reading back the document of a field

A field that passes its checks, and whose inner fields pass theirs, is read back from its document
form as `Field.reread` says, whatever the name under which it is read (`Field.decode_encode`). The
field that is read passes the same checks.
-/

namespace EntityModel

open Outcome

/-! ### Constraints -/

namespace Constraints

def Ordered (c : Constraints) : Prop := make c.min c.max c.pattern c.message = .ok c

/-- Entries that are null count as missing. -/
lemma lookup_filter (entries : List (String × Value)) (distinct : (entries.map Prod.fst).Nodup)
    (key : String) :
    (entries.filter fun entry => !entry.2.isNull).lookup key =
      (entries.lookup key).filter (!·.isNull) := by
  induction entries with
  | nil => rfl
  | cons entry rest ih =>
    obtain ⟨k, v⟩ := entry
    obtain ⟨new, others⟩ := List.nodup_cons.1 distinct
    specialize ih others
    rw [List.filter_cons, List.lookup_cons]
    by_cases here : key = k
    · subst here
      have absent : rest.lookup key = none := List.lookup_eq_none_iff.2 fun entry mem =>
        bne_iff_ne.2 fun same => new (List.mem_map.2 ⟨entry, mem, same.symm⟩)
      cases null : v.isNull <;> simp [null, ih, absent, Option.filter]
    · have other : (key == k) = false := beq_false_of_ne here
      cases null : v.isNull <;> simp [List.lookup_cons, other, ih]

lemma getD_filter_isNull (v : Value) : ((some v).filter (!·.isNull)).getD .null = v := by
  cases v with
  | scalar s => cases s <;> rfl
  | list | map => rfl

lemma Ordered.decode_encode {c : Constraints} (ordered : c.Ordered) : decode c.encode = .ok c := by
  have slot (key : String) := lookup_filter [("min", c.min), ("max", c.max),
    ("pattern", c.pattern), ("message", c.message)] (by simp) key
  unfold decode encode
  simp only [Value.optional_record, slot, List.lookup_cons, String.reduceBEq, getD_filter_isNull]
  exact ordered

lemma isGiven_encode (c : Constraints) : c.encode.isGiven = !c.isEmpty := by
  unfold encode isEmpty
  rw [Value.isGiven_record]
  cases low : c.min.isNull <;> cases high : c.max.isNull <;> cases pattern : c.pattern.isNull <;>
    cases message : c.message.isNull <;> simp [low, high, pattern, message]

end Constraints

namespace Field

attribute [local irreducible] FieldKind.lookup

/-! ### Checks -/

/-- The field has a name, its kind has what it needs, and its parts have distinct names. -/
structure Sound (f : Field) : Prop where
  named : f.name.isGiven = true
  valued : f.kind = some .enumeration → f.values.getD [] ≠ []
  targeted : f.kind = some .reference → f.target.isGiven = true
  itemed : f.kind = some .array → f.items ≠ none
  distinct : ∃ names, (f.shape.getD []).mapM (fun part => part.name.asScalar) = .ok names ∧
    hasRepeat names = false

/-- A field passes its check just where it is sound. -/
lemma checked_eq_ok_iff (f : Field) : checked f = .ok f ↔ f.Sound := by
  unfold checked
  dsimp only
  rw [guard_eq_ok_iff, guard_eq_ok_iff, guard_eq_ok_iff, guard_eq_ok_iff, bind_eq_ok_iff]
  simp only [guard_eq_ok_iff, pure, Except.pure, and_true]
  constructor
  · rintro ⟨named, valued, targeted, itemed, names, isNames, distinct⟩
    exact ⟨by simpa using named, by simpa using valued, by simpa using targeted,
      by simpa using itemed, names, isNames, by simpa using distinct⟩
  · rintro ⟨named, valued, targeted, itemed, names, isNames, distinct⟩
    exact ⟨by simpa using named, by simpa using valued, by simpa using targeted,
      by simpa using itemed, names, isNames, by simpa using distinct⟩

/-- The field and those inside it pass their checks, and their bounds are in order. -/
inductive Built : Field → Prop where
  | mk {a : FieldAttributes} {items : Option Field} {shape : Option (List Field)}
      (own : checked ⟨a, items, shape⟩ = .ok ⟨a, items, shape⟩)
      (bounds : ∀ c, a.constraints = some c → c.Ordered)
      (inItems : ∀ item, items = some item → Built item)
      (inShape : ∀ parts, shape = some parts → ∀ part ∈ parts, Built part) :
      Built ⟨a, items, shape⟩

lemma Built.sound {f : Field} (built : f.Built) : f.Sound := by
  cases built with
  | mk own bounds inItems inShape => exact (checked_eq_ok_iff _).1 own

lemma getD_filter_isEmpty {α : Type} (items : Option (List α)) :
    (items.filter (!·.isEmpty)).getD [] = items.getD [] := by
  cases items with
  | none => rfl
  | some items => cases items <;> rfl

lemma withName_reread_name (f : Field) : f.reread.withName f.name = f.reread := by
  obtain ⟨a, items, shape⟩ := f
  rw [reread_mk]
  rfl

lemma kind_reread (f : Field) : f.reread.kind = f.kind := by
  unfold kind
  rw [reread_attributes]
  rfl

/-- The checks hold of the field that is read back, under any name that counts as given. -/
lemma Sound.reread {f : Field} (sound : f.Sound) {name : Value} (given : name.isGiven = true) :
    (f.reread.withName name).Sound := by
  have kind : (f.reread.withName name).kind = f.kind := kind_reread f
  obtain ⟨a, items, shape⟩ := f
  rw [reread_mk] at kind ⊢
  refine ⟨given, fun isKind => ?_, fun isKind => ?_, fun isKind => ?_, ?_⟩
  · have valued := sound.valued (kind ▸ isKind)
    rw [withName]
    change (a.values.filter (!·.isEmpty)).getD [] ≠ []
    rwa [getD_filter_isEmpty]
  · exact (Value.isGiven_orElse_null _).trans (sound.targeted (kind ▸ isKind))
  · simpa [withName] using sound.itemed (kind ▸ isKind)
  · obtain ⟨names, isNames, distinct⟩ := sound.distinct
    refine ⟨names, ?_, distinct⟩
    have parts : (((shape.filter (!·.isEmpty)).map (·.map Field.reread)).getD []) =
        (shape.getD []).map Field.reread := by
      cases shape with
      | none => rfl
      | some parts => cases parts <;> rfl
    rw [← isNames, withName]
    dsimp only
    rw [parts, List.mapM_map]
    congr 1
    funext part
    rw [Function.comp, reread_name]

/-! ### The document form -/

/-- An entry that is written if given is read back where it is. -/
@[simp] lemma lookup_entryIfGiven (key written : String) (v : Value) :
    (entryIfGiven written v).lookup key =
      if key == written && v.isGiven then some v else none := by
  unfold entryIfGiven
  by_cases given : v.isGiven = true
  · rw [if_pos given, List.lookup_cons, given, Bool.and_true]
    cases key == written <;> rfl
  · rw [if_neg given, if_neg (by simp [given])]
    rfl

/-- A flag that is written if given is read back as true where it is. -/
@[simp] lemma lookup_flagIfGiven (key written : String) (v : Value) :
    (flagIfGiven written v).lookup key =
      if key == written && v.isGiven then some (.bool true) else none := by
  unfold flagIfGiven
  by_cases given : v.isGiven = true
  · rw [if_pos given, List.lookup_cons, given, Bool.and_true]
    cases key == written <;> rfl
  · rw [if_neg given, if_neg (by simp [given])]
    rfl

lemma entryIfGiven_nil (key : String) : entryIfGiven key (.list []) = [] := rfl

lemma encodeAll_eq_map (fs : List Field) : encodeAll fs = fs.map encode := by
  induction fs with
  | nil => rfl
  | cons f rest ih => rw [encodeAll, ih, List.map_cons]

/-- The entries of the document form of a field, out of the forms of the fields inside it. -/
def entries (a : FieldAttributes) (items : Option Value) (shape : List Value) :
    List (String × Value) :=
  [("name", a.name), ("type", .text a.type)] ++
    flagIfGiven "nullable" a.nullable ++ flagIfGiven "unique" a.unique ++
    flagIfGiven "readonly" a.readonly ++ optionalEntry "default" a.default ++
    entryIfGiven "target" a.target ++ entryIfGiven "values" (.list (a.values.getD [])) ++
    optionalEntry "items" items ++ entryIfGiven "shape" (.list shape) ++
    optionalEntry "constraints" (a.constraints.map Constraints.encode) ++
    entryIfGiven "hint" a.hint ++ entryIfGiven "description" a.description

/-- A field is written as a record of its entries. -/
lemma encode_mk (a : FieldAttributes) (items : Option Field) (shape : Option (List Field)) :
    encode ⟨a, items, shape⟩ =
      .record (entries a (items.map encode) ((shape.getD []).map encode)) := by
  rw [encode.eq_def]
  dsimp only
  unfold entries
  cases a.default <;> cases items <;> cases shape <;> cases a.constraints <;>
    simp only [optionalEntry_none, optionalEntry_some, Option.map_none, Option.map_some,
      Option.getD_none, Option.getD_some, encodeAll_eq_map, List.map_nil, entryIfGiven_nil]

/-! ### The entries of a document -/

/-- The elements of an array are read from the value under their key. -/
lemma decodeItems_eq (entries : Entries) :
    decodeItems entries = match Entries.find? (.text "items") entries with
      | none => .ok none
      | some v => if v.isGiven then some <$> decode (.text "item") v else .ok none := by
  induction entries with
  | nil => rfl
  | cons entry rest ih =>
    obtain ⟨key, v⟩ := entry
    rw [decodeItems, Entries.find?, ih]
    by_cases here : key.same (.text "items") = true
    · rw [if_pos here, if_pos here]
    · rw [if_neg here, if_neg here]

lemma decodeAll_eq_mapM (forms : List Value) : decodeAll forms = forms.mapM (decode .null) := by
  induction forms with
  | nil => rfl
  | cons form rest ih => rw [decodeAll, ih, List.mapM_cons]

lemma decodeNamed_eq_mapM (entries : Entries) :
    decodeNamed entries = entries.mapM fun (key, v) => decode (.scalar key) v := by
  induction entries with
  | nil => rfl
  | cons entry rest ih => rw [decodeNamed, ih, List.mapM_cons]

/-- The parts of an object are read from the value under their key, a mapping or a list. -/
lemma decodeShape_eq (entries : Entries) :
    decodeShape entries = match Entries.find? (.text "shape") entries with
      | none => .ok none
      | some (.map parts) => some <$> decodeNamed parts
      | some (.list []) => .ok none
      | some (.list forms) => some <$> forms.mapM (decode .null)
      | some (.scalar s) => if s.isGiven then wrongKind else .ok none := by
  induction entries with
  | nil => rfl
  | cons entry rest ih =>
    obtain ⟨key, v⟩ := entry
    rw [decodeShape.eq_def, Entries.find?]
    dsimp only
    by_cases here : key.same (.text "shape") = true
    · rw [if_pos here, if_pos here]
      cases v with
      | scalar s => rfl
      | map parts => rfl
      | list forms =>
        cases forms with
        | nil => rfl
        | cons form forms =>
          dsimp only
          rw [List.mapM_cons, decodeAll_eq_mapM]
          cases decode .null form with
          | error fault => rfl
          | ok first => cases forms.mapM (decode .null) <;> rfl
    · rw [if_neg here, if_neg here, ih]

/-! ### Reading back -/

variable (a : FieldAttributes) (items : Option Value) (shape : List Value)

lemma decodeValues_entries : decodeValues (.record (entries a items shape)) =
    .ok (a.values.filter (!·.isEmpty)) := by
  unfold decodeValues
  rw [Value.optional_record]
  cases values : a.values with
  | none => simp [entries, List.lookup_append, List.lookup_cons, values]; rfl
  | some vs => cases vs <;> simp [entries, List.lookup_append, List.lookup_cons, values] <;> rfl

/-- Written constraints are read back, unless all of them are left out. -/
lemma decodeConstraints_entries (ordered : ∀ c, a.constraints = some c → c.Ordered) :
    decodeConstraints (.record (entries a items shape)) =
      .ok (a.constraints.filter (!·.isEmpty)) := by
  unfold decodeConstraints
  rw [Value.optional_record]
  cases constraints : a.constraints with
  | none => simp [entries, List.lookup_append, List.lookup_cons, constraints]; rfl
  | some c =>
    have read : Constraints.decode c.encode = .ok c := (ordered c constraints).decode_encode
    have given := c.isGiven_encode
    cases empty : c.isEmpty <;>
      simp [entries, List.lookup_append, List.lookup_cons, constraints, read, given, empty,
        Option.filter, pure, Except.pure]

lemma isGiven_encode (f : Field) : f.encode.isGiven = true := by
  obtain ⟨a, items, shape⟩ := f
  rw [encode_mk, Value.isGiven_record]
  rfl

/-- Written elements are read back if each field is. -/
lemma decodeItems_entries {elements : Option Field}
    (read : ∀ item, elements = some item → decode (.text "item") item.encode =
      .ok (item.reread.withName (.text "item"))) :
    decodeItems ((entries a (elements.map encode) shape).map fun (k, v) => (.text k, v)) =
      .ok (elements.map fun item => item.reread.withName (.text "item")) := by
  rw [decodeItems_eq, Entries.find?_record]
  cases elements with
  | none => simp [entries, List.lookup_append, List.lookup_cons]
  | some item =>
    simp [entries, List.lookup_append, List.lookup_cons, isGiven_encode, read item rfl]

/-- Written parts are read back if each field is. -/
lemma decodeShape_entries {parts : Option (List Field)}
    (read : ∀ fs, parts = some fs → ∀ f ∈ fs, decode .null f.encode = .ok f.reread) :
    decodeShape ((entries a items ((parts.getD []).map encode)).map fun (k, v) => (.text k, v)) =
      .ok ((parts.filter (!·.isEmpty)).map (·.map reread)) := by
  rw [decodeShape_eq, Entries.find?_record]
  cases parts with
  | none => simp [entries, List.lookup_append, List.lookup_cons]
  | some fs =>
    cases fs with
    | nil => simp [entries, List.lookup_append, List.lookup_cons, Option.filter]
    | cons f rest =>
      have all := mapM_map_eq_ok (f :: rest) (read (f :: rest) rfl)
      rw [List.map_cons, List.map_cons] at all
      simp [entries, List.lookup_append, List.lookup_cons, all, Option.filter]

/-- A field is assembled from its entries, and then checked. -/
lemma assemble_entries (named : a.name.isGiven = true)
    (ordered : ∀ c, a.constraints = some c → c.Ordered) (name : Value) (parts : Option (List Field))
    (elements : Option Field) :
    assemble name (.record (entries a items shape)) parts (.ok elements) =
      checked (withName (if name.isGiven then name else a.name) ⟨a.reread, elements, parts⟩) := by
  unfold assemble
  rw [decodeValues_entries, decodeConstraints_entries _ _ _ ordered]
  by_cases given : name.isGiven = true
  · rw [if_pos given, if_pos given]
    simp [entries, List.lookup_append, List.lookup_cons, Value.getD_ite_flag,
      Value.getD_ite_isGiven, given]
    rfl
  · rw [if_neg given, if_neg given]
    simp [entries, List.lookup_append, List.lookup_cons, Value.getD_ite_flag,
      Value.getD_ite_isGiven, named]
    rfl

/-- A field that passes its checks is read back from its document form, under the name that is
given or else under its own. -/
theorem decode_encode {f : Field} (built : f.Built) (name : Value) :
    decode name f.encode = .ok (f.reread.withName (if name.isGiven then name else f.name)) := by
  induction built generalizing name with
  | @mk a items shape own bounds inItems inShape ihItems ihShape =>
  have sound := (checked_eq_ok_iff _).1 own
  have elements := decodeItems_entries a ((shape.getD []).map encode)
    fun item isItem => ihItems item isItem (.text "item")
  have parts := decodeShape_entries a (items.map encode) fun fs isShape f mem => by
    simpa [withName_reread_name] using ihShape fs isShape f mem .null
  rw [encode_mk, Value.record, decode, parts, elements, ok_bind]
  refine (assemble_entries _ _ _ sound.named bounds name _ _).trans ?_
  rw [← reread_mk a items shape]
  refine (checked_eq_ok_iff _).2 (sound.reread ?_)
  split_ifs with given
  · exact given
  · exact sound.named

/-! ### The field that is read -/

lemma reread_attributes_reread (a : FieldAttributes) : a.reread.reread = a.reread := by
  simp [FieldAttributes.reread]

@[simp] lemma withName_withName (f : Field) (name other : Value) :
    (f.withName name).withName other = f.withName other := rfl

@[simp] lemma reread_withName (f : Field) (name : Value) :
    (f.withName name).reread = f.reread.withName name := by
  obtain ⟨a, items, shape⟩ := f
  rw [reread_mk]
  exact reread_mk { a with name } items shape

/-- Reading a field back once more changes nothing. -/
theorem reread_reread (f : Field) : f.reread.reread = f.reread := by
  induction f using induction_on with
  | mk a items shape ihItems ihShape =>
    have elements : (items.map fun item => item.reread.withName (.text "item")).map
        (fun item => item.reread.withName (.text "item")) =
        items.map fun item => item.reread.withName (.text "item") := by
      cases items with
      | none => rfl
      | some item => simp [ihItems item rfl]
    have parts : (((shape.filter (!·.isEmpty)).map (·.map reread)).filter (!·.isEmpty)).map
        (·.map reread) = (shape.filter (!·.isEmpty)).map (·.map reread) := by
      cases shape with
      | none => rfl
      | some parts =>
        cases parts with
        | nil => rfl
        | cons part rest =>
          have same : ((part :: rest).map reread).map reread = (part :: rest).map reread := by
            rw [List.map_map]
            exact List.map_congr_left fun f mem => ihShape _ rfl f mem
          simpa [Option.filter] using same
    rw [reread_mk, reread_mk, reread_attributes_reread, elements, parts]

/-- The field that is read back passes its checks, under any name that counts as given. -/
theorem Built.reread {f : Field} (built : f.Built) {name : Value} (given : name.isGiven = true) :
    (f.reread.withName name).Built := by
  induction built generalizing name with
  | @mk a items shape own bounds inItems inShape ihItems ihShape =>
  have sound := ((checked_eq_ok_iff _).1 own).reread given
  rw [reread_mk] at sound ⊢
  refine .mk ((checked_eq_ok_iff _).2 sound) ?_ ?_ ?_
  · intro c isGiven
    exact bounds c (Option.eq_some_of_filter_eq_some isGiven)
  · intro item isItem
    obtain ⟨own, isOwn, rfl⟩ := Option.map_eq_some_iff.1 isItem
    exact ihItems own isOwn rfl
  · intro parts isParts part mem
    obtain ⟨own, isOwn, rfl⟩ := Option.map_eq_some_iff.1 isParts
    obtain ⟨f, isPart, rfl⟩ := List.mem_map.1 mem
    have isShape := Option.eq_some_of_filter_eq_some isOwn
    rw [← withName_reread_name]
    exact ihShape own isShape f isPart (inShape own isShape f isPart).sound.named

end Field
end EntityModel
