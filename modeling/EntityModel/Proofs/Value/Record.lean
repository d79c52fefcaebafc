import EntityModel.Value.Reading
import Mathlib.Tactic.Common

/-!
# Records

What is read out of a record is what stands first under the key. A record is written in parts, some
of which may be left out; each part says on its own what it has under a key.
-/

namespace EntityModel

variable {entries : List (String × Value)} {key : String}

namespace Entries

/-- A value is read from a record under its key. -/
@[simp] lemma find?_record (entries : List (String × Value)) (key : String) :
    find? (.text key) (entries.map fun (k, v) => (.text k, v)) = entries.lookup key := by
  induction entries with
  | nil => rfl
  | cons entry rest ih =>
    obtain ⟨k, v⟩ := entry
    rw [List.map_cons, find?, ih, List.lookup_cons, Scalar.same]
    by_cases here : k = key
    · simp [here]
    · have other : (key == k) = false := beq_false_of_ne fun same => here same.symm
      rw [if_neg (by simpa using here), other]

end Entries

namespace Value

@[simp] lemma get?_record (entries : List (String × Value)) (key : String) :
    (record entries).get? key = entries.lookup key :=
  Entries.find?_record entries key

@[simp] lemma entryOr_record (entries : List (String × Value)) (key : String) (default : Value) :
    (record entries).entryOr key default = .ok ((entries.lookup key).getD default) := by
  rw [record, entryOr, Entries.find?_record]

@[simp] lemma optional_record (entries : List (String × Value)) (key : String) :
    (record entries).optional key = .ok ((entries.lookup key).getD .null) :=
  entryOr_record entries key .null

/-- An entry that has to be there is read from a record, or reported missing. -/
@[simp] lemma entry_record (entries : List (String × Value)) (key : String) :
    (record entries).entry key = match entries.lookup key with
      | some v => .ok v
      | none => .error (.missingKey key) := by
  cases found : entries.lookup key <;> simp [record, entry, found]

/-! ### Values that count as given -/

@[simp] lemma isGiven_null : isGiven .null = false := rfl

@[simp] lemma isGiven_bool (b : Bool) : isGiven (.bool b) = b := rfl

@[simp] lemma isGiven_list (items : List Value) : isGiven (.list items) = !items.isEmpty := rfl

@[simp] lemma isGiven_map (entries : Entries) : isGiven (.map entries) = !entries.isEmpty := rfl

lemma isGiven_text (s : String) : isGiven (.text s) = (s != "") := rfl

@[simp] lemma isGiven_record (entries : List (String × Value)) :
    isGiven (record entries) = !entries.isEmpty := by
  rw [record, isGiven_map, List.isEmpty_map]

@[simp] lemma isGiven_orElse_null (v : Value) : (v.orElse .null).isGiven = v.isGiven := by
  unfold orElse
  by_cases given : v.isGiven = true <;> simp [given]

/-- What is left out where it does not count as given is read as the default. -/
lemma getD_ite_isGiven (v default : Value) :
    (if v.isGiven then some v else none).getD default = v.orElse default := by
  unfold orElse
  split <;> rfl

/-- A flag that is left out unless it is set is read as whether it is set. -/
lemma getD_ite_flag (v : Value) :
    (if v.isGiven then some (Value.bool true) else none).getD (.bool false) = .bool v.isGiven := by
  cases v.isGiven <;> rfl

/-- A list that is left out where it is empty is read as it is. -/
lemma getD_ite_nil {α : Type} (items : List α) (form : α → Value) :
    (if items = [] then none else some (Value.list (items.map form))).getD (.list []) =
      .list (items.map form) := by
  cases items <;> rfl

lemma orElse_getD_ite_nil {α : Type} (items : List α) (form : α → Value) :
    ((if items = [] then none else some (Value.list (items.map form))).getD .null).orElse
      (.list []) = .list (items.map form) := by
  cases items <;> rfl

/-- A mapping that is left out where it is empty is read as it is. -/
lemma getD_ite_empty (entries : Entries) :
    ((if entries = [] then none else some (Value.map entries)).getD .null).orElse (.map []) =
      .map entries := by
  cases entries <;> rfl

@[simp] lemma orElse_list_nil (items : List Value) :
    (Value.list items).orElse (.list []) = .list items := by
  cases items <;> rfl

@[simp] lemma elements_list (items : List Value) : (Value.list items).elements = .ok items := rfl

/-- What is left out where it is null is read as it is. -/
lemma getD_ite_isNull (v : Value) : (if v.isNull then none else some v).getD .null = v := by
  cases v with
  | scalar s => cases s <;> rfl
  | list | map => rfl

end Value

/-! ### Parts of a record -/

/-- An entry that is left out where there is no value. -/
def optionalEntry (key : String) (v : Option Value) : List (String × Value) :=
  (v.map fun v => (key, v)).toList

@[simp] lemma optionalEntry_none (key : String) : optionalEntry key none = [] := rfl

@[simp] lemma optionalEntry_some (key : String) (v : Value) :
    optionalEntry key (some v) = [(key, v)] := rfl

/-- An optional entry is read under its key. -/
@[simp] lemma lookup_optionalEntry (key written : String) (v : Option Value) :
    (optionalEntry written v).lookup key = if key == written then v else none := by
  cases v with
  | none => simp [optionalEntry]
  | some v =>
    change List.lookup key [(written, v)] = _
    rw [List.lookup_cons]
    cases key == written <;> rfl

@[simp] lemma lookup_ite {c : Prop} [Decidable c] (first second : List (String × Value))
    (key : String) :
    (if c then first else second).lookup key =
      if c then first.lookup key else second.lookup key := by
  split <;> rfl

end EntityModel
