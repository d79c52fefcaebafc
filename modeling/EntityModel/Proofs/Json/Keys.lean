import EntityModel.Json.Writer
import EntityModel.Proofs.Outcome
import Mathlib.Data.List.Perm.Basic

/-!
# Keys in JSON texts

Whether a value has a JSON text depends on nothing but the keys of its mappings, however deep they
stand: in no layout may a key be a moment, and where keys are sorted any two of a mapping must
compare (`Json.exists_write_iff`).
-/

namespace EntityModel

open Outcome

namespace Value

/-! ### Keys of all mappings in a value -/

/-- The keys of each mapping in a value have a property. -/
inductive Keyed (P : List Scalar → Prop) : Value → Prop where
  | scalar {s : Scalar} : Keyed P (.scalar s)
  | list {items : List Value} (inItems : ∀ v ∈ items, Keyed P v) : Keyed P (.list items)
  | map {entries : Entries} (own : P (entries.map (·.1))) (inValues : ∀ e ∈ entries, Keyed P e.2) :
      Keyed P (.map entries)

variable {P : List Scalar → Prop} {v : Value}

@[simp] lemma keyed_scalar (s : Scalar) : Keyed P (.scalar s) := .scalar

lemma keyed_list {items : List Value} : Keyed P (.list items) ↔ ∀ v ∈ items, Keyed P v :=
  ⟨fun | .list inItems => inItems, .list⟩

@[simp] lemma keyed_map {entries : Entries} : Keyed P (.map entries) ↔
    P (entries.map (·.1)) ∧ ∀ e ∈ entries, Keyed P e.2 :=
  ⟨fun | .map own inValues => ⟨own, inValues⟩, fun h => .map h.1 h.2⟩

/-! ### Comparable keys -/

lemma comparable_symm {a b : Scalar} (h : comparable a b = true) : comparable b a = true := by
  cases a <;> cases b <;> first | rfl | cases h

lemma comparable_trans {a b c : Scalar} (h : comparable a b = true) (h' : comparable b c = true) :
    comparable a c = true := by
  cases a <;> cases b <;> cases h <;> cases c <;> first | rfl | cases h'

/-- Keyed items can be sorted exactly if any two of their keys compare. -/
lemma sortedBy_eq_ok_iff {α : Type} {key : α → Scalar} {items sorted : List α} :
    sortedBy key items = .ok sorted ↔
      (items.map key).Pairwise (fun a b => comparable a b = true) ∧
        items.mergeSort (fun a b => scalarLe (key a) (key b)) = sorted := by
  cases items with
  | nil => simp [sortedBy]
  | cons first rest =>
    -- the first key is compared with the others only, but it compares with any two of them
    have all : (rest.all fun item => comparable (key first) (key item)) = true ↔
        ((first :: rest).map key).Pairwise fun a b => comparable a b = true := by
      rw [List.all_eq_true, List.map_cons, List.pairwise_cons, List.forall_mem_map]
      refine (and_iff_left_of_imp fun all => ?_).symm
      refine List.pairwise_of_forall_mem_list ?_
      simp only [List.forall_mem_map]
      intro a memA b memB
      exact comparable_trans (comparable_symm (all a memA)) (all b memB)
    rw [sortedBy, ← all]
    split_ifs with compare
    · simp [compare]
    · simp [compare, wrongKind]

end Value

namespace Json

/-- A mapping with these keys has a text in a layout. -/
structure Allows (layout : Layout) (keys : List Scalar) : Prop where
  shown : ∀ m, Scalar.moment m ∉ keys
  sortable : layout = .canonical → keys.Pairwise fun a b => Value.comparable a b = true

variable {layout : Layout} {level : Nat}

lemma writeItems_eq_mapM (items : List Value) :
    writeItems layout level items = items.mapM (write layout level) := by
  induction items with
  | nil => rfl
  | cons v vs ih => rw [writeItems, ih, List.mapM_cons]

lemma writeEntries_eq_mapM (entries : Entries) : writeEntries layout level entries =
    entries.mapM fun e => (e.1, ·) <$> write layout level e.2 := by
  induction entries with
  | nil => rfl
  | cons entry rest ih =>
    rw [writeEntries, ih, List.mapM_cons]
    cases write layout level entry.2 <;> rfl

/-- The texts of the values of a mapping stand beside the same keys. -/
lemma keys_of_writeEntries {entries : Entries} {written : List (Scalar × String)}
    (ok : writeEntries layout level entries = .ok written) :
    written.map (·.1) = entries.map (·.1) := by
  rw [writeEntries_eq_mapM, mapM_eq_ok_iff] at ok
  refine map_eq_map ok fun e out ok => ?_
  obtain ⟨text, -, rfl⟩ := map_eq_ok_iff.1 ok
  rfl

lemma exists_entryText_iff (entry : Scalar × String) :
    (∃ text, entryText layout entry = .ok text) ↔ ∀ m, entry.1 ≠ .moment m := by
  obtain ⟨key, text⟩ := entry
  cases key <;> simp [entryText, keyText?, wrongKind]

/-- Entries that are written can be put in order and have texts exactly if their keys are
allowed. -/
lemma exists_ordered_iff (written : List (Scalar × String)) :
    (∃ ordered,
      (if layout = .canonical then Value.sortedBy (·.1) written else .ok written) = .ok ordered ∧
      ∃ parts, ordered.mapM (entryText layout) = .ok parts) ↔
      Allows layout (written.map (·.1)) := by
  have shown (ordered : List (Scalar × String)) (perm : ordered.Perm written) :
      (∃ parts, ordered.mapM (entryText layout) = .ok parts) ↔
        ∀ m, Scalar.moment m ∉ written.map (·.1) := by
    rw [exists_mapM_eq_ok_iff]
    simp only [exists_entryText_iff, perm.mem_iff, List.mem_map, not_exists, not_and]
    exact ⟨fun h m e mem => h e mem m, fun h e mem m => h m e mem⟩
  by_cases canonical : layout = .canonical
  · simp only [if_pos canonical, Value.sortedBy_eq_ok_iff]
    constructor
    · rintro ⟨_, ⟨sortable, rfl⟩, parts⟩
      exact ⟨(shown _ (List.mergeSort_perm _ _)).1 parts, fun _ => sortable⟩
    · intro allows
      exact ⟨_, ⟨allows.sortable canonical, rfl⟩,
        (shown _ (List.mergeSort_perm _ _)).2 allows.shown⟩
  · simp only [if_neg canonical]
    constructor
    · rintro ⟨_, same, parts⟩
      obtain rfl := Except.ok.inj same
      exact ⟨(shown _ (.refl _)).1 parts, fun is => absurd is canonical⟩
    · intro allows
      exact ⟨written, rfl, (shown _ (.refl _)).2 allows.shown⟩

lemma exists_write_list_iff (items : List Value) :
    (∃ text, write layout level (.list items) = .ok text) ↔
      ∀ v ∈ items, ∃ text, write layout (level + 1) v = .ok text := by
  rw [write, exists_bind_eq_ok_iff, writeItems_eq_mapM, ← exists_mapM_eq_ok_iff]
  exact exists_congr fun parts => and_iff_left ⟨_, rfl⟩

lemma exists_writeEntries_iff (entries : Entries) :
    (∃ written, writeEntries layout level entries = .ok written) ↔
      ∀ e ∈ entries, ∃ text, write layout level e.2 = .ok text := by
  rw [writeEntries_eq_mapM, exists_mapM_eq_ok_iff]
  refine forall₂_congr fun e _ => ?_
  simp only [map_eq_ok_iff]
  exact ⟨fun ⟨_, text, ok, _⟩ => ⟨text, ok⟩, fun ⟨text, ok⟩ => ⟨_, text, ok, rfl⟩⟩

/-- A mapping can be written if its keys are allowed together and each of its values can be. -/
lemma exists_write_map_iff (entries : Entries) :
    (∃ text, write layout level (.map entries) = .ok text) ↔ Allows layout (entries.map (·.1)) ∧
      ∀ e ∈ entries, ∃ text, write layout (level + 1) e.2 = .ok text := by
  rw [write, exists_bind_eq_ok_iff, ← exists_writeEntries_iff]
  simp only [ite_bind_eq]
  constructor
  · rintro ⟨written, ok, text⟩
    obtain ⟨ordered, isOrdered, text⟩ := exists_bind_eq_ok_iff.1 text
    obtain ⟨parts, joined, -⟩ := exists_bind_eq_ok_iff.1 text
    rw [← keys_of_writeEntries ok, ← exists_ordered_iff]
    exact ⟨⟨ordered, isOrdered, parts, joined⟩, written, ok⟩
  · rintro ⟨allows, written, ok⟩
    rw [← keys_of_writeEntries ok, ← exists_ordered_iff] at allows
    obtain ⟨ordered, isOrdered, parts, joined⟩ := allows
    exact ⟨written, ok, exists_bind_eq_ok_iff.2
      ⟨ordered, isOrdered, exists_bind_eq_ok_iff.2 ⟨parts, joined, _, rfl⟩⟩⟩

mutual

/-- A value has a text exactly if each mapping in it has keys that the layout allows. -/
theorem exists_write_iff (layout : Layout) (level : Nat) : (v : Value) →
    ((∃ text, write layout level v = .ok text) ↔ v.Keyed (Allows layout))
  | .scalar s => by simp [write]
  | .list items => by
    rw [exists_write_list_iff, Value.keyed_list]
    exact forall_exists_write_iff layout (level + 1) items
  | .map entries => by
    rw [exists_write_map_iff, Value.keyed_map]
    exact and_congr_right fun _ => forall_exists_writeEntry_iff layout (level + 1) entries
termination_by structural v => v

/-- The items of a list can be written if their keys are allowed, at any depth. -/
lemma forall_exists_write_iff (layout : Layout) (level : Nat) : (items : List Value) →
    ((∀ v ∈ items, ∃ text, write layout level v = .ok text) ↔ ∀ v ∈ items, v.Keyed (Allows layout))
  | [] => by simp
  | v :: vs => by
    rw [List.forall_mem_cons, List.forall_mem_cons, exists_write_iff layout level v,
      forall_exists_write_iff layout level vs]
termination_by structural items => items

/-- The values of a mapping can be written if their keys are allowed, at any depth. -/
lemma forall_exists_writeEntry_iff (layout : Layout) (level : Nat) :
    (entries : List (Scalar × Value)) →
    ((∀ e ∈ entries, ∃ text, write layout level e.2 = .ok text) ↔
      ∀ e ∈ entries, e.2.Keyed (Allows layout))
  | [] => by simp
  | (k, v) :: rest => by
    rw [List.forall_mem_cons, List.forall_mem_cons, exists_write_iff layout level v,
      forall_exists_writeEntry_iff layout level rest]
termination_by structural entries => entries

end

lemma allows_texts (names : List String) : Allows layout (names.map .text) where
  shown m mem := by simp at mem
  sortable _ := by
    rw [List.pairwise_map]
    exact List.pairwise_of_forall fun _ _ => rfl

lemma allows_nil : Allows layout [] := allows_texts []

end Json

/-! ### Values that fit a layout -/

/-- The value has a text in a layout. -/
abbrev Value.Fits (layout : Json.Layout) (v : Value) : Prop := v.Keyed (Json.Allows layout)

def AllFit (layout : Json.Layout) (vs : List Value) : Prop := ∀ v ∈ vs, v.Fits layout

/-- The values under these keys have texts in a layout. -/
def FitEntries (layout : Json.Layout) (entries : List (String × Value)) : Prop :=
  ∀ e ∈ entries, e.2.Fits layout

variable {layout : Json.Layout} {key : String} {v : Value}

namespace AllFit

variable {vs ws : List Value}

@[simp] lemma nil : AllFit layout [] := by simp [AllFit]

@[simp] lemma cons_iff : AllFit layout (v :: vs) ↔ v.Fits layout ∧ AllFit layout vs :=
  List.forall_mem_cons

@[simp] lemma append_iff : AllFit layout (vs ++ ws) ↔ AllFit layout vs ∧ AllFit layout ws :=
  List.forall_mem_append

@[simp] lemma flatMap_iff {α : Type} {items : List α} {f : α → List Value} :
    AllFit layout (items.flatMap f) ↔ ∀ a ∈ items, AllFit layout (f a) :=
  List.forall_mem_flatMap

@[simp] lemma map_iff {α : Type} {items : List α} {f : α → Value} :
    AllFit layout (items.map f) ↔ ∀ a ∈ items, (f a).Fits layout :=
  List.forall_mem_map

end AllFit

namespace Value

@[simp] lemma fits_list {vs : List Value} :
    (Value.list vs).Fits layout ↔ AllFit layout vs := keyed_list

/-- A record fits a layout if its values do: its keys are texts. -/
@[simp] lemma fits_record {entries : List (String × Value)} :
    (record entries).Fits layout ↔ FitEntries layout entries := by
  have form : record entries = .map (entries.map fun e => (.text e.1, e.2)) := rfl
  have keys : (entries.map fun e => (Scalar.text e.1, e.2)).map (·.1) =
      (entries.map (·.1)).map .text := by
    rw [List.map_map, List.map_map]
    rfl
  rw [form, Fits, keyed_map, keys, and_iff_right (Json.allows_texts _), FitEntries,
    List.forall_mem_map]

lemma fits_texts (items : List String) : (texts items).Fits layout := by simp [texts]

/-- A value that does not count as given is a scalar or empty. -/
lemma fits_of_not_isGiven (h : v.isGiven = false) : v.Fits layout := by
  cases v with
  | scalar s => exact .scalar
  | list items => simp_all [isGiven]
  | map entries =>
    have empty : entries = [] := by simpa [isGiven] using h
    subst empty
    exact .map Json.allows_nil (by simp)

lemma fits_of_given (h : v.isGiven = true → v.Fits layout) : v.Fits layout := by
  cases given : v.isGiven with
  | false => exact fits_of_not_isGiven given
  | true => exact h given

lemma fits_of_isNull (h : v.isNull = true) : v.Fits layout := by
  cases v with
  | scalar s => exact .scalar
  | list | map => cases h

end Value

namespace FitEntries

@[simp] lemma nil : FitEntries layout [] := by simp [FitEntries]

@[simp] lemma cons_iff {rest : List (String × Value)} :
    FitEntries layout ((key, v) :: rest) ↔ v.Fits layout ∧ FitEntries layout rest :=
  List.forall_mem_cons

@[simp] lemma append_iff {first rest : List (String × Value)} :
    FitEntries layout (first ++ rest) ↔ FitEntries layout first ∧ FitEntries layout rest :=
  List.forall_mem_append

@[simp] lemma map_iff {α : Type} {items : List α} {entry : α → String × Value} :
    FitEntries layout (items.map entry) ↔ ∀ a ∈ items, (entry a).2.Fits layout :=
  List.forall_mem_map

/-- An entry that is left out unless its value counts as given. -/
@[simp] lemma ite_isGiven_iff :
    FitEntries layout (if v.isGiven = true then [(key, v)] else []) ↔ v.Fits layout := by
  cases given : v.isGiven with
  | false => simp [Value.fits_of_not_isGiven given]
  | true => simp

/-- An entry that is left out where its value is null. -/
@[simp] lemma ite_isNull_iff :
    FitEntries layout (if v.isNull = true then [] else [(key, v)]) ↔ v.Fits layout := by
  cases null : v.isNull with
  | false => simp
  | true => simp [Value.fits_of_isNull null]

/-- Entries of which those are left out whose value is null. -/
@[simp] lemma filter_isNull_iff {entries : List (String × Value)} :
    FitEntries layout (entries.filter fun e => !e.2.isNull) ↔ FitEntries layout entries := by
  refine ⟨fun h e mem => ?_, fun h e mem => h e (List.mem_of_mem_filter mem)⟩
  cases null : e.2.isNull with
  | false => exact h e (List.mem_filter.2 ⟨mem, by simp [null]⟩)
  | true => exact Value.fits_of_isNull null

@[simp] lemma ite_scalar {c : Prop} [Decidable c] {s : Scalar} :
    FitEntries layout (if c then [(key, .scalar s)] else []) := by
  split_ifs <;> simp

@[simp] lemma ite_nil_scalar {c : Prop} [Decidable c] {s : Scalar} :
    FitEntries layout (if c then [] else [(key, .scalar s)]) := by
  split_ifs <;> simp

end FitEntries

end EntityModel
