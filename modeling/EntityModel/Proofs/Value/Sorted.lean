import EntityModel.Proofs.Value.Record
import Mathlib.Data.List.Sort

/-!
# Sorted values

A value whose mappings, however deep they stand, are sorted by their keys: what is left of it when
the order of the entries in a mapping does not count. Sorting keeps what a record has under each
key.
-/

namespace EntityModel

namespace Value

/-- Whether an entry may stand before another. -/
abbrev entryLe {α : Type} (a b : Scalar × α) : Bool := scalarLe a.1 b.1

mutual

/-- A value whose mappings, however deep they stand, are sorted by their keys. -/
def sorted : Value → Value
  | .scalar s => .scalar s
  | .list items => .list (sortedItems items)
  | .map entries => .map ((sortedEntries entries).mergeSort entryLe)
termination_by structural v => v

def sortedItems : List Value → List Value
  | [] => []
  | v :: vs => v.sorted :: sortedItems vs
termination_by structural vs => vs

/-- The entries of a mapping with their values sorted. -/
def sortedEntries : List (Scalar × Value) → List (Scalar × Value)
  | [] => []
  | (k, v) :: rest => (k, v.sorted) :: sortedEntries rest
termination_by structural entries => entries

end

lemma sortedItems_eq_map (items : List Value) : sortedItems items = items.map sorted := by
  induction items with
  | nil => rfl
  | cons v vs ih => rw [sortedItems, ih, List.map_cons]

lemma sortedEntries_eq_map (entries : List (Scalar × Value)) :
    sortedEntries entries = entries.map fun e => (e.1, e.2.sorted) := by
  induction entries with
  | nil => rfl
  | cons entry rest ih => rw [sortedEntries, ih, List.map_cons]

@[simp] lemma sorted_scalar (s : Scalar) : sorted (.scalar s) = .scalar s := rfl

@[simp] lemma sorted_list (items : List Value) :
    sorted (.list items) = .list (items.map sorted) := by
  rw [sorted, sortedItems_eq_map]

end Value

/-- The entries of a mapping, their values sorted, in the order of their keys. -/
def Entries.sorted (entries : Entries) : Entries :=
  (entries.map fun e => (e.1, e.2.sorted)).mergeSort Value.entryLe

lemma Entries.forall_mem_sorted {entries : Entries} {P : Scalar × Value → Prop}
    (h : ∀ e ∈ entries, P (e.1, e.2.sorted)) : ∀ e ∈ sorted entries, P e := fun e mem =>
  List.forall_mem_map.2 h e (List.mem_mergeSort.1 mem)

namespace Value

@[simp] lemma sorted_map (entries : Entries) : sorted (.map entries) = .map entries.sorted := by
  rw [sorted, sortedEntries_eq_map, Entries.sorted]

end Value

/-! ### Records -/

section Lookup

variable {α : Type}

/-- The entries under one key are enough to look the key up. -/
lemma lookup_filter_key (key : String) (entries : List (String × α)) :
    (entries.filter fun e => key == e.1).lookup key = entries.lookup key := by
  induction entries with
  | nil => rfl
  | cons entry rest ih =>
    obtain ⟨k, v⟩ := entry
    rw [List.filter_cons, List.lookup_cons]
    cases here : key == k with
    | true => simp [List.lookup_cons, here]
    | false => simpa using ih

/-- Sorting by keys keeps the order of the entries with one key. -/
lemma filter_mergeSort (key : String) (entries : List (String × α)) :
    (entries.mergeSort fun a b => decide (a.1 ≤ b.1)).filter (fun e => key == e.1) =
      entries.filter fun e => key == e.1 := by
  have perm := List.mergeSort_perm entries fun a b => decide (a.1 ≤ b.1)
  have stable : (entries.filter fun e => key == e.1).Sublist
      (entries.mergeSort fun a b => decide (a.1 ≤ b.1)) := by
    refine List.sublist_mergeSort (fun a b c => ?_) (fun a b => ?_) ?_ List.filter_sublist
    · simpa using String.le_trans
    · simpa using String.le_total a.1 b.1
    · refine List.pairwise_of_forall_mem_list fun a memA b memB => ?_
      have keyA : key = a.1 := by simpa using (List.mem_filter.1 memA).2
      have keyB : key = b.1 := by simpa using (List.mem_filter.1 memB).2
      simp [← keyA, ← keyB]
  have sub := stable.filter fun e => key == e.1
  rw [List.filter_filter] at sub
  simp only [Bool.and_self] at sub
  exact (sub.eq_of_length (perm.filter _).length_eq.symm).symm

lemma lookup_mergeSort (key : String) (entries : List (String × α)) :
    (entries.mergeSort fun a b => decide (a.1 ≤ b.1)).lookup key = entries.lookup key := by
  rw [← lookup_filter_key, filter_mergeSort, lookup_filter_key]

lemma lookup_map (key : String) {β : Type} (f : α → β) (entries : List (String × α)) :
    (entries.map fun e => (e.1, f e.2)).lookup key = (entries.lookup key).map f := by
  induction entries with
  | nil => rfl
  | cons entry rest ih =>
    rw [List.map_cons, List.lookup_cons, List.lookup_cons, ih]
    cases key == entry.1 <;> rfl

end Lookup

def Entries.keyed (e : String × Value) : Scalar × Value := (.text e.1, e.2)

/-- To sort the entries of a record is to sort them by texts. -/
lemma Entries.sorted_map_keyed (entries : List (String × Value)) : sorted (entries.map keyed) =
    ((entries.map fun e => (e.1, e.2.sorted)).mergeSort fun a b =>
      decide (a.1 ≤ b.1)).map keyed := by
  rw [List.map_mergeSort (s := Value.entryLe), List.map_map, Entries.sorted, List.map_map]
  · rfl
  · intro a _ b _
    change decide (a.1 ≤ b.1) = !decide (b.1 < a.1)
    rw [← decide_not, decide_eq_decide]
    exact String.not_lt.symm

/-- The order of entries with distinct keys is lost, and nothing else. -/
lemma Entries.sorted_map_keyed_iff {entries others : List (String × Value)}
    (distinct : (entries.map (·.1)).Nodup) (sorted : ∀ e ∈ entries, e.2.sorted = e.2)
    (sorted' : ∀ e ∈ others, e.2.sorted = e.2) :
    Entries.sorted (entries.map keyed) = Entries.sorted (others.map keyed) ↔
      entries.Perm others := by
  have plain {entries : List (String × Value)} (sorted : ∀ e ∈ entries, e.2.sorted = e.2) :
      entries.map (fun e => (e.1, e.2.sorted)) = entries := by
    have same : ∀ e ∈ entries, (e.1, e.2.sorted) = e := fun e mem => by rw [sorted e mem]
    exact (List.map_congr_left same).trans (List.map_id' entries)
  rw [sorted_map_keyed, sorted_map_keyed, plain sorted, plain sorted']
  have injective : Function.Injective keyed := fun e e' same => by
    simpa [keyed, Prod.ext_iff] using same
  have perm (entries : List (String × Value)) :=
    List.mergeSort_perm entries fun a b => decide (a.1 ≤ b.1)
  rw [injective.list_map.eq_iff]
  constructor
  · intro same
    exact (perm entries).symm.trans (same ▸ perm others)
  · intro same
    have ordered (entries : List (String × Value)) :
        (entries.mergeSort fun a b => decide (a.1 ≤ b.1)).Pairwise fun a b => a.1 ≤ b.1 := by
      refine (List.pairwise_mergeSort (fun a b c => ?_) (fun a b => ?_) entries).imp (by simp)
      · simpa using String.le_trans
      · simpa using String.le_total a.1 b.1
    refine List.Perm.eq_of_pairwise (fun a b memA memB le ge => ?_) (ordered entries)
      (ordered others)
      (((perm entries).trans same).trans (perm others).symm)
    have inEntries := same.mem_iff.2 ((perm others).mem_iff.1 memB)
    exact List.inj_on_of_nodup_map distinct ((perm entries).mem_iff.1 memA) inEntries
      (String.le_antisymm le ge)

namespace Value

/-- Sorting keeps what stands under a key of a record. -/
lemma get?_sorted_record (entries : List (String × Value)) (key : String) :
    (record entries).sorted.get? key = (entries.lookup key).map sorted := by
  change get? key (sorted (.map (entries.map Entries.keyed))) = _
  rw [sorted_map, Entries.sorted_map_keyed]
  exact (Entries.find?_record _ key).trans (by rw [lookup_mergeSort, lookup_map])

/-- Records that are the same once they are sorted have the same under each key, once that is
sorted. -/
lemma lookup_of_sorted {entries others : List (String × Value)}
    (same : (record entries).sorted = (record others).sorted) (key : String) :
    (entries.lookup key).map sorted = (others.lookup key).map sorted := by
  rw [← get?_sorted_record, same, get?_sorted_record]

end Value

end EntityModel
