import EntityModel.Proofs.Json.Scalars
import EntityModel.Proofs.Outcome
import EntityModel.Proofs.Value.Sorted

/-!
# Canonical texts

The canonical text of a value of JSON is a text of the value with its mappings sorted, and of no
other sorted value: two values have the same canonical text just if they are the same but for the
order of the entries in their mappings.
-/

namespace EntityModel

namespace Value

/-- The value is one of JSON: its keys are texts, its numbers are finite, and there are no moments
in it. -/
inductive IsJson : Value → Prop where
  | scalar {s : Scalar} (json : s.IsJson) : IsJson (.scalar s)
  | list {items : List Value} (json : ∀ v ∈ items, IsJson v) : IsJson (.list items)
  | map {entries : List (Scalar × Value)} (keys : ∀ e ∈ entries, ∃ key, e.1 = .text key)
      (json : ∀ e ∈ entries, IsJson e.2) : IsJson (.map entries)

/-- Sorting the mappings of a JSON value leaves a JSON value. -/
lemma IsJson.sorted {v : Value} (h : v.IsJson) : v.sorted.IsJson := by
  induction h with
  | scalar json => exact .scalar json
  | list _ ih =>
    rw [sorted_list]
    exact .list (List.forall_mem_map.2 ih)
  | map keys _ ih =>
    rw [sorted_map]
    exact .map (Entries.forall_mem_sorted keys) (Entries.forall_mem_sorted ih)

end Value

namespace Json

open Value

/-! ### The characters of a canonical text -/

/-- The characters that follow the first part: each other part after a comma, then the closing
character. -/
def followed (closing : Char) : List (List Char) → List Char
  | [] => [closing]
  | part :: parts => ',' :: part ++ followed closing parts

/-- The characters of parts between an opening and a closing character. -/
def enclosed (opening closing : Char) : List (List Char) → List Char
  | [] => [opening, closing]
  | part :: parts => opening :: part ++ followed closing parts

def keyChars (k : Scalar) : List Char := ((keyText? k).getD "").toList

mutual

/-- The characters of a value, its mappings in the order in which they are. -/
def chars : Value → List Char
  | .scalar s => (scalarText s).toList
  | .list items => enclosed '[' ']' (itemsChars items)
  | .map entries => enclosed '{' '}' (entriesChars entries)
termination_by structural v => v

def itemsChars : List Value → List (List Char)
  | [] => []
  | v :: vs => chars v :: itemsChars vs
termination_by structural vs => vs

def entriesChars : List (Scalar × Value) → List (List Char)
  | [] => []
  | (k, v) :: rest => (keyChars k ++ ':' :: chars v) :: entriesChars rest
termination_by structural entries => entries

end

def entryChars (e : Scalar × Value) : List Char := keyChars e.1 ++ ':' :: chars e.2

lemma chars_list (items : List Value) :
    chars (.list items) = enclosed '[' ']' (items.map chars) := by
  have all (items : List Value) : itemsChars items = items.map chars := by
    induction items with
    | nil => rfl
    | cons v vs ih => rw [itemsChars, ih, List.map_cons]
  rw [chars, all]

lemma chars_map (entries : List (Scalar × Value)) :
    chars (.map entries) = enclosed '{' '}' (entries.map entryChars) := by
  have all (entries : List (Scalar × Value)) : entriesChars entries = entries.map entryChars := by
    induction entries with
    | nil => rfl
    | cons entry rest ih =>
      rw [entriesChars, ih, List.map_cons]
      rfl
  rw [chars, all]

/-- Parts in brackets are written one behind the other, in the canonical layout. -/
lemma toList_bracketed (level : Nat) (opening closing : Char) (parts : List String) :
    (bracketed .canonical level (String.singleton opening)
      (String.singleton closing) parts).toList =
      enclosed opening closing (parts.map String.toList) := by
  have joined (part : List Char) (parts : List (List Char)) :
      [','].intercalate (part :: parts) ++ [closing] = part ++ followed closing parts := by
    induction parts generalizing part with
    | nil => simp [followed, List.intercalate]
    | cons next parts ih =>
      rw [List.intercalate_cons_cons, List.append_assoc, ih next]
      simp [followed]
  cases parts with
  | nil => simp [bracketed, enclosed]
  | cons part parts =>
    have comma : ",".toList = [','] := rfl
    simp only [bracketed, List.isEmpty_cons, Bool.false_eq_true, if_false, String.toList_append,
      String.toList_intercalate, String.toList_singleton, comma, List.map_cons, enclosed]
    rw [List.append_assoc, joined]
    rfl

/-! ### Writing -/

/-- Items are written one by one, if each of them can be. -/
lemma writeItems_eq {layout : Layout} {level : Nat} {items : List Value} {form : Value → String}
    (h : ∀ v ∈ items, write layout level v = .ok (form v)) :
    writeItems layout level items = .ok (items.map form) := by
  induction items with
  | nil => rfl
  | cons v vs ih =>
    obtain ⟨first, others⟩ := List.forall_mem_cons.1 h
    rw [writeItems, first, ih others]
    rfl

/-- Entries are written one by one, if each of their values can be. -/
lemma writeEntries_eq {layout : Layout} {level : Nat} {entries : List (Scalar × Value)}
    (form : Value → String) (h : ∀ e ∈ entries, write layout level e.2 = .ok (form e.2)) :
    writeEntries layout level entries = .ok (entries.map fun e => (e.1, form e.2)) := by
  induction entries with
  | nil => rfl
  | cons entry rest ih =>
    obtain ⟨first, others⟩ := List.forall_mem_cons.1 h
    rw [writeEntries, first, ih others]
    rfl

/-- Entries whose keys are texts can be sorted. -/
lemma sortedBy_eq {α : Type} {entries : List (Scalar × α)}
    (keys : ∀ e ∈ entries, ∃ key, e.1 = .text key) :
    sortedBy (·.1) entries = .ok (entries.mergeSort entryLe) := by
  cases entries with
  | nil => rw [sortedBy, List.mergeSort_nil]
  | cons first rest =>
    obtain ⟨⟨key, isKey⟩, others⟩ := List.forall_mem_cons.1 keys
    have comparable : rest.all (fun item => comparable first.1 item.1) = true := by
      refine List.all_eq_true.2 fun item mem => ?_
      obtain ⟨other, isOther⟩ := others item mem
      rw [isKey, isOther]
      rfl
    rw [sortedBy, if_pos comparable]

/-- The canonical text of a value of JSON has the characters of the sorted value. -/
theorem write_canonical {v : Value} (h : v.IsJson) (level : Nat) :
    write .canonical level v = .ok (String.ofList (chars v.sorted)) := by
  induction h generalizing level with
  | scalar json => simp [write, chars]
  | @list items _ ih =>
    rw [write, writeItems_eq fun v mem => ih v mem (level + 1), sorted_list, chars_list]
    have text := toList_bracketed level '[' ']'
      (items.map fun v => String.ofList (chars v.sorted))
    refine congrArg Except.ok (String.toList_inj.1 (text.trans ?_))
    simp [Function.comp_def]
  | @map entries keys _ ih =>
    have written := writeEntries_eq (fun v => String.ofList (chars v.sorted)) fun e mem =>
      ih e mem (level + 1)
    have sortable : ∀ e ∈ entries.map fun e => (e.1, String.ofList (chars e.2.sorted)),
        ∃ key, e.1 = .text key := List.forall_mem_map.2 keys
    -- it is all one whether the entries or their texts are sorted
    have swap : (entries.map fun e => (e.1, String.ofList (chars e.2.sorted))).mergeSort entryLe =
        (Entries.sorted entries).map fun e => (e.1, String.ofList (chars e.2)) := by
      rw [Entries.sorted, List.map_mergeSort (s := entryLe) fun _ _ _ _ => rfl, List.map_map]
      rfl
    have sortedKeys : ∀ e ∈ Entries.sorted entries, ∃ key, e.1 = .text key :=
      Entries.forall_mem_sorted (P := fun e => ∃ key, e.1 = .text key) keys
    have texts : ((Entries.sorted entries).map fun e => (e.1, String.ofList (chars e.2))).mapM
          (entryText .canonical) =
        .ok ((Entries.sorted entries).map fun e => String.ofList (entryChars e)) := by
      refine Outcome.mapM_map_eq_ok _ fun e mem => ?_
      obtain ⟨key, isKey⟩ := sortedKeys e mem
      simp [entryText, entryChars, isKey, keyText?, keyChars, colon, String.append_assoc]
    have text := toList_bracketed level '{' '}'
      ((Entries.sorted entries).map fun e => String.ofList (entryChars e))
    rw [write, written, sorted_map, chars_map]
    simp only [Outcome.ok_bind, if_pos, sortedBy_eq sortable, swap, texts]
    refine congrArg Except.ok (String.toList_inj.1 (text.trans ?_))
    simp [Function.comp_def]

/-! ### Reading off -/

section Parts

variable {α : Type} {code : α → List Char} {closing : Char} {xs ys : List α} {s t : List Char}

/-- Parts that stand at the start of a text can be told from it. -/
def Unique (code : α → List Char) (xs ys : List α) : Prop :=
  ∀ x ∈ xs, ∀ y ∈ ys, ∀ {s t}, Ends s → Ends t → code x ++ s = code y ++ t → x = y ∧ s = t

lemma Unique.tail {x y : α} (h : Unique code (x :: xs) (y :: ys)) : Unique code xs ys :=
  fun x mem y mem' => h x (List.mem_cons_of_mem _ mem) y (List.mem_cons_of_mem _ mem')

lemma ends_followed (closes : isEnd closing = true) (parts : List (List Char)) :
    Ends (followed closing parts ++ s) := by
  cases parts with
  | nil => exact ends_cons closes
  | cons part parts => exact ends_cons (by decide)

/-- Parts that can be told apart are read off up to the closing bracket. -/
lemma followed_append_inj (closes : isEnd closing = true) (comma : closing ≠ ',')
    (unique : Unique code xs ys)
    (same : followed closing (xs.map code) ++ s = followed closing (ys.map code) ++ t) :
    xs = ys ∧ s = t := by
  induction xs generalizing ys with
  | nil =>
    cases ys with
    | nil => exact ⟨rfl, (List.cons.inj same).2⟩
    | cons y ys => exact absurd (List.cons.inj same).1 comma
  | cons x xs ih =>
    cases ys with
    | nil => exact absurd (List.cons.inj same).1.symm comma
    | cons y ys =>
      simp only [List.map_cons, followed, List.append_assoc, List.cons_append, List.cons.injEq,
        true_and] at same
      obtain ⟨rfl, rest⟩ := unique x List.mem_cons_self y List.mem_cons_self
        (ends_followed closes _) (ends_followed closes _) same
      obtain ⟨rfl, after⟩ := ih unique.tail rest
      exact ⟨rfl, after⟩

/-- Parts between brackets can be told apart if each of them can. -/
lemma enclosed_append_inj {opening : Char} (closes : isEnd closing = true) (comma : closing ≠ ',')
    (unique : Unique code xs ys) (some : ∀ x ∈ xs, ∀ {s t}, code x ++ s ≠ closing :: t)
    (some' : ∀ y ∈ ys, ∀ {s t}, code y ++ s ≠ closing :: t)
    (same : enclosed opening closing (xs.map code) ++ s =
      enclosed opening closing (ys.map code) ++ t) : xs = ys ∧ s = t := by
  cases xs with
  | nil =>
    cases ys with
    | nil => exact ⟨rfl, by simpa [enclosed] using same⟩
    | cons y ys =>
      simp only [List.map_nil, List.map_cons, enclosed, List.append_assoc, List.cons_append,
        List.cons.injEq, true_and] at same
      exact absurd same.symm (some' y List.mem_cons_self)
  | cons x xs =>
    cases ys with
    | nil =>
      simp only [List.map_nil, List.map_cons, enclosed, List.append_assoc, List.cons_append,
        List.cons.injEq, true_and] at same
      exact absurd same (some x List.mem_cons_self)
    | cons y ys =>
      simp only [List.map_cons, enclosed, List.append_assoc, List.cons_append, List.cons.injEq,
        true_and] at same
      obtain ⟨rfl, rest⟩ := unique x List.mem_cons_self y List.mem_cons_self
        (ends_followed closes _) (ends_followed closes _) same
      obtain ⟨rfl, after⟩ := followed_append_inj closes comma unique.tail rest
      exact ⟨rfl, after⟩

end Parts

lemma exists_chars_list_cons (items : List Value) : ∃ more, chars (.list items) = '[' :: more := by
  rw [chars_list]
  cases items <;> exact ⟨_, rfl⟩

lemma exists_chars_map_cons (entries : Entries) : ∃ more, chars (.map entries) = '{' :: more := by
  rw [chars_map]
  cases entries <;> exact ⟨_, rfl⟩

/-- The character that opens a list or a mapping. -/
def opening? : Value → Option Char
  | .scalar _ => none
  | .list _ => some '['
  | .map _ => some '{'

/-- The first character of a value closes nothing, and it tells lists and mappings from each other
and from scalars. -/
lemma exists_chars_cons {v : Value} (h : v.IsJson) : ∃ c more, chars v = c :: more ∧
    isEnd c = false ∧ opening? v = if c = '[' ∨ c = '{' then some c else none := by
  cases h with
  | scalar json =>
    obtain ⟨c, more, start, bracket, brace, noEnd, -⟩ := exists_scalarText_cons json
    exact ⟨c, more, start, noEnd, (if_neg (not_or.2 ⟨bracket, brace⟩)).symm⟩
  | @list items _ =>
    obtain ⟨more, start⟩ := exists_chars_list_cons items
    exact ⟨_, more, start, by decide, rfl⟩
  | @map entries _ _ =>
    obtain ⟨more, start⟩ := exists_chars_map_cons entries
    exact ⟨_, more, start, by decide, rfl⟩

lemma opening?_eq {v w : Value} (hv : v.IsJson) (hw : w.IsJson) {s t : List Char}
    (same : chars v ++ s = chars w ++ t) : opening? v = opening? w := by
  obtain ⟨c, more, start, -, opens⟩ := exists_chars_cons hv
  obtain ⟨d, more', start', -, opens'⟩ := exists_chars_cons hw
  rw [start, start'] at same
  rw [opens, opens', (List.cons.inj same).1]

lemma chars_append_ne {v : Value} (h : v.IsJson) {c : Char} (closes : isEnd c = true)
    {s t : List Char} : chars v ++ s ≠ c :: t := by
  obtain ⟨d, more, start, noEnd, -⟩ := exists_chars_cons h
  intro same
  rw [start] at same
  rw [(List.cons.inj same).1, closes] at noEnd
  simp at noEnd

lemma entryChars_text (key : String) (v : Value) :
    entryChars (.text key, v) = stringChars key.toList ++ ':' :: chars v := by
  rw [entryChars, keyChars, keyText?, Option.getD_some, toList_string]

/-- The key of an entry can be told from it, and what follows the colon. -/
lemma entryChars_append_inj {e e' : Scalar × Value} (key : ∃ key, e.1 = .text key)
    (key' : ∃ key, e'.1 = .text key) {s t : List Char}
    (same : entryChars e ++ s = entryChars e' ++ t) :
    e.1 = e'.1 ∧ chars e.2 ++ s = chars e'.2 ++ t := by
  obtain ⟨_, v⟩ := e
  obtain ⟨_, v'⟩ := e'
  obtain ⟨key, rfl⟩ := key
  obtain ⟨key', rfl⟩ := key'
  rw [entryChars_text, entryChars_text, List.append_assoc, List.append_assoc] at same
  obtain ⟨keys, rest⟩ := stringChars_append_inj same
  exact ⟨congrArg Scalar.text (String.toList_inj.1 keys), (List.cons.inj rest).2⟩

/-- No entry begins with a closing bracket. -/
lemma entryChars_append_ne {e : Scalar × Value} (key : ∃ key, e.1 = .text key) {c : Char}
    (closes : isEnd c = true) {s t : List Char} : entryChars e ++ s ≠ c :: t := by
  obtain ⟨_, v⟩ := e
  obtain ⟨key, rfl⟩ := key
  intro same
  rw [entryChars_text] at same
  rw [← (List.cons.inj same).1] at closes
  exact absurd closes (by decide)

/-- The value at the start of a text can be told from it. -/
theorem chars_append_inj {v w : Value} (hv : v.IsJson) (hw : w.IsJson) {s t : List Char}
    (hs : Ends s) (ht : Ends t) (same : chars v ++ s = chars w ++ t) : v = w ∧ s = t := by
  have kinds := opening?_eq hv hw same
  induction hv generalizing w s t with
  | scalar json =>
    cases hw with
    | scalar json' =>
      obtain ⟨rfl, rest⟩ := scalarText_append_inj json json' hs ht same
      exact ⟨rfl, rest⟩
    | list | map => simp [opening?] at kinds
  | list json ih =>
    cases hw with
    | scalar | map => simp [opening?] at kinds
    | list json' =>
      rw [chars_list, chars_list] at same
      have unique : Unique chars _ _ := fun x mem y mem' s t hs ht same =>
        ih x mem (json' y mem') hs ht same (opening?_eq (json x mem) (json' y mem') same)
      obtain ⟨rfl, rest⟩ := enclosed_append_inj (by decide) (by decide) unique
        (fun x mem => chars_append_ne (json x mem) (by decide))
        (fun y mem => chars_append_ne (json' y mem) (by decide)) same
      exact ⟨rfl, rest⟩
  | map keys json ih =>
    cases hw with
    | scalar | list => simp [opening?] at kinds
    | map keys' json' =>
      rw [chars_map, chars_map] at same
      have unique : Unique entryChars _ _ := fun e mem e' mem' s t hs ht same => by
        obtain ⟨key, rest⟩ := entryChars_append_inj (keys e mem) (keys' e' mem') same
        obtain ⟨value, after⟩ := ih e mem (json' e' mem') hs ht rest
          (opening?_eq (json e mem) (json' e' mem') rest)
        exact ⟨Prod.ext key value, after⟩
      obtain ⟨rfl, rest⟩ := enclosed_append_inj (by decide) (by decide) unique
        (fun e mem => entryChars_append_ne (keys e mem) (by decide))
        (fun e mem => entryChars_append_ne (keys' e mem) (by decide)) same
      exact ⟨rfl, rest⟩

/-- Two values of JSON have the same canonical text just if they are the same once their mappings
are sorted. -/
theorem text_canonical_eq_iff {v w : Value} (hv : v.IsJson) (hw : w.IsJson) :
    ∃ s t, text .canonical v = .ok s ∧ text .canonical w = .ok t ∧
    (s = t ↔ v.sorted = w.sorted) := by
  refine ⟨_, _, write_canonical hv 0, write_canonical hw 0, fun same => ?_,
    fun same => by rw [same]⟩
  have chars : chars v.sorted ++ [] = chars w.sorted ++ [] := by
    rw [List.append_nil, List.append_nil, String.ofList_inj.1 same]
  exact (chars_append_inj hv.sorted hw.sorted ends_nil ends_nil chars).1

end Json

end EntityModel
