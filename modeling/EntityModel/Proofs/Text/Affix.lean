import EntityModel.Text.Affix
import Mathlib.Data.List.Infix

/-!
# Ends and parts of texts

A test of the end of a text is a statement on suffixes, and one of what stands in a text a statement
on infixes. What is cut off at the end is known where the text is put together from its parts.
-/

namespace EntityModel.Text

variable {cs w v : List Char} {n : Nat} {suffix part : String}

lemma endsIn_iff : endsIn cs suffix = true ↔ suffix.toList <:+ cs := List.isSuffixOf_iff_suffix

lemma endsInAny_iff {suffixes : List String} :
    endsInAny cs suffixes = true ↔ ∃ suffix ∈ suffixes, suffix.toList <:+ cs := by
  simp only [endsInAny, List.any_eq_true, endsIn_iff]

lemma hasPart_iff : hasPart part cs = true ↔ part.toList <:+: cs := by
  induction cs with
  | nil => simp [hasPart, String.toList_eq_nil_iff]
  | cons c rest ih =>
    rw [hasPart, Bool.or_eq_true, ih, List.isPrefixOf_iff_prefix, List.infix_cons_iff]

lemma dropEnd_append (h : v.length = n) : dropEnd n (w ++ v) = w := by
  rw [dropEnd, List.length_append, h, Nat.add_sub_cancel]
  exact List.take_left' rfl

lemma dropEnd_append_append (w v u : List Char) : dropEnd u.length (w ++ (v ++ u)) = w ++ v := by
  rw [← List.append_assoc, dropEnd_append rfl]

lemma dropEnd_one_append (w : List Char) (c : Char) : dropEnd 1 (w ++ [c]) = w :=
  dropEnd_append rfl

lemma length_dropEnd (n : Nat) (cs : List Char) : (dropEnd n cs).length = cs.length - n := by
  rw [dropEnd, List.length_take]
  omega

lemma length_le_of_endsIn (h : endsIn cs suffix = true) : suffix.toList.length ≤ cs.length :=
  (endsIn_iff.1 h).length_le

/-- Whether a text ends in a suffix is told by an end of it that is no shorter. -/
lemma endsIn_append (w : List Char) (long : suffix.toList.length ≤ v.length) :
    endsIn (w ++ v) suffix = endsIn v suffix := by
  rw [Bool.eq_iff_iff, endsIn_iff, endsIn_iff]
  constructor
  · exact fun ends => List.suffix_of_suffix_length_le ends (List.suffix_append w v) long
  · exact fun ends => ends.trans (List.suffix_append w v)

lemma endsInAny_append (w : List Char) {suffixes : List String}
    (ends : endsInAny v suffixes = true) :
    endsInAny (w ++ v) suffixes = true := by
  obtain ⟨suffix, mem, ends⟩ := endsInAny_iff.1 ends
  exact endsInAny_iff.2 ⟨suffix, mem, ends.trans (List.suffix_append w v)⟩

/-- A text does not end in a suffix that has another last character. -/
lemma endsIn_append_eq_false {c : Char} (h : suffix.toList.getLast?.any (· != c) = true) :
    endsIn (w ++ [c]) suffix = false := by
  obtain ⟨d, last, other⟩ : ∃ d, suffix.toList.getLast? = some d ∧ d ≠ c := by
    cases last : suffix.toList.getLast? with
    | none => simp [last] at h
    | some d => exact ⟨d, rfl, by simpa [last] using h⟩
  rw [← Bool.not_eq_true, endsIn_iff]
  intro ends
  obtain ⟨v, eq⟩ := List.getLast?_eq_some_iff.1 last
  rw [eq] at ends
  obtain ⟨u, same⟩ := ends
  rw [← List.append_assoc] at same
  exact other (List.cons.inj (List.append_inj' same rfl).2).1

lemma endsInAny_append_eq_false {c : Char} {suffixes : List String}
    (h : (suffixes.all fun suffix => suffix.toList.getLast?.any (· != c)) = true) :
    endsInAny (w ++ [c]) suffixes = false := by
  rw [endsInAny, List.any_eq_false]
  intro suffix mem
  rw [endsIn_append_eq_false (List.all_eq_true.1 h suffix mem)]
  exact Bool.false_ne_true

end EntityModel.Text
