import EntityModel.Naming.Identifier
import EntityModel.Proofs.Text.Ascii

/-!
# Identifiers for keys

A key that can be an identifier of the generated code is kept, and any other key is made into one,
but for the keys that look like an identifier with a line end behind it: such a key is kept with its
line end, which stands in no identifier (`Naming.toSafeIdentifier_isIdentifier_iff`).
-/

namespace EntityModel.Naming

open Text

variable {c : Char} {cs : List Char} {key : String}

/-! ### Identifiers -/

/-- Letters, digits and underscores of ASCII, at least one of them, of which the first is no
digit. -/
structure IsShaped (cs : List Char) : Prop where
  nonempty : cs ≠ []
  plain : ∀ c ∈ cs, isTailChar c = true
  opened : ∀ c ∈ cs.head?, c.isDigit = false

/-- An identifier of the generated code. -/
structure IsIdentifier (cs : List Char) : Prop extends IsShaped cs where
  free : isReserved cs = false

/-- The first character of an identifier may be any that follows but a digit. -/
lemma isHeadChar_iff : isHeadChar c = true ↔ isTailChar c = true ∧ c.isDigit = false := by
  have notBoth (digit : c.isDigit = true) : isHeadChar c = false :=
    of_ascii (P := fun c => c.isDigit = true → isHeadChar c = false) (by decide)
    (ascii_of_isDigit digit) digit
  cases digit : c.isDigit
  · simp [isHeadChar, isTailChar, Char.isAlphanum, digit]
  · simp [notBoth digit]

/-- The shape of an identifier is what is asked for before a line end. -/
lemma isShaped_iff : IsShaped cs ↔
    (match cs with
      | [] => false
      | c :: rest => isHeadChar c && rest.all isTailChar) = true := by
  cases cs with
  | nil => exact ⟨fun shaped => absurd rfl shaped.nonempty, fun no => absurd no Bool.false_ne_true⟩
  | cons c rest =>
    simp only [Bool.and_eq_true, List.all_eq_true, isHeadChar_iff]
    constructor
    · rintro ⟨-, plain, opened⟩
      obtain ⟨first, others⟩ := List.forall_mem_cons.1 plain
      exact ⟨⟨first, opened c rfl⟩, others⟩
    · rintro ⟨⟨first, notDigit⟩, others⟩
      refine ⟨List.cons_ne_nil _ _, List.forall_mem_cons.2 ⟨first, others⟩, ?_⟩
      rintro _ ⟨⟩
      exact notDigit

/-- A text with the shape of an identifier and a line end behind it. -/
def EndsLine (cs : List Char) : Prop := ∃ word, IsShaped word ∧ cs = word ++ ['\n']

lemma IsShaped.not_endsLine (shaped : IsShaped cs) : ¬ EndsLine cs := by
  rintro ⟨word, -, rfl⟩
  have plain := shaped.plain '\n' (List.mem_append_right word (List.mem_singleton_self _))
  exact absurd plain (by decide)

/-- A name of identifier shape is one, or it is one before the end of a line. -/
lemma isIdentifierShaped_iff : isIdentifierShaped cs = true ↔ IsShaped cs ∨ EndsLine cs := by
  unfold isIdentifierShaped
  dsimp only
  split_ifs with lineEnd
  · refine isShaped_iff.symm.trans ?_
    obtain ⟨word, rfl⟩ := List.getLast?_eq_some_iff.1 (beq_iff_eq.1 lineEnd)
    have here : EndsLine (word ++ ['\n']) ↔ IsShaped word := by
      constructor
      · rintro ⟨other, shaped, same⟩
        rwa [List.append_cancel_right same]
      · intro shaped
        exact ⟨word, shaped, rfl⟩
    have notShaped : ¬ IsShaped (word ++ ['\n']) := fun shaped =>
      absurd (shaped.plain '\n' (by simp)) (by decide)
    rw [List.dropLast_concat, here, or_iff_right notShaped]
  · refine isShaped_iff.symm.trans (or_iff_left ?_).symm
    rintro ⟨word, -, rfl⟩
    simp at lineEnd

/-! ### Reserved words -/

/-- No reserved word has a character that does not stand in one. -/
lemma isReserved_eq_false (mem : c ∈ cs) (other : ∀ word ∈ reservedWords, c ∉ word.toList) :
    isReserved cs = false := by
  rw [isReserved, ← Bool.not_eq_true, List.contains_iff_mem]
  intro isWord
  have absent := other _ isWord
  rw [String.toList_ofList] at absent
  exact absent mem

lemma isReserved_cons_underscore (cs : List Char) : isReserved ('_' :: cs) = false :=
  isReserved_eq_false List.mem_cons_self (by decide)

lemma EndsLine.isReserved (ends : EndsLine cs) : isReserved cs = false := by
  obtain ⟨word, -, rfl⟩ := ends
  exact isReserved_eq_false (List.mem_append_right word (List.mem_singleton_self '\n')) (by decide)

/-! ### The identifier for a key -/

lemma isTailChar_of_mem_camelIdentifier (mem : c ∈ camelIdentifier cs) : isTailChar c = true :=
  (List.mem_filter.1 mem).2

def madeIdentifier (cs : List Char) : List Char :=
  let camel := camelIdentifier cs
  if camel.isEmpty || (camel.headD '_').isDigit || isReserved camel then '_' :: camel else camel

/-- The identifier that is made for a key is one. -/
lemma isIdentifier_madeIdentifier (cs : List Char) : IsIdentifier (madeIdentifier cs) := by
  have plain : ∀ c ∈ camelIdentifier cs, isTailChar c = true :=
    fun c => isTailChar_of_mem_camelIdentifier
  unfold madeIdentifier
  generalize camelIdentifier cs = camel at plain
  dsimp only
  split_ifs with unfit
  · refine ⟨⟨List.cons_ne_nil _ _, List.forall_mem_cons.2 ⟨by decide, plain⟩, ?_⟩, ?_⟩
    · rintro _ ⟨⟩
      decide
    · exact isReserved_cons_underscore camel
  · simp only [Bool.or_eq_true, not_or, Bool.not_eq_true] at unfit
    obtain ⟨⟨nonempty, opened⟩, free⟩ := unfit
    refine ⟨⟨List.isEmpty_eq_false_iff.1 nonempty, plain, ?_⟩, free⟩
    intro c first
    rwa [List.headD_eq_head?_getD, first] at opened

lemma toSafeIdentifier_eq (key : String) : toSafeIdentifier key =
    if isIdentifierShaped key.toList && !isReserved key.toList then key
    else String.ofList (madeIdentifier key.toList) := by
  unfold toSafeIdentifier madeIdentifier
  dsimp only
  split_ifs <;> rfl

/-- A key that is kept can be an identifier, or would but for a line end behind it. -/
lemma isKept_iff : (isIdentifierShaped cs && !isReserved cs) = true ↔
    IsIdentifier cs ∨ EndsLine cs := by
  rw [Bool.and_eq_true, isIdentifierShaped_iff, Bool.not_eq_true']
  constructor
  · rintro ⟨shaped | ends, free⟩
    · exact .inl ⟨shaped, free⟩
    · exact .inr ends
  · rintro (isIdentifier | ends)
    · exact ⟨.inl isIdentifier.toIsShaped, isIdentifier.free⟩
    · exact ⟨.inr ends, ends.isReserved⟩

/-- The identifier for a key is one just if the key is not of the shape of an identifier with a line
end behind it. A key is kept just if it can be an identifier or is of this shape. -/
theorem toSafeIdentifier_isIdentifier_iff (key : String) :
    (IsIdentifier (toSafeIdentifier key).toList ↔ ¬ EndsLine key.toList) ∧
      (toSafeIdentifier key = key ↔ IsIdentifier key.toList ∨ EndsLine key.toList) := by
  rw [toSafeIdentifier_eq]
  by_cases kept : (isIdentifierShaped key.toList && !isReserved key.toList) = true
  · rw [if_pos kept]
    have shape := isKept_iff.1 kept
    refine ⟨⟨fun isIdentifier => isIdentifier.toIsShaped.not_endsLine, fun clear => ?_⟩, ?_⟩
    · exact shape.resolve_right clear
    · exact iff_of_true rfl shape
  · rw [if_neg kept, String.toList_ofList]
    have made := isIdentifier_madeIdentifier key.toList
    have unfit := mt isKept_iff.2 kept
    refine ⟨iff_of_true made (not_or.1 unfit).2, iff_of_false (fun same => ?_) unfit⟩
    rw [← String.toList_ofList (l := madeIdentifier key.toList), same] at made
    exact unfit (.inl made)

/-- A key that names a column and ends in a line end is kept with it. -/
theorem toSafeIdentifier_lineEnd :
    toSafeIdentifier "title\n" = "title\n" ∧
    ¬ IsIdentifier (toSafeIdentifier "title\n").toList := by
  constructor
  · rfl
  · rintro ⟨⟨-, plain, -⟩, -⟩
    exact absurd (plain '\n' (by decide)) (by decide)

end EntityModel.Naming
