import EntityModel.Json.Reader
import EntityModel.Json.Writer
import Mathlib.Tactic.Common

/-!
# Written strings are read back

Every character of a text is written in such a way that it is read back, whatever follows it: as
itself, by a letter after a backslash, by a 16-bit unit, or by two units that join to it.
-/

namespace EntityModel.Json

/-! ### Units -/

lemma hexValue?_hexDigit : ∀ n < 16, hexValue? (Text.hexDigit n) = some n := by decide

/-- The four digits of a unit are read as the unit. -/
lemma exists_unitEscape {n : Nat} (unit : n < 0x10000) :
    ∃ a b c d, unitEscape n = ['\\', 'u', a, b, c, d] ∧ hex4? a b c d = some n := by
  have digit (k : Nat) : hexValue? (Text.hexDigit (k % 16)) = some (k % 16) :=
    hexValue?_hexDigit _ (Nat.mod_lt _ (by decide))
  refine ⟨_, _, _, _, rfl, ?_⟩
  simp only [hex4?, digit, Option.bind_eq_bind, Option.bind_some, Option.pure_def]
  congr 1
  omega

/-- What is read when a character stands before what is read. -/
abbrev prepend (c : Char) : List Char × List Char → List Char × List Char :=
  fun (s, after) => (c :: s, after)

/-- A unit that is not the first of a surrogate pair is read alone. -/
lemma readString?_unitEscape {n : Nat} (unit : n < 0x10000) (single : n < 0xD800 ∨ 0xDC00 ≤ n)
    (rest : List Char) : readString? (unitEscape n ++ rest) =
      (readString? rest).map (prepend (Char.ofNat n)) := by
  obtain ⟨a, b, c, d, written, value⟩ := exists_unitEscape unit
  have alone (low : Nat) : joinSurrogates? n low = none := by
    simp [joinSurrogates?]
    omega
  rw [written]
  by_cases pair : ∃ e f g h more, rest = '\\' :: 'u' :: e :: f :: g :: h :: more
  · obtain ⟨e, f, g, h, more, rfl⟩ := pair
    have joined : (hex4? e f g h >>= joinSurrogates? n) = none := by
      cases hex4? e f g h with
      | none => rfl
      | some low => exact alone low
    change readString?
      ('\\' :: 'u' :: a :: b :: c :: d :: '\\' :: 'u' :: e :: f :: g :: h :: more) = _
    rw [readString?, value]
    simp only [Option.bind_eq_bind, Option.bind_some] at joined ⊢
    rw [joined]
    cases readString? ('\\' :: 'u' :: e :: f :: g :: h :: more) <;> rfl
  · change readString? ('\\' :: 'u' :: a :: b :: c :: d :: rest) = _
    rw [readString?, value]
    · cases readString? rest <;> rfl
    · intro e f g h more same
      exact pair ⟨e, f, g, h, more, same⟩

/-- The two units of a character beyond the 16-bit range are read together. -/
lemma readString?_surrogates {n : Nat} (range : n < 0x100000) (rest : List Char) :
    readString? (unitEscape (0xD800 + n / 0x400) ++ unitEscape (0xDC00 + n % 0x400) ++ rest) =
      (readString? rest).map (prepend (Char.ofNat (0x10000 + n))) := by
  obtain ⟨a, b, c, d, written, value⟩ := exists_unitEscape (n := 0xD800 + n / 0x400) (by omega)
  obtain ⟨e, f, g, h, written', value'⟩ := exists_unitEscape (n := 0xDC00 + n % 0x400) (by omega)
  have joined : joinSurrogates? (0xD800 + n / 0x400) (0xDC00 + n % 0x400) = some (0x10000 + n) := by
    have pair : (decide (0xD800 ≤ 0xD800 + n / 0x400) && decide (0xD800 + n / 0x400 < 0xDC00) &&
        decide (0xDC00 ≤ 0xDC00 + n % 0x400) && decide (0xDC00 + n % 0x400 < 0xE000)) = true := by
      simp
      omega
    rw [joinSurrogates?, if_pos pair]
    exact congrArg some (by omega)
  rw [written, written']
  change readString? ('\\' :: 'u' :: a :: b :: c :: d :: '\\' :: 'u' :: e :: f :: g :: h :: rest) =
    _
  rw [readString?, value, value']
  simp only [Option.bind_eq_bind, Option.bind_some, joined]
  cases readString? rest <;> rfl

/-! ### Characters -/

/-- A character is a code point. -/
lemma toNat_lt (c : Char) : c.toNat < 0x110000 := by
  rcases c.valid with low | high
  · simp only [Char.toNat]
    omega
  · exact high.2

/-- A character that a letter after a backslash stands for. -/
lemma readString?_short {c letter : Char} (stands : shortEscape? letter = some c)
    (rest : List Char) : readString? ('\\' :: letter :: rest) =
      (readString? rest).map (prepend c) := by
  have noUnit : letter ≠ 'u' := by
    rintro rfl
    simp [shortEscape?] at stands
  rw [readString?, stands]
  · cases readString? rest <;> rfl
  · exact fun _ _ _ _ _ _ _ _ _ isUnit => absurd isUnit noUnit
  · exact fun _ _ _ _ _ isUnit => absurd isUnit noUnit

/-- A plain character in a string is read as itself. -/
lemma readString?_plain {c : Char} (quote : c ≠ '"') (backslash : c ≠ '\\')
    (printable : 0x20 ≤ c.val) (rest : List Char) :
    readString? (c :: rest) = (readString? rest).map (prepend c) := by
  rw [readString?, if_neg (UInt32.not_lt.2 printable)]
  · cases readString? rest <;> rfl
  · exact quote
  · exact fun _ _ _ _ _ _ _ _ _ is => absurd is backslash
  · exact fun _ _ _ _ _ is => absurd is backslash
  · exact fun _ _ is => absurd is backslash

/-- A character is read back whatever follows it. -/
theorem readString?_stringChar (c : Char) (rest : List Char) :
    readString? (stringChar c ++ rest) = (readString? rest).map (prepend c) := by
  unfold stringChar
  split_ifs with quote backslash newLine carriage tab feed back plain unit
  · obtain rfl := eq_of_beq quote
    exact readString?_short rfl rest
  · obtain rfl := eq_of_beq backslash
    exact readString?_short rfl rest
  · obtain rfl := eq_of_beq newLine
    exact readString?_short rfl rest
  · obtain rfl := eq_of_beq carriage
    exact readString?_short rfl rest
  · obtain rfl := eq_of_beq tab
    exact readString?_short rfl rest
  · obtain rfl := eq_of_beq feed
    exact readString?_short rfl rest
  · obtain rfl := eq_of_beq back
    exact readString?_short rfl rest
  · simp only [Bool.and_eq_true, decide_eq_true_eq] at plain
    exact readString?_plain (by simpa using quote) (by simpa using backslash) plain.1 rest
  · have read := readString?_unitEscape (n := c.toNat) (by omega)
      (c.valid.imp_right fun high => by have := high.1; simp only [Char.toNat]; omega) rest
    rwa [Char.ofNat_toNat] at read
  · have range := toNat_lt c
    have read := readString?_surrogates (n := c.toNat - 0x10000) (by omega) rest
    rwa [show 0x10000 + (c.toNat - 0x10000) = c.toNat by omega, Char.ofNat_toNat] at read

/-- A text is read back up to its closing quote, whatever follows it. -/
theorem readString?_stringChars (cs rest : List Char) :
    readString? (cs.flatMap stringChar ++ '"' :: rest) = some (cs, rest) := by
  induction cs with
  | nil => rw [List.flatMap_nil, List.nil_append, readString?]
  | cons c cs ih => rw [List.flatMap_cons, List.append_assoc, readString?_stringChar, ih]; rfl

end EntityModel.Json
