import EntityModel.Proofs.Text.Ascii
import EntityModel.Text.Affix
import Mathlib.Data.Nat.Bitwise

/-!
# Lowercase text

The lowercase of a text is its own lowercase. The characters that are not their own lowercase are
the capitals of the case table; that no capital is made into another one is a fact about the whole
table, which is checked by adding up its code points as the bits of two numbers.
-/

namespace EntityModel.Text

/-- The character is its own lowercase, wherever it stands. -/
def IsLower (c : Char) : Prop := c ≠ capitalSigma ∧ lowerChar c = [c]

instance (c : Char) : Decidable (IsLower c) := inferInstanceAs (Decidable (_ ∧ _))

def AllLower (cs : List Char) : Prop := ∀ c ∈ cs, IsLower c

-- the characters of the list are tried, not those of the type
instance (cs : List Char) : Decidable (AllLower cs) := List.decidableBAll IsLower cs

lemma AllLower.append {cs ds : List Char} (h : AllLower cs) (h' : AllLower ds) :
    AllLower (cs ++ ds) :=
  List.forall_mem_append.2 ⟨h, h'⟩

lemma AllLower.dropEnd {cs : List Char} (h : AllLower cs) (n : Nat) : AllLower (dropEnd n cs) :=
  fun c mem => h c (List.mem_of_mem_take mem)

/-- Lowercase characters are their own lowercase. -/
lemma lowerAfter_eq_self {cs : List Char} (h : AllLower cs) (afterCased : Bool) :
    lowerAfter afterCased cs = cs := by
  induction cs generalizing afterCased with
  | nil => rfl
  | cons c rest ih =>
    obtain ⟨⟨notSigma, here⟩, others⟩ := List.forall_mem_cons.1 h
    have plain : (c == capitalSigma && afterCased && !startsCased rest) = false := by
      simp [notSigma]
    rw [lowerAfter, ih others, plain, here]
    rfl

/-- A text all in lowercase is its own lowercase. -/
lemma lowercase_eq_self {s : String} (h : AllLower s.toList) : lowercase s = s := by
  rw [lowercase, lowerChars, lowerAfter_eq_self h, String.ofList_toList]

/-! ### Sets of code points -/

def bitSet : List Nat → Nat
  | [] => 0
  | n :: rest => 1 <<< n ||| bitSet rest

/-- The bits that are set are those at the given places. -/
lemma testBit_bitSet {ns : List Nat} {i : Nat} : (bitSet ns).testBit i = true ↔ i ∈ ns := by
  induction ns with
  | nil => simp [bitSet]
  | cons n rest ih =>
    rw [bitSet, Nat.testBit_lor, Bool.or_eq_true, ih, List.mem_cons, Nat.one_shiftLeft,
      Nat.testBit_two_pow]
    simp [eq_comm]

/-- Sets without a common bit have no common number. -/
lemma not_mem_of_bitSet {ms ns : List Nat} (h : bitSet ms &&& bitSet ns = 0) {i : Nat}
    (mem : i ∈ ms) : i ∉ ns := by
  intro other
  have common : (bitSet ms &&& bitSet ns).testBit i = true := by
    rw [Nat.testBit_land, testBit_bitSet.2 mem, testBit_bitSet.2 other]
    rfl
  rw [h, Nat.zero_testBit] at common
  exact Bool.false_ne_true common

/-! ### The case table -/

namespace CaseRun

def codes (r : CaseRun) : List Nat := List.range' r.first ((r.last - r.first) / r.step + 1) r.step

/-- What the code points of a run are moved to. -/
def targets (r : CaseRun) : List Nat := r.codes.map fun (n : Nat) => (n + r.shift).toNat

/-- The characters that a run covers are among its code points. -/
lemma mem_codes {r : CaseRun} {n : Nat} (h : r.covers n = true) : n ∈ r.codes := by
  simp only [covers, Bool.and_eq_true, decide_eq_true_eq, beq_iff_eq] at h
  obtain ⟨⟨first, last⟩, step⟩ := h
  refine List.mem_range'.2 ⟨(n - r.first) / r.step, ?_, ?_⟩
  · exact Nat.lt_succ_of_le (Nat.div_le_div_right (Nat.sub_le_sub_right last _))
  · have whole := Nat.div_add_mod (n - r.first) r.step
    omega

end CaseRun

/-- The code points that are not their own lowercase: the ASCII capitals, the dotted capital i and
those of the table. -/
def capitals : List Nat := List.range' 65 26 ++ 0x130 :: lowerRuns.flatMap CaseRun.codes

/-- No character is made into a capital, and the capital sigma is one. -/
lemma capitals_spec : bitSet (lowerRuns.flatMap CaseRun.targets) &&& bitSet capitals = 0 ∧
    (bitSet capitals).testBit capitalSigma.toNat = true := by
  decide +kernel

/-- A character that is no capital is its own lowercase. -/
lemma isLower_of_not_mem {c : Char} (h : c.toNat ∉ capitals) : IsLower c := by
  have notSigma : c ≠ capitalSigma := fun same => h (same ▸ testBit_bitSet.1 capitals_spec.2)
  simp only [capitals, List.mem_append, List.mem_cons, not_or] at h
  obtain ⟨ascii, dotted, others⟩ := h
  refine ⟨notSigma, ?_⟩
  unfold lowerChar
  split_ifs with small isDotted isSigma
  · have notUpper : ¬ (c.val ≥ 'A'.val ∧ c.val ≤ 'Z'.val) := by
      rintro ⟨low, high⟩
      have low : 65 ≤ c.toNat := UInt32.le_iff_toNat_le.1 low
      have high : c.toNat ≤ 90 := UInt32.le_iff_toNat_le.1 high
      exact ascii (List.mem_range'_1.2 ⟨low, by omega⟩)
    have same : c.toLower = c := dif_neg notUpper
    rw [same]
  · exact absurd (congrArg Char.toNat (beq_iff_eq.1 isDotted)) dotted
  · exact absurd (beq_iff_eq.1 isSigma) notSigma
  · have uncovered : lowerRuns.find? (·.covers c.toNat) = none :=
      List.find?_eq_none.2 fun run mem covers =>
        others (List.mem_flatMap.2 ⟨run, mem, CaseRun.mem_codes covers⟩)
    rw [uncovered]

/-- The ASCII characters in lowercase are their own lowercase, and so are those that the conversion
puts in by name. -/
lemma isLower_named : (∀ n : Fin 128, IsLower (Char.ofNat n).toLower) ∧
    AllLower ['i', '\u0307', 'σ', 'ς'] := by
  decide +kernel

lemma isLower_toLower {c : Char} (h : c.val < 0x80) : IsLower c.toLower :=
  of_ascii (P := fun c => IsLower c.toLower) isLower_named.1 h

/-- A lowercase ASCII letter is its own lowercase. -/
lemma isLower_of_isLower {c : Char} (letter : c.isLower = true) : IsLower c := by
  have notUpper : ¬ (c.val ≥ 'A'.val ∧ c.val ≤ 'Z'.val) := by
    rintro ⟨-, high⟩
    have order : 'a'.val ≤ 'Z'.val := UInt32.le_trans (isLower_iff.1 letter).1 high
    exact absurd order (by decide)
  have same : c.toLower = c := dif_neg notUpper
  exact same ▸ isLower_toLower (ascii_of_isLower letter)

/-- A character shifted by a run for lowercase is its own lowercase. -/
lemma isLower_shiftChar {c : Char} {run : CaseRun} (mem : run ∈ lowerRuns)
    (covers : run.covers c.toNat = true) : IsLower (shiftChar c run.shift) := by
  have isTarget : (c.toNat + run.shift).toNat ∈ lowerRuns.flatMap CaseRun.targets :=
    List.mem_flatMap.2 ⟨run, mem, List.mem_map_of_mem (CaseRun.mem_codes covers)⟩
  have noCapital := not_mem_of_bitSet capitals_spec.1 isTarget
  unfold shiftChar
  by_cases valid : (c.toNat + run.shift).toNat.isValidChar
  · have same : Char.ofNat (c.toNat + run.shift).toNat = Char.ofNatAux _ valid := dif_pos valid
    rw [same]
    exact isLower_of_not_mem noCapital
  · -- a number that is no character stands for the one of code point zero
    have zero : Char.ofNat (c.toNat + run.shift).toNat = Char.ofNat 0 := dif_neg valid
    rw [zero]
    exact isLower_named.1 0

/-- The lowercase of a character is lowercase. -/
theorem isLower_of_mem_lowerChar {c d : Char} (mem : d ∈ lowerChar c) : IsLower d := by
  unfold lowerChar at mem
  split_ifs at mem with small isDotted isSigma
  · rw [List.mem_singleton.1 mem]
    exact isLower_toLower small
  · exact isLower_named.2 d (List.mem_append_left ['σ', 'ς'] mem)
  · rw [List.mem_singleton.1 mem]
    exact isLower_named.2 'σ' (by simp)
  · split at mem
    · rename_i run found
      have covers := List.find?_some found
      rw [List.mem_singleton.1 mem]
      exact isLower_shiftChar (List.mem_of_find?_eq_some found) covers
    · rename_i uncovered
      rw [List.mem_singleton.1 mem]
      refine ⟨by simpa using isSigma, ?_⟩
      rw [lowerChar, if_neg small, if_neg isDotted, if_neg isSigma, uncovered]

/-- What has been lowercased is in lowercase. -/
lemma allLower_lowerAfter (cs : List Char) (afterCased : Bool) :
    AllLower (lowerAfter afterCased cs) := by
  induction cs generalizing afterCased with
  | nil => exact fun c mem => absurd mem List.not_mem_nil
  | cons c rest ih =>
    rw [lowerAfter]
    refine AllLower.append ?_ (ih _)
    split_ifs
    · exact List.forall_mem_singleton.2 (isLower_named.2 'ς' (by simp))
    · exact fun d => isLower_of_mem_lowerChar

/-- The lowercase of a text is all in lowercase. -/
theorem allLower_lowercase (s : String) : AllLower (lowercase s).toList := by
  rw [lowercase, String.toList_ofList]
  exact allLower_lowerAfter _ _

/-! ### Length -/

/-- No character is dropped when it is lowercased. -/
lemma lowerChar_ne_nil (c : Char) : lowerChar c ≠ [] := by
  unfold lowerChar
  split_ifs
  · simp
  · simp
  · simp
  · split <;> simp

/-- Only the empty text has an empty lowercase. -/
lemma lowercase_eq_empty_iff {s : String} : lowercase s = "" ↔ s = "" := by
  constructor
  · intro empty
    have none : lowerAfter false s.toList = [] := by
      rw [← String.toList_ofList (l := lowerAfter false s.toList)]
      exact congrArg String.toList empty
    rw [← String.toList_inj]
    cases chars : s.toList with
    | nil => rfl
    | cons c rest =>
      rw [chars, lowerAfter, List.append_eq_nil_iff] at none
      have here := none.1
      split at here
      · exact absurd here (List.cons_ne_nil _ _)
      · exact absurd here (lowerChar_ne_nil c)
  · rintro rfl
    rfl

/-! ### ASCII -/

/-- The table moves code points to characters, of which only `k`, moved there from the sign of the
kelvin, is an ASCII character. -/
lemma targets_not_ascii : ∀ n ∈ lowerRuns.flatMap CaseRun.targets,
    n.isValidChar ∧ (n = 'k'.toNat ∨ 0x80 ≤ n) := by
  decide +kernel

/-- A run for lowercase leads into ASCII at one letter only. -/
lemma shiftChar_not_ascii {c : Char} {run : CaseRun} (mem : run ∈ lowerRuns)
    (covers : run.covers c.toNat = true) :
    shiftChar c run.shift = 'k' ∨ 0x80 ≤ (shiftChar c run.shift).toNat := by
  have isTarget : (c.toNat + run.shift).toNat ∈ lowerRuns.flatMap CaseRun.targets :=
    List.mem_flatMap.2 ⟨run, mem, List.mem_map_of_mem (CaseRun.mem_codes covers)⟩
  obtain ⟨valid, kelvin | other⟩ := targets_not_ascii _ isTarget
  · refine .inl ?_
    rw [shiftChar, kelvin]
    rfl
  · refine .inr ?_
    have same : Char.ofNat (c.toNat + run.shift).toNat = Char.ofNatAux _ valid := dif_pos valid
    rw [shiftChar, same]
    exact other

/-- What becomes an ASCII character other than `k` is one itself, if it is not the dotted capital
i. -/
lemma ascii_of_mem_lowerChar {c d : Char} (mem : d ∈ lowerChar c) (ascii : d.val < 0x80)
    (other : d ≠ 'k') :
    c.val < 0x80 ∨ c = 'İ' := by
  unfold lowerChar at mem
  split_ifs at mem with small isDotted isSigma
  · exact .inl small
  · exact .inr (beq_iff_eq.1 isDotted)
  · exact absurd (List.mem_singleton.1 mem ▸ ascii) (by decide)
  · split at mem
    · rename_i run found
      have covers := List.find?_some found
      rcases shiftChar_not_ascii (List.mem_of_find?_eq_some found) covers with kelvin | large
      · exact absurd ((List.mem_singleton.1 mem).trans kelvin) other
      · rw [← List.mem_singleton.1 mem] at large
        exact absurd (UInt32.lt_iff_toNat_lt.1 ascii) (Nat.not_lt.2 large)
    · exact .inl (List.mem_singleton.1 mem ▸ ascii)

/-- A text is an ASCII text if its lowercase is one without a `k`. -/
lemma allAscii_of_lowerAfter {cs : List Char} {afterCased : Bool}
    (ascii : AllAscii (lowerAfter afterCased cs)) (other : 'k' ∉ lowerAfter afterCased cs) :
    AllAscii cs := by
  induction cs generalizing afterCased with
  | nil => exact fun c mem => absurd mem List.not_mem_nil
  | cons c rest ih =>
    rw [lowerAfter] at ascii other
    obtain ⟨here, others⟩ := List.forall_mem_append.1 ascii
    obtain ⟨other, more⟩ := not_or.1 (fun mem => other (List.mem_append.2 mem))
    refine List.forall_mem_cons.2 ⟨?_, ih others more⟩
    split_ifs at here other
    · exact absurd (here 'ς' (List.mem_singleton_self _)) (by decide)
    · obtain ⟨d, mem⟩ := List.exists_mem_of_ne_nil _ (lowerChar_ne_nil c)
      rcases ascii_of_mem_lowerChar mem (here d mem) (fun kelvin => other (kelvin ▸ mem)) with
          small | rfl
      · exact small
      · exact absurd (here '\u0307' (by decide)) (by decide)

end EntityModel.Text
