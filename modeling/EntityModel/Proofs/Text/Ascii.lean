import EntityModel.Text.Casing
import Mathlib.Data.List.Basic

/-!
# ASCII text

In ASCII text a letter has one capital, and a capital has one lowercase letter wherever it stands.
-/

namespace EntityModel.Text

variable {c : Char} {cs ds : List Char}

def AllAscii (cs : List Char) : Prop := ∀ c ∈ cs, c.val < 0x80

instance (cs : List Char) : Decidable (AllAscii cs) :=
  List.decidableBAll (fun c : Char => c.val < 0x80) cs

lemma AllAscii.append (h : AllAscii cs) (h' : AllAscii ds) : AllAscii (cs ++ ds) :=
  List.forall_mem_append.2 ⟨h, h'⟩

/-- What is true of the first 128 characters is true of every ASCII character. -/
lemma of_ascii {P : Char → Prop} (all : ∀ n : Fin 128, P (Char.ofNat n)) (h : c.val < 0x80) :
    P c := by
  have this := all ⟨c.toNat, UInt32.lt_iff_toNat_lt.1 h⟩
  rwa [Char.ofNat_toNat] at this

/-- The two cases of an ASCII character are ASCII characters with the same lowercase. -/
lemma ascii_cases (h : c.val < 0x80) :
    c.toUpper.val < 0x80 ∧ c.toLower.val < 0x80 ∧ c.toUpper.toLower = c.toLower ∧
      c.toLower.toLower = c.toLower :=
  of_ascii (P := fun c => c.toUpper.val < 0x80 ∧ c.toLower.val < 0x80 ∧
    c.toUpper.toLower = c.toLower ∧ c.toLower.toLower = c.toLower) (by decide) h

lemma isLower_iff : c.isLower = true ↔ 'a'.val ≤ c.val ∧ c.val ≤ 'z'.val :=
  (Bool.and_eq_true_iff ..).trans (and_congr decide_eq_true_iff decide_eq_true_iff)

lemma ascii_of_isLower (letter : c.isLower = true) : c.val < 0x80 := by
  have high : c.val.toNat ≤ 122 := UInt32.le_iff_toNat_le.1 (isLower_iff.1 letter).2
  exact UInt32.lt_iff_toNat_lt.2 (Nat.lt_of_le_of_lt high (by decide))

lemma ascii_of_isUpper (capital : c.isUpper = true) : c.val < 0x80 := by
  have high : c.val.toNat ≤ 90 := UInt32.le_iff_toNat_le.1 (of_decide_eq_true capital).2
  exact UInt32.lt_iff_toNat_lt.2 (Nat.lt_of_le_of_lt high (by decide))

lemma ascii_of_isDigit (digit : c.isDigit = true) : c.val < 0x80 := by
  have high : c.val.toNat ≤ 57 :=
    UInt32.le_iff_toNat_le.1 (decide_eq_true_iff.1 (Bool.and_eq_true_iff.1 digit).2)
  exact UInt32.lt_iff_toNat_lt.2 (Nat.lt_of_le_of_lt high (by decide))

/-- ASCII characters are lowercased one by one. -/
lemma lowerAfter_of_allAscii (h : AllAscii cs) (afterCased : Bool) :
    lowerAfter afterCased cs = cs.map Char.toLower := by
  induction cs generalizing afterCased with
  | nil => rfl
  | cons c rest ih =>
    obtain ⟨ascii, others⟩ := List.forall_mem_cons.1 h
    have notSigma : c ≠ capitalSigma := fun same => absurd (same ▸ ascii) (by decide)
    rw [lowerAfter, ih others, beq_false_of_ne notSigma, lowerChar, if_pos ascii]
    rfl

lemma lowerChars_of_allAscii (h : AllAscii cs) : lowerChars cs = cs.map Char.toLower :=
  lowerAfter_of_allAscii h false

lemma lowercase_append_of_allAscii {s t : String} (h : AllAscii s.toList) (h' : AllAscii t.toList) :
    lowercase (s ++ t) = lowercase s ++ lowercase t := by
  have both : AllAscii (s ++ t).toList := String.toList_append ▸ h.append h'
  rw [lowercase, lowercase, lowercase, lowerChars_of_allAscii both, lowerChars_of_allAscii h,
    lowerChars_of_allAscii h', String.toList_append, List.map_append, String.ofList_append]

/-! ### Capitals -/

/-- An ASCII text that is another one up to capitals. -/
structure Respells (cs ds : List Char) : Prop where
  ascii : AllAscii cs
  lower : cs.map Char.toLower = ds.map Char.toLower

lemma Respells.append {cs' ds' : List Char} (h : Respells cs ds) (h' : Respells cs' ds') :
    Respells (cs ++ cs') (ds ++ ds') where
  ascii := h.ascii.append h'.ascii
  lower := by rw [List.map_append, List.map_append, h.lower, h'.lower]

lemma Respells.lowerChars_eq (h : Respells cs ds) (ascii : AllAscii ds) :
    lowerChars cs = lowerChars ds := by
  rw [lowerChars_of_allAscii h.ascii, lowerChars_of_allAscii ascii, h.lower]

lemma respells_toLower (h : AllAscii cs) : Respells (cs.map Char.toLower) cs where
  ascii := List.forall_mem_map.2 fun c mem => (ascii_cases (h c mem)).2.1
  lower := by
    rw [List.map_map]
    exact List.map_congr_left fun c mem => (ascii_cases (h c mem)).2.2.2

lemma respells_toUpper (h : c.val < 0x80) : Respells [c.toUpper] [c] where
  ascii := List.forall_mem_singleton.2 (ascii_cases h).1
  lower := by rw [List.map_singleton, List.map_singleton, (ascii_cases h).2.2.1]

/-- A word whose first letter is taken down spells the same word. -/
lemma respells_uncapitalized (h : Respells cs ds) : Respells (uncapitalized cs) ds := by
  cases cs with
  | nil => exact h
  | cons c rest =>
    obtain ⟨first, others⟩ := List.forall_mem_cons.1 h.ascii
    rw [uncapitalized, lowerChars_of_allAscii (List.forall_mem_singleton.2 first)]
    obtain ⟨-, ascii, -, lower⟩ := ascii_cases first
    refine ⟨List.forall_mem_cons.2 ⟨ascii, others⟩, ?_⟩
    rw [← h.lower, List.map_append, List.map_map, List.map_singleton, Function.comp_apply,
      lower]
    rfl

end EntityModel.Text
