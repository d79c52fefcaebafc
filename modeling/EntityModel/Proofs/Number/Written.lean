import EntityModel.Number.Reading
import EntityModel.Number.Shortest
import Mathlib.Algebra.Order.Field.Basic
import Mathlib.Tactic.FieldSimp
import Mathlib.Tactic.Ring

/-!
# Written decimals

The decimal that characters write, before it is rounded to a number. The form in which digits are
written, with a point or with an exponent, stands for just these digits.
-/

namespace EntityModel

/-- The rational number that digits and their power of ten stand for. -/
def Binary64.Digits.value (d : Digits) : ℚ := d.digits * 10 ^ d.exponent

namespace Number

open Text

/-! ### Runs of digits -/

/-- The number that decimal digits in ASCII write. -/
abbrev ofChars (cs : List Char) : Nat := Nat.ofDigitChars 10 cs 0

/-- Digits in ASCII have the values in their code points. -/
lemma decimalDigit?_of_isDigit {c : Char} (digit : c.isDigit = true) :
    decimalDigit? c = some (c.toNat - 0x30) := by
  simp only [Char.isDigit, Bool.and_eq_true, decide_eq_true_eq, ge_iff_le, UInt32.le_iff_toNat_le]
    at digit
  have range : (0x30 ≤ c.toNat && c.toNat ≤ 0x30 + 9) = true := by
    simpa using digit
  rw [decimalDigit?, digitZeros, List.find?_cons, range]
  rfl

lemma ne_underscore_of_isDigit {c : Char} (digit : c.isDigit = true) : c ≠ '_' := by
  rintro rfl
  exact absurd digit (by decide)

lemma ofDigits_map (cs : List Char) : ofDigits (cs.map fun c => c.toNat - 0x30) = ofChars cs := by
  rw [ofDigits, List.foldl_map]
  rfl

/-- What may follow the digits of a decimal: nothing, or its exponent. -/
def Follows (rest : List Char) : Prop := rest = [] ∨ ∃ more, rest = 'e' :: more

/-- A run of digits ends before anything that is neither a digit nor an underscore. -/
lemma digitRun_append {ds rest : List Char} (digits : ∀ c ∈ ds, c.isDigit = true)
    (stop : ∀ c more, rest = c :: more → decimalDigit? c = none ∧ c ≠ '_') :
    digitRun (ds ++ rest) = (ds.map fun c => c.toNat - 0x30, rest) := by
  induction ds with
  | nil =>
    cases rest with
    | nil => rfl
    | cons c more =>
      rw [List.nil_append, digitRun, (stop c more rfl).1]
      rfl
  | cons c ds ih =>
    obtain ⟨first, others⟩ := List.forall_mem_cons.1 digits
    have next : ∀ more, ds ++ rest ≠ '_' :: more := by
      intro more same
      cases ds with
      | nil => exact (stop _ more same).2 rfl
      | cons d ds =>
        exact ne_underscore_of_isDigit (others d List.mem_cons_self) (List.cons.inj same).1
    rw [List.cons_append, digitRun, decimalDigit?_of_isDigit first]
    dsimp only
    split
    · rename_i heq
      exact absurd heq (next _)
    · rw [ih others]
      rfl

lemma digitRun_of_follows {ds rest : List Char} (digits : ∀ c ∈ ds, c.isDigit = true)
    (follows : Follows rest) : digitRun (ds ++ rest) = (ds.map fun c => c.toNat - 0x30, rest) := by
  refine digitRun_append digits ?_
  rintro c more rfl
  obtain ⟨_, ⟨⟩⟩ := follows.resolve_left (List.cons_ne_nil c more)
  exact ⟨by decide, by decide⟩

/-! ### Decimals -/

def written? (cs : List Char) : Option Binary64.Digits := do
  let (whole, rest) := digitRun cs
  let (part, rest) := match rest with
    | '.' :: after => digitRun after
    | rest => ([], rest)
  if whole.isEmpty && part.isEmpty then none
  else
    let exponent ← readExponent? rest
    return ⟨ofDigits (whole ++ part), exponent - part.length⟩

/-- A number is read as the decimal that is written, rounded. -/
theorem readDecimal?_eq (negative : Bool) (cs : List Char) :
    readDecimal? negative cs =
      (written? cs).map fun d => .ofDecimal negative d.digits d.exponent := by
  have same (whole part : List Nat) (rest : List Char) :
      (if whole.isEmpty && part.isEmpty then none
        else do
          let exponent ← readExponent? rest
          return Binary64.ofDecimal negative (ofDigits (whole ++ part)) (exponent - part.length)) =
      (if whole.isEmpty && part.isEmpty then none
        else do
          let exponent ← readExponent? rest
          return Binary64.Digits.mk (ofDigits (whole ++ part)) (exponent - part.length)).map
        fun d => Binary64.ofDecimal negative d.digits d.exponent := by
    split_ifs
    · rfl
    · cases readExponent? rest <;> rfl
  exact same _ _ _

/-- Digits with a point or an exponent are read as the decimal that they write. -/
lemma written?_append {whole part rest : List Char} {exponent : Int}
    (digits : ∀ c ∈ whole, c.isDigit = true) (digits' : ∀ c ∈ part, c.isDigit = true)
    (some : whole ≠ []) (follows : Follows rest) (read : readExponent? rest = .some exponent) :
    written? (whole ++ (if part.isEmpty then [] else '.' :: part) ++ rest) =
      .some ⟨ofChars (whole ++ part), exponent - part.length⟩ := by
  have wholeGiven : (whole.map fun c => c.toNat - 0x30).isEmpty = false := by
    cases whole with
    | nil => exact absurd rfl some
    | cons c cs => rfl
  unfold written?
  cases part with
  | nil =>
    have run := digitRun_of_follows digits follows
    rw [List.isEmpty_nil, if_pos rfl, List.append_nil, run, ← ofDigits_map]
    rcases follows with rfl | ⟨more, rfl⟩ <;> simp [wholeGiven, read]
  | cons c cs =>
    have run : digitRun (whole ++ '.' :: (c :: cs ++ rest)) =
        (whole.map fun c => c.toNat - 0x30, '.' :: (c :: cs ++ rest)) := by
      refine digitRun_append digits ?_
      rintro _ _ ⟨⟩
      exact ⟨by decide, by decide⟩
    have after := digitRun_of_follows digits' follows
    rw [List.isEmpty_cons, if_neg Bool.false_ne_true, List.append_assoc, List.cons_append, run,
      ← ofDigits_map, List.map_append]
    simp only [after, wholeGiven, Bool.false_and, read]
    simp

/-- The power of ten that is written after a sign. -/
lemma readExponent?_signed {ds : List Char} {power : Int} (digits : ∀ c ∈ ds, c.isDigit = true)
    (some : ds ≠ []) (value : ofChars ds = power.natAbs) :
    readExponent? ('e' :: (if power < 0 then '-' else '+') :: ds) = .some power := by
  have run : digitRun ds = (ds.map fun c => c.toNat - 0x30, []) := by
    have all := digitRun_of_follows digits (.inl rfl)
    rwa [List.append_nil] at all
  have known := ofDigits_map ds
  cases ds with
  | nil => exact absurd rfl some
  | cons c cs =>
    rw [List.map_cons] at run known
    by_cases negative : power < 0
    · rw [if_pos negative]
      simp [readExponent?, signed, run, known, value, abs_of_neg negative]
    · rw [if_neg negative]
      simp [readExponent?, signed, run, known, value, abs_of_nonneg (not_lt.1 negative)]

lemma written?_point {whole part : List Char} (digits : ∀ c ∈ whole, c.isDigit = true)
    (digits' : ∀ c ∈ part, c.isDigit = true) (some : whole ≠ []) (some' : part ≠ []) :
    written? (whole ++ '.' :: part) = .some ⟨ofChars (whole ++ part), -part.length⟩ := by
  have read := written?_append digits digits' some (.inl rfl) rfl
  simpa [some'] using read

end Number

/-! ### The written form of digits -/

namespace Binary64

open Number

/-- Digits that count a power of ten, with a point or with an exponent. -/
def placed (digits : List Char) (exponent : Int) : List Char :=
  let point : Int := digits.length + exponent
  if -4 < point && point ≤ 16 then
    if point ≤ 0 then '0' :: '.' :: List.replicate (-point).toNat '0' ++ digits
    else if digits.length ≤ point.toNat then
      digits ++ List.replicate (point.toNat - digits.length) '0' ++ ['.', '0']
    else digits.take point.toNat ++ '.' :: digits.drop point.toNat
  else
    let head := digits.take 1 ++ (if digits.length ≤ 1 then [] else '.' :: digits.drop 1)
    let power := point - 1
    let width := Nat.toDigits 10 power.natAbs
    head ++ ['e', if power < 0 then '-' else '+'] ++
      (if width.length < 2 then '0' :: width else width)

lemma positional_eq (d : Digits) : positional d =
    placed (withoutTrailingZeros (Nat.toDigits 10 d.digits) d.exponent).1
      (withoutTrailingZeros (Nat.toDigits 10 d.digits) d.exponent).2 := rfl

lemma value_eq_of_shift {n m : Nat} {x y : Int} (shift : Nat) (digits : n = m * 10 ^ shift)
    (exponent : x = y + shift) : (⟨n, y⟩ : Digits).value = (⟨m, x⟩ : Digits).value := by
  have ten : (10 : ℚ) ≠ 0 := by norm_num
  rw [Digits.value, Digits.value, digits, exponent, zpow_add₀ ten, zpow_natCast]
  push_cast
  ring

lemma isDigit_of_mem_replicate {n : Nat} : ∀ c ∈ List.replicate n '0', c.isDigit = true := by
  intro c mem
  rw [List.eq_of_mem_replicate mem]
  decide

lemma ofChars_append_zeros (ds : List Char) (n : Nat) :
    ofChars (ds ++ List.replicate n '0') = ofChars ds * 10 ^ n := by
  rw [ofChars, Nat.ofDigitChars_append, Nat.ofDigitChars_replicate_zero, mul_comm]

lemma ofChars_zeros_append (ds : List Char) (n : Nat) :
    ofChars (List.replicate n '0' ++ ds) = ofChars ds := by
  rw [ofChars, Nat.ofDigitChars_append, Nat.ofDigitChars_replicate_zero, mul_zero]

/-- The exponent has two digits at least. -/
lemma width_spec (n : Nat) :
    let width := Nat.toDigits 10 n
    let padded := if width.length < 2 then '0' :: width else width
    (∀ c ∈ padded, c.isDigit = true) ∧ padded ≠ [] ∧ ofChars padded = n := by
  have digits : ∀ c ∈ Nat.toDigits 10 n, c.isDigit = true := fun c mem =>
    Nat.isDigit_of_mem_toDigits (by decide) (by decide) mem
  have value : ofChars (Nat.toDigits 10 n) = n := Nat.ofDigitChars_ten_toDigits
  dsimp only
  split_ifs
  · exact ⟨List.forall_mem_cons.2 ⟨by decide, digits⟩, List.cons_ne_nil _ _, value⟩
  · exact ⟨digits, Nat.toDigits_ne_nil, value⟩

/-- How digits that count a power of ten are laid out: with a point before the last of them, or with
a power of ten after them. -/
inductive Layout (ds : List Char) (exponent : Int) : List Char → Prop
  | point {whole part : List Char} (shift : Nat) (digits : ∀ c ∈ whole, c.isDigit = true)
      (digits' : ∀ c ∈ part, c.isDigit = true) (some : whole ≠ []) (some' : part ≠ [])
      (count : ofChars (whole ++ part) = ofChars ds * 10 ^ shift)
      (place : exponent = -part.length + shift) : Layout ds exponent (whole ++ '.' :: part)
  | power {whole part width : List Char} (power : Int) (digits : ∀ c ∈ whole, c.isDigit = true)
      (digits' : ∀ c ∈ part, c.isDigit = true) (some : whole ≠ [])
      (count : whole ++ part = ds) (place : exponent = power - part.length)
      (widthDigits : ∀ c ∈ width, c.isDigit = true) (widthSome : width ≠ [])
      (widthCount : ofChars width = power.natAbs) :
      Layout ds exponent (whole ++ (if part.isEmpty then [] else '.' :: part) ++
        'e' :: (if power < 0 then '-' else '+') :: width)

section

variable {ds : List Char} {exponent : Int} (digits : ∀ c ∈ ds, c.isDigit = true) (some : ds ≠ [])

include digits some

/-- Zeros stand between the point and the digits. -/
lemma layout_zeros_append (leading : (ds.length : Int) + exponent ≤ 0) : Layout ds exponent
    ('0' :: '.' :: List.replicate (-((ds.length : Int) + exponent)).toNat '0' ++ ds) := by
  have zero : ∀ c ∈ ['0'], c.isDigit = true := List.forall_mem_singleton.2 rfl
  refine .point 0 zero (List.forall_mem_append.2 ⟨isDigit_of_mem_replicate, digits⟩)
    (List.cons_ne_nil _ _) (List.append_ne_nil_of_right_ne_nil _ some) ?_ ?_
  · rw [pow_zero, mul_one]
    exact ofChars_zeros_append ds (_ + 1)
  · simp only [List.append_eq, List.length_append, List.length_replicate]
    omega

/-- Zeros stand between the digits and the point. -/
lemma layout_append_zeros (whole : ds.length ≤ ((ds.length : Int) + exponent).toNat)
    (inside : 0 < (ds.length : Int) + exponent) : Layout ds exponent
    (ds ++ List.replicate (((ds.length : Int) + exponent).toNat - ds.length) '0' ++
      ['.', '0']) := by
  have zero : ∀ c ∈ ['0'], c.isDigit = true := List.forall_mem_singleton.2 rfl
  refine .point (((ds.length : Int) + exponent).toNat - ds.length + 1)
    (List.forall_mem_append.2 ⟨digits, isDigit_of_mem_replicate⟩) zero
    (List.append_ne_nil_of_left_ne_nil some _) (List.cons_ne_nil _ _) ?_ ?_
  · rw [List.append_assoc, ← List.replicate_succ']
    exact ofChars_append_zeros ds _
  · rw [List.length_singleton]
    omega

/-- The point stands between digits. -/
lemma layout_take_drop (within : ((ds.length : Int) + exponent).toNat < ds.length)
    (inside : 0 < (ds.length : Int) + exponent) : Layout ds exponent
    (ds.take ((ds.length : Int) + exponent).toNat ++
      '.' :: ds.drop ((ds.length : Int) + exponent).toNat) := by
  have length : 0 < ds.length := List.length_pos_iff.2 some
  refine .point 0 (fun c mem => digits c (List.mem_of_mem_take mem))
    (fun c mem => digits c (List.mem_of_mem_drop mem)) ?_ ?_ ?_ ?_
  · rw [← List.length_pos_iff, List.length_take]
    omega
  · rw [← List.length_pos_iff, List.length_drop]
    omega
  · rw [List.take_append_drop, pow_zero, mul_one]
  · rw [List.length_drop]
    omega

/-- The point stands after the first digit, if there are others, and an exponent after the last
one. -/
lemma layout_power : Layout ds exponent
    (ds.take 1 ++ (if ds.length ≤ 1 then [] else '.' :: ds.drop 1) ++
      ['e', if (ds.length : Int) + exponent - 1 < 0 then '-' else '+'] ++
      (if (Nat.toDigits 10 ((ds.length : Int) + exponent - 1).natAbs).length < 2 then
        '0' :: Nat.toDigits 10 ((ds.length : Int) + exponent - 1).natAbs
      else Nat.toDigits 10 ((ds.length : Int) + exponent - 1).natAbs)) := by
  have length : 0 < ds.length := List.length_pos_iff.2 some
  obtain ⟨widthDigits, widthSome, widthCount⟩ :=
    width_spec ((ds.length : Int) + exponent - 1).natAbs
  have head : (if ds.length ≤ 1 then [] else '.' :: ds.drop 1) =
      if (ds.drop 1).isEmpty then [] else '.' :: ds.drop 1 := by
    rcases ds with _ | ⟨c, _ | ⟨c', cs⟩⟩ <;> simp
  rw [head, List.append_assoc]
  refine .power _ (fun c mem => digits c (List.mem_of_mem_take mem))
    (fun c mem => digits c (List.mem_of_mem_drop mem)) ?_ (List.take_append_drop 1 ds) ?_
    widthDigits widthSome widthCount
  · rw [← List.length_pos_iff, List.length_take]
    omega
  · rw [List.length_drop]
    omega

/-- Each of the four forms that digits take is one of the two layouts. -/
lemma layout_placed (exponent : Int) : Layout ds exponent (placed ds exponent) := by
  unfold placed
  dsimp only
  by_cases near : (-4 < (ds.length : Int) + exponent && (ds.length : Int) + exponent ≤ 16) = true
  · rw [if_pos near]
    by_cases leading : (ds.length : Int) + exponent ≤ 0
    · rw [if_pos leading]
      exact layout_zeros_append digits some leading
    · rw [if_neg leading]
      by_cases whole : ds.length ≤ ((ds.length : Int) + exponent).toNat
      · rw [if_pos whole]
        exact layout_append_zeros digits some whole (not_le.1 leading)
      · rw [if_neg whole]
        exact layout_take_drop digits some (not_le.1 whole) (not_le.1 leading)
  · rw [if_neg near]
    exact layout_power digits some

end

/-- Whatever their layout, the digits stand for the same number. -/
lemma Layout.written? {ds cs : List Char} {exponent : Int} (h : Layout ds exponent cs) :
    ∃ w, Number.written? cs = .some w ∧ w.value = (⟨ofChars ds, exponent⟩ : Digits).value := by
  cases h with
  | point shift digits digits' some some' count place =>
    exact ⟨_, written?_point digits digits' some some', value_eq_of_shift shift count place⟩
  | power power digits digits' some count place widthDigits widthSome widthCount =>
    refine ⟨_, written?_append digits digits' some (.inr ⟨_, rfl⟩)
      (readExponent?_signed widthDigits widthSome widthCount), ?_⟩
    rw [count, place]

/-- The digits that are dropped are zeros, and the exponent counts them. -/
lemma withoutTrailingZeros_spec (digits : List Char) (exponent : Int) :
    ∃ zeros : Nat,
      digits = (withoutTrailingZeros digits exponent).1 ++ List.replicate zeros '0' ∧
      (withoutTrailingZeros digits exponent).2 = exponent + zeros := by
  have parts := List.takeWhile_append_dropWhile (p := (· == '0')) (l := digits.reverse)
  have zeros : digits.reverse.takeWhile (· == '0') =
      List.replicate (digits.reverse.takeWhile (· == '0')).length '0' := by
    rw [List.eq_replicate_iff]
    exact ⟨rfl, fun c mem => eq_of_beq (List.all_eq_true.1 List.all_takeWhile c mem)⟩
  have whole : digits = (digits.reverse.dropWhile (· == '0')).reverse ++
      List.replicate (digits.reverse.takeWhile (· == '0')).length '0' := by
    rw [← List.reverse_replicate, ← zeros, ← List.reverse_append, parts, List.reverse_reverse]
  refine ⟨_, whole, ?_⟩
  have length := congrArg List.length whole
  rw [List.length_append, List.length_replicate] at length
  rw [withoutTrailingZeros]
  dsimp only
  rw [length]
  simp

/-- The written form of digits is a layout of digits that stand for the same number. -/
theorem layout_positional {d : Digits} (nonzero : d.digits ≠ 0) :
    ∃ ds exponent, Layout ds exponent (positional d) ∧
      d.value = (⟨ofChars ds, exponent⟩ : Digits).value := by
  obtain ⟨zeros, whole, exponent⟩ :=
    withoutTrailingZeros_spec (Nat.toDigits 10 d.digits) d.exponent
  rw [positional_eq]
  generalize withoutTrailingZeros (Nat.toDigits 10 d.digits) d.exponent = kept at *
  obtain ⟨ds, x⟩ := kept
  have digits : ∀ c ∈ ds, c.isDigit = true := fun c mem =>
    Nat.isDigit_of_mem_toDigits (b := 10) (n := d.digits) (by decide) (by decide)
      (whole ▸ List.mem_append_left _ mem)
  have value : d.digits = ofChars ds * 10 ^ zeros := by
    rw [← ofChars_append_zeros, ← whole]
    exact Nat.ofDigitChars_ten_toDigits.symm
  have some : ds ≠ [] := by
    rintro rfl
    exact nonzero (value.trans (Nat.zero_mul _))
  exact ⟨ds, x, layout_placed digits some x, value_eq_of_shift zeros value exponent⟩

/-- The written form of digits stands for the number that they stand for. -/
theorem written?_positional {d : Digits} (nonzero : d.digits ≠ 0) :
    ∃ w, written? (positional d) = .some w ∧ w.value = d.value := by
  obtain ⟨ds, exponent, layout, value⟩ := layout_positional nonzero
  obtain ⟨w, read, same⟩ := layout.written?
  exact ⟨w, read, same.trans value.symm⟩

/-! ### The characters of a written form -/

/-- A character of a written number: a digit, a sign, the point or the mark of an exponent. -/
def IsNumeric (c : Char) : Prop := c.isDigit = true ∨ c ∈ ['-', '+', '.', 'e']

instance : DecidablePred IsNumeric := fun c =>
  inferInstanceAs (Decidable (c.isDigit = true ∨ c ∈ ['-', '+', '.', 'e']))

/-- Every layout consists of characters of numbers. -/
lemma Layout.isNumeric {ds cs : List Char} {exponent : Int} (h : Layout ds exponent cs) :
    ∀ c ∈ cs, IsNumeric c := by
  have numeric {cs : List Char} (digits : ∀ c ∈ cs, c.isDigit = true) : ∀ c ∈ cs, IsNumeric c :=
    fun c mem => .inl (digits c mem)
  have point : IsNumeric '.' := .inr (by decide)
  have mark : IsNumeric 'e' := .inr (by decide)
  cases h with
  | point shift digits digits' =>
    exact List.forall_mem_append.2
      ⟨numeric digits, List.forall_mem_cons.2 ⟨point, numeric digits'⟩⟩
  | @power whole part width power digits digits' _ _ _ widthDigits =>
    have fraction : ∀ c ∈ if part.isEmpty then [] else '.' :: part, IsNumeric c := by
      split
      · exact List.forall_mem_nil _
      · exact List.forall_mem_cons.2 ⟨point, numeric digits'⟩
    have sign : IsNumeric (if power < 0 then '-' else '+') := by
      split <;> exact .inr (by decide)
    exact List.forall_mem_append.2 ⟨List.forall_mem_append.2 ⟨numeric digits, fraction⟩,
      List.forall_mem_cons.2 ⟨mark, List.forall_mem_cons.2 ⟨sign, numeric widthDigits⟩⟩⟩

lemma Layout.mem {ds cs : List Char} {exponent : Int} (h : Layout ds exponent cs) :
    '.' ∈ cs ∨ 'e' ∈ cs := by
  cases h with
  | point => exact .inl (by simp)
  | power => exact .inr (by simp)

/-- A digit stands before everything else. -/
lemma Layout.exists_digit {ds cs : List Char} {exponent : Int} (h : Layout ds exponent cs) :
    ∃ c rest, cs = c :: rest ∧ c.isDigit = true := by
  cases h with
  | point shift digits _ some =>
    obtain ⟨c, rest, rfl⟩ := List.exists_cons_of_ne_nil some
    exact ⟨c, _, rfl, digits c List.mem_cons_self⟩
  | power power digits _ some =>
    obtain ⟨c, rest, rfl⟩ := List.exists_cons_of_ne_nil some
    exact ⟨c, _, rfl, digits c List.mem_cons_self⟩

lemma exists_digit_positional {d : Digits} (nonzero : d.digits ≠ 0) :
    ∃ c rest, positional d = c :: rest ∧ c.isDigit = true := by
  obtain ⟨ds, exponent, layout, -⟩ := layout_positional nonzero
  exact layout.exists_digit

/-- Only characters of numbers stand in a written form, and a point or an exponent tells it from a
whole number. -/
lemma isNumeric_positional {d : Digits} (nonzero : d.digits ≠ 0) :
    (∀ c ∈ positional d, IsNumeric c) ∧ ('.' ∈ positional d ∨ 'e' ∈ positional d) := by
  obtain ⟨ds, exponent, layout, -⟩ := layout_positional nonzero
  exact ⟨layout.isNumeric, layout.mem⟩

end Binary64

end EntityModel
