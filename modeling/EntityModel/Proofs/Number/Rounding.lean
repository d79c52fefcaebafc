import EntityModel.Proofs.Number.Shortest

/-!
# Rounding

A ratio is rounded to the one normal number in whose neighbourhood it lies, whatever the estimate of
the exponent, and so is a decimal, also where it is answered without writing its power of ten out.
What is written for a number lies in its neighbourhood, hence every number of 64 bits is read back
from its written form.
-/

namespace EntityModel.Binary64

variable {m m' : Nat} {e e' : Int} {negative : Bool}

/-! ### The nearest whole number -/

/-- A whole number nearest to a rational. It is even where the rational lies halfway between two of
them. -/
structure IsNearest (n : Nat) (x : ℚ) : Prop where
  low : (n : ℚ) - 1 / 2 ≤ x
  high : x ≤ n + 1 / 2
  strict : n % 2 = 1 → (n : ℚ) - 1 / 2 < x ∧ x < n + 1 / 2

/-- A quotient is rounded to the nearest whole number, from a half to the even one. -/
lemma isNearest_roundHalfEven (num : Nat) {den : Nat} (pos : 0 < den) :
    IsNearest (roundHalfEven num den) (num / den) := by
  have den_pos : (0 : ℚ) < den := by exact_mod_cast pos
  have parts : (num : ℚ) = den * (num / den : Nat) + (num % den : Nat) := by
    exact_mod_cast (Nat.div_add_mod num den).symm
  have quotient : (num : ℚ) / den = (num / den : Nat) + (num % den : Nat) / den := by
    rw [div_eq_iff den_pos.ne', add_mul, div_mul_cancel₀ _ den_pos.ne', mul_comm]
    exact parts
  have less : ((num % den : Nat) : ℚ) / den < 1 := by
    rw [div_lt_one den_pos]
    exact_mod_cast Nat.mod_lt num pos
  have nonneg : (0 : ℚ) ≤ (num % den : Nat) / den := by positivity
  have next : ((num / den + 1 : Nat) : ℚ) = (num / den : Nat) + 1 := Nat.cast_succ _
  rw [quotient]
  unfold roundHalfEven
  dsimp only
  generalize num / den = n, num % den = r at *
  split_ifs with below above
  · have below : (r : ℚ) / den < 1 / 2 := by
      rw [div_lt_div_iff₀ den_pos two_pos]
      exact_mod_cast (by omega : r * 2 < 1 * den)
    exact ⟨by linarith, by linarith, fun _ => ⟨by linarith, by linarith⟩⟩
  · have above : 1 / 2 < (r : ℚ) / den := by
      rw [div_lt_div_iff₀ two_pos den_pos]
      exact_mod_cast (by omega : 1 * den < r * 2)
    exact ⟨by linarith, by linarith, fun _ => ⟨by linarith, by linarith⟩⟩
  · have half : (r : ℚ) / den = 1 / 2 := by
      rw [div_eq_div_iff den_pos.ne' two_ne_zero]
      exact_mod_cast (by omega : r * 2 = 1 * den)
    rw [half]
    rcases Nat.mod_two_eq_zero_or_one n with even | odd
    · rw [even, Nat.add_zero]
      exact ⟨by linarith, by linarith, by omega⟩
    · rw [odd]
      exact ⟨by linarith, by linarith, by omega⟩

/-- A ratio counted in units of a power of two is rounded to the nearest count. -/
lemma isNearest_scaled (num : Nat) {den : Nat} (pos : 0 < den) (e : Int) :
    IsNearest (scaled num den e) (num / den / 2 ^ e) := by
  unfold scaled
  split_ifs with sign
  · obtain ⟨k, rfl⟩ := Int.eq_ofNat_of_zero_le sign
    have near := isNearest_roundHalfEven num (Nat.mul_pos pos (Nat.two_pow_pos k))
    simpa [div_div] using near
  · obtain ⟨k, rfl⟩ : ∃ k : Nat, e = -(k : Int) := ⟨(-e).toNat, by omega⟩
    have near := isNearest_roundHalfEven (num * 2 ^ k) pos
    simpa [div_eq_mul_inv, mul_right_comm] using near

/-- Half a unit about the significand is the neighbourhood of a number, but for a power of two,
below which the numbers are closer. -/
lemma IsNearest.rounds {q : ℚ} (near : IsNearest m (q / 2 ^ e))
    (edge : m = 2 ^ 52 → minExponent < e → (2 : ℚ) ^ 52 - 1 / 4 ≤ q / 2 ^ e) : Rounds m e q := by
  have unit : (0 : ℚ) < 2 ^ e := zpow_pos two_pos e
  obtain ⟨low, high, strict⟩ := near
  rw [le_div_iff₀ unit] at low
  rw [div_le_iff₀ unit] at high
  rw [le_div_iff₀ unit] at edge
  rw [lt_div_iff₀ unit, div_lt_iff₀ unit] at strict
  refine ⟨?_, by linarith, fun odd => ?_⟩
  · unfold gapBelow
    split_ifs with power
    · have := edge power.1 power.2
      rw [power.1]
      push_cast
      linarith
    · linarith
  · have apart : ¬(m = 2 ^ 52 ∧ minExponent < e) := by omega
    obtain ⟨low, high⟩ := strict odd
    rw [gapBelow, if_neg apart]
    constructor <;> linarith

lemma IsNearest.le_of_sub_lt {n k : Nat} {x : ℚ} (near : IsNearest n x) (h : (k : ℚ) - 1 / 2 < x) :
    k ≤ n := by
  have less : (k : ℚ) < n + 1 := by
    have := near.high
    linarith
  exact Nat.lt_succ_iff.1 (by exact_mod_cast less)

lemma IsNearest.le_of_lt_add {n k : Nat} {x : ℚ} (near : IsNearest n x) (h : x < (k : ℚ) + 1 / 2) :
    n ≤ k := by
  have less : (n : ℚ) < k + 1 := by
    have := near.low
    linarith
  exact Nat.lt_succ_iff.1 (by exact_mod_cast less)

/-! ### The exponent -/

/-- The exponent that is tried first. -/
def estimate (num den : Nat) : Int := max minExponent ((num.log2 : Int) - den.log2 - 53)

/-- A ratio has as many bits as its numerator has more than its denominator, or one more. -/
lemma between_of_log2 {num den : Nat} (some : num ≠ 0) (pos : 0 < den) :
    (2 : ℚ) ^ ((num.log2 : Int) - den.log2 - 1) < num / den ∧
      (num / den : ℚ) < 2 ^ ((num.log2 : Int) - den.log2 + 1) := by
  have den_pos : (0 : ℚ) < den := by exact_mod_cast pos
  have two (n : Int) : (0 : ℚ) < 2 ^ n := zpow_pos two_pos n
  have num_low : (2 : ℚ) ^ (num.log2 : Int) ≤ num := by exact_mod_cast Nat.log2_self_le some
  have num_high : (num : ℚ) < 2 ^ ((num.log2 : Int) + 1) := by exact_mod_cast Nat.lt_log2_self
  have den_low : (2 : ℚ) ^ (den.log2 : Int) ≤ den := by exact_mod_cast Nat.log2_self_le pos.ne'
  have den_high : (den : ℚ) < 2 ^ ((den.log2 : Int) + 1) := by exact_mod_cast Nat.lt_log2_self
  generalize (num.log2 : Int) = a, (den.log2 : Int) = b at *
  rw [lt_div_iff₀ den_pos, div_lt_iff₀ den_pos]
  constructor
  · calc (2 : ℚ) ^ (a - b - 1) * den < 2 ^ (a - b - 1) * 2 ^ (b + 1) :=
          mul_lt_mul_of_pos_left den_high (two _)
      _ = 2 ^ a := by rw [← zpow_add₀ two_ne_zero]; congr 1; ring
      _ ≤ num := num_low
  · calc (num : ℚ) < 2 ^ (a + 1) := num_high
      _ = 2 ^ (a - b + 1) * 2 ^ b := by rw [← zpow_add₀ two_ne_zero]; congr 1; ring
      _ ≤ 2 ^ (a - b + 1) * den := mul_le_mul_of_nonneg_left den_low (two _).le

/-- With the exponent that is tried first a ratio has 54 bits at most, and 53 at least if a smaller
exponent were possible. -/
lemma estimate_spec {num den : Nat} (some : num ≠ 0) (pos : 0 < den) :
    (num / den / 2 ^ estimate num den : ℚ) < 2 ^ 54 ∧
      (minExponent < estimate num den → (2 : ℚ) ^ 52 < num / den / 2 ^ estimate num den) := by
  obtain ⟨low, high⟩ := between_of_log2 some pos
  have unit : (0 : ℚ) < 2 ^ estimate num den := zpow_pos two_pos _
  rw [div_lt_iff₀ unit, lt_div_iff₀ unit, ← zpow_natCast, ← zpow_natCast,
    ← zpow_add₀ two_ne_zero, ← zpow_add₀ two_ne_zero]
  refine ⟨high.trans_le (zpow_le_zpow_right₀ one_le_two ?_), fun above => ?_⟩
  · unfold estimate
    push_cast
    omega
  · refine lt_of_le_of_lt (zpow_le_zpow_right₀ one_le_two ?_) low
    unfold estimate at above ⊢
    push_cast
    omega

/-- The significand and the exponent that a ratio is rounded to. -/
def nearest (num den : Nat) : Nat × Int :=
  let exponent :=
    if scaled num den (estimate num den) < Nat.pow 2 53 then estimate num den
    else estimate num den + 1
  let significand := scaled num den exponent
  if significand < Nat.pow 2 53 then (significand, exponent) else (significand / 2, exponent + 1)

/-- A ratio becomes zero, the nearest number, or infinite. -/
lemma ofRatio_eq (negative : Bool) (num den : Nat) : ofRatio negative num den =
    if num = 0 then zero negative
    else if maxExponent < (nearest num den).2 then .infinite negative
    else .finite negative (nearest num den).1 (nearest num den).2 := rfl

/-- A ratio is rounded to a normal number in whose neighbourhood it lies. -/
theorem nearest_spec {num den : Nat} (some : num ≠ 0) (pos : 0 < den) :
    (finite negative (nearest num den).1 (nearest num den).2).IsNormal ∧
      Rounds (nearest num den).1 (nearest num den).2 (num / den) := by
  obtain ⟨most, least⟩ := estimate_spec some pos
  have first := isNearest_scaled num pos (estimate num den)
  have second := isNearest_scaled num pos (estimate num den + 1)
  have bound : minExponent ≤ estimate num den := le_max_left _ _
  have half (e : Int) : (num / den / 2 ^ (e + 1) : ℚ) = num / den / 2 ^ e / 2 := by
    rw [zpow_add_one₀ two_ne_zero, ← div_div]
  unfold nearest
  dsimp only [Nat.pow_eq]
  generalize estimate num den = e at *
  by_cases short : scaled num den e < 2 ^ 53
  · rw [if_pos short, if_pos short]
    refine ⟨⟨short, bound, fun above => first.le_of_sub_lt ?_⟩, first.rounds fun _ above => ?_⟩
    · have := least above
      push_cast
      linarith
    · have := least above
      linarith
  · -- the estimate was one too low, or the significand was rounded up to one more bit
    have long : ((2 ^ 53 : Nat) : ℚ) ≤ scaled num den e := by exact_mod_cast not_lt.1 short
    have low : (2 : ℚ) ^ 52 - 1 / 4 ≤ num / den / 2 ^ (e + 1) := by
      have := first.low
      push_cast at long
      rw [half]
      linarith
    rw [if_neg short]
    by_cases short : scaled num den (e + 1) < 2 ^ 53
    · rw [if_pos short]
      refine ⟨⟨short, by omega, fun _ => second.le_of_sub_lt ?_⟩, second.rounds fun _ _ => low⟩
      push_cast
      linarith
    · have power : scaled num den (e + 1) = 2 ^ 53 := by
        refine le_antisymm (second.le_of_lt_add ?_) (not_lt.1 short)
        rw [half]
        push_cast
        linarith
      have low : (2 : ℚ) ^ 52 - 1 / 4 ≤ num / den / 2 ^ (e + 1 + 1) := by
        have := second.low
        rw [power] at this
        push_cast at this
        rw [half]
        linarith
      have high : (num / den / 2 ^ (e + 1 + 1) : ℚ) ≤ 2 ^ 52 := by
        rw [half, half]
        linarith
      have third : IsNearest (2 ^ 52) (num / den / 2 ^ (e + 1 + 1)) := by
        refine ⟨?_, ?_, fun odd => absurd odd (by decide)⟩ <;> push_cast <;> linarith
      rw [if_neg short, power]
      exact ⟨⟨by norm_num, by omega, fun _ => le_rfl⟩, third.rounds fun _ _ => low⟩

/-! ### Numbers of 64 bits -/

/-- The numbers that 64 bits hold: a finite one is normal, and its exponent is not too great. -/
def IsRepresentable : Binary64 → Prop
  | finite negative m e => (finite negative m e).IsNormal ∧ e ≤ maxExponent
  | _ => True

lemma isRepresentable_zero (negative : Bool) : (zero negative).IsRepresentable :=
  ⟨⟨by norm_num, le_rfl, fun above => absurd above (lt_irrefl _)⟩, by decide⟩

/-- Every ratio is rounded to a number of 64 bits. -/
lemma isRepresentable_ofRatio (negative : Bool) (num : Nat) {den : Nat} (pos : 0 < den) :
    (ofRatio negative num den).IsRepresentable := by
  rw [ofRatio_eq]
  split_ifs with none great
  · exact isRepresentable_zero negative
  · trivial
  · exact ⟨(nearest_spec none pos).1, not_lt.1 great⟩

/-- Every decimal is rounded to a number of 64 bits. -/
lemma isRepresentable_ofDecimal (negative : Bool) (digits : Nat) (exponent : Int) :
    (ofDecimal negative digits exponent).IsRepresentable := by
  unfold ofDecimal
  dsimp only
  split_ifs
  · exact isRepresentable_zero negative
  · trivial
  · exact isRepresentable_ofRatio negative _ Nat.one_pos
  · exact isRepresentable_ofRatio negative _ (Nat.pow_pos (by decide))

/-- Whatever is at most half of the least number rounds to zero. -/
lemma rounds_zero {q : ℚ} (nonneg : 0 ≤ q) (small : q ≤ 2 ^ minExponent / 2) :
    Rounds 0 minExponent q := by
  have gap : 0 ≤ gapBelow 0 minExponent := by
    unfold gapBelow
    split_ifs <;> positivity
  refine ⟨?_, ?_, fun odd => absurd odd (by decide)⟩ <;> push_cast <;> linarith

/-- A rational that rounds to zero rounds to no other number. -/
lemma Rounds.not_zero {q : ℚ} (h : NormalForm m e) (rounds : Rounds m e q)
    (zero : Rounds 0 minExponent q) : False := by
  by_cases least : e = minExponent
  · subst least
    exact zero.not_of_significand_lt h.pos rounds
  · have above : minExponent < e := lt_of_le_of_ne h.least (Ne.symm least)
    have unit : (2 : ℚ) ^ minExponent ≤ 2 ^ e := zpow_le_zpow_right₀ one_le_two h.least
    have full : (2 : ℚ) ^ 52 * 2 ^ e ≤ m * 2 ^ e :=
      mul_le_mul_of_nonneg_right (by exact_mod_cast h.full above) (zpow_pos two_pos e).le
    have least_pos : (0 : ℚ) < 2 ^ minExponent := zpow_pos two_pos _
    have gap := gapBelow_le m e
    have low := rounds.low
    have high := zero.high
    push_cast at high
    linarith

/-- A rational in the neighbourhood of a number, which may be zero, is in that of no other. -/
lemma Rounds.finite_eq_iff {q : ℚ} (h : (finite negative m e).IsNormal)
    (h' : (finite negative m' e').IsNormal) (rounds : Rounds m e q) :
    finite negative m e = finite negative m' e' ↔ Rounds m' e' q := by
  constructor
  · rintro ⟨⟩
    exact rounds
  · intro rounds'
    rcases Nat.eq_zero_or_pos m with rfl | pos <;> rcases Nat.eq_zero_or_pos m' with rfl | pos'
    · rw [exponent_zero h, exponent_zero h']
    · obtain rfl := exponent_zero h
      exact (rounds'.not_zero (normalForm pos' negative h') rounds).elim
    · obtain rfl := exponent_zero h'
      exact (rounds.not_zero (normalForm pos negative h) rounds').elim
    · obtain ⟨rfl, rfl⟩ :=
        rounds.unique (normalForm pos negative h) (normalForm pos' negative h') rounds'
      rfl

/-- A ratio is rounded to the finite number in whose neighbourhood it lies. -/
theorem ofRatio_eq_finite_iff {num den : Nat} (pos : 0 < den)
    (h : (finite negative m e).IsRepresentable) :
    ofRatio negative num den = finite negative m e ↔ Rounds m e (num / den) := by
  rw [ofRatio_eq]
  split_ifs with none great
  · rw [none, Nat.cast_zero, zero_div]
    exact (rounds_zero le_rfl (by positivity)).finite_eq_iff (isRepresentable_zero negative).1 h.1
  · obtain ⟨normal, rounds⟩ := @nearest_spec negative num den none pos
    refine ⟨fun same => by simp at same, fun rounds' => ?_⟩
    obtain ⟨-, -, same⟩ := finite.inj ((rounds.finite_eq_iff normal h.1).2 rounds')
    exact absurd h.2 (same ▸ not_le.2 great)
  · obtain ⟨normal, rounds⟩ := @nearest_spec negative num den none pos
    exact rounds.finite_eq_iff normal h.1

/-! ### Decimals -/

/-- A number is less than the power of ten with as many zeros as it has digits. -/
lemma lt_pow_length_toDigits (n : Nat) : n < 10 ^ (Nat.toDigits 10 n).length :=
  (Nat.length_toDigits_le_iff (by decide) Nat.length_toDigits_pos).1 le_rfl

lemma Digits.value_lt (d : Digits) :
    d.value < 10 ^ (d.exponent + (Nat.toDigits 10 d.digits).length) := by
  have bound : (d.digits : ℚ) < 10 ^ (Nat.toDigits 10 d.digits).length := by
    exact_mod_cast lt_pow_length_toDigits d.digits
  rw [value, add_comm, zpow_add₀ (by norm_num), zpow_natCast]
  exact mul_lt_mul_of_pos_right bound (zpow_pos (by norm_num) _)

/-- The first digit of a decimal is not a zero. -/
lemma Digits.le_value {d : Digits} (pos : 0 < d.digits) :
    10 ^ (d.exponent + (Nat.toDigits 10 d.digits).length - 1) ≤ d.value := by
  have length : 0 < (Nat.toDigits 10 d.digits).length := Nat.length_toDigits_pos
  have bound : (10 : ℚ) ^ ((Nat.toDigits 10 d.digits).length - 1) ≤ d.digits := by
    exact_mod_cast pow_length_toDigits_le pos
  have shift : d.exponent + (Nat.toDigits 10 d.digits).length - 1 =
      ((Nat.toDigits 10 d.digits).length - 1 : Nat) + d.exponent := by omega
  rw [value, shift, zpow_add₀ (by norm_num), zpow_natCast]
  exact mul_le_mul_of_nonneg_right bound (zpow_pos (by norm_num) _).le

/-- The decimals that are answered with zero at once lie below half the least number. -/
lemma pow_le_half_least : (10 : ℚ) ^ (-401 : Int) ≤ 2 ^ minExponent / 2 := by
  have powers : (2 : ℚ) ^ 1075 ≤ 10 ^ 401 := by
    calc (2 : ℚ) ^ 1075 ≤ 2 ^ (3 * 359) := pow_le_pow_right₀ one_le_two (by norm_num)
      _ = 8 ^ 359 := by rw [pow_mul]; norm_num
      _ ≤ 10 ^ 359 := pow_le_pow_left₀ (by norm_num) (by norm_num) _
      _ ≤ 10 ^ 401 := pow_le_pow_right₀ (by norm_num) (by norm_num)
  have half : (2 : ℚ) ^ minExponent / 2 = 2 ^ (-1075 : Int) := by
    rw [div_eq_mul_inv, ← zpow_sub_one₀ two_ne_zero]
    rfl
  rw [half, zpow_neg, zpow_neg]
  exact inv_anti₀ (by positivity) powers

/-- The decimals that are answered with an infinity at once lie above all finite numbers. -/
lemma Rounds.lt_pow {q : ℚ} (h : (finite negative m e).IsRepresentable) (rounds : Rounds m e q) :
    q < 10 ^ (400 : Int) := by
  have unit : (0 : ℚ) < 2 ^ e := zpow_pos two_pos e
  have bits : (m : ℚ) + 1 ≤ 2 ^ 53 := by exact_mod_cast h.1.1
  have powers : (2 : ℚ) ^ 1024 ≤ 10 ^ 400 := by
    calc (2 : ℚ) ^ 1024 ≤ 2 ^ (3 * 342) := pow_le_pow_right₀ one_le_two (by norm_num)
      _ = 8 ^ 342 := by rw [pow_mul]; norm_num
      _ ≤ 10 ^ 342 := pow_le_pow_left₀ (by norm_num) (by norm_num) _
      _ ≤ 10 ^ 400 := pow_le_pow_right₀ (by norm_num) (by norm_num)
  calc q ≤ m * 2 ^ e + 2 ^ e / 2 := rounds.high
    _ < (m + 1) * 2 ^ e := by linarith
    _ ≤ 2 ^ 53 * 2 ^ maxExponent :=
      mul_le_mul bits (zpow_le_zpow_right₀ one_le_two h.2) unit.le (by positivity)
    _ = 2 ^ 1024 := by
      rw [← zpow_natCast, ← zpow_add₀ two_ne_zero, ← zpow_natCast]
      rfl
    _ ≤ 10 ^ (400 : Int) := by exact_mod_cast powers

/-- A decimal is rounded to the finite number in whose neighbourhood it lies. -/
theorem ofDecimal_eq_finite_iff (d : Digits) (h : (finite negative m e).IsRepresentable) :
    ofDecimal negative d.digits d.exponent = finite negative m e ↔ Rounds m e d.value := by
  have ten : (1 : ℚ) ≤ 10 := by norm_num
  have nonneg : 0 ≤ d.value := mul_nonneg (Nat.cast_nonneg _) (zpow_pos (by norm_num) _).le
  have ratio := Ratio.value_scale10 d.digits d.exponent
  unfold Ratio.scale10 at ratio
  unfold ofDecimal
  dsimp only
  split_ifs with small great sign
  · have least : d.value ≤ 2 ^ minExponent / 2 := by
      rw [Bool.or_eq_true, decide_eq_true_iff, decide_eq_true_iff] at small
      rcases small with none | small
      · rw [Digits.value, none, Nat.cast_zero, zero_mul]
        positivity
      · exact (d.value_lt.le.trans (zpow_le_zpow_right₀ ten (by omega))).trans pow_le_half_least
    exact (rounds_zero nonneg least).finite_eq_iff (isRepresentable_zero negative).1 h.1
  · refine ⟨fun same => by simp at same, fun rounds => ?_⟩
    have some : d.digits ≠ 0 := fun none => small (by simp [none])
    have most : (10 : ℚ) ^ (400 : Int) ≤ d.value :=
      (zpow_le_zpow_right₀ ten (by omega)).trans (Digits.le_value (Nat.pos_of_ne_zero some))
    exact absurd (rounds.lt_pow h) (not_lt.2 most)
  · rw [if_pos sign] at ratio
    rw [ofRatio_eq_finite_iff Nat.one_pos h, Digits.value, ← ratio]
    rfl
  · have pos : 0 < Nat.pow 10 (-d.exponent).toNat := Nat.pow_pos (by decide)
    rw [if_neg sign] at ratio
    rw [ofRatio_eq_finite_iff pos h, Digits.value, ← ratio]
    rfl

end EntityModel.Binary64

namespace EntityModel.Number

open Text Binary64

variable {m : Nat} {e : Int} {negative : Bool}

/-- The characters of a decimal are read as the finite number in whose neighbourhood it lies. -/
theorem readDecimal?_eq_finite_iff {cs : List Char} (h : (finite negative m e).IsRepresentable) :
    readDecimal? negative cs = some (finite negative m e) ↔
      ∃ d, written? cs = some d ∧ Rounds m e d.value := by
  simp only [readDecimal?_eq, Option.map_eq_some_iff, ofDecimal_eq_finite_iff _ h]

/-- Every number that is read is one of 64 bits. -/
theorem isRepresentable_of_readReal? {s : String} {x : Binary64} (read : readReal? s = some x) :
    x.IsRepresentable := by
  unfold readReal? at read
  dsimp only at read
  split at read
  · cases read
    trivial
  · cases read
    trivial
  · cases read
    trivial
  · rw [readDecimal?_eq, Option.map_eq_some_iff] at read
    obtain ⟨d, -, rfl⟩ := read
    exact isRepresentable_ofDecimal _ _ _

/-! ### Written forms are read back -/

/-- The characters of numbers are not blank. -/
lemma isBlank_of_isNumeric {c : Char} (numeric : IsNumeric c) : isBlank c = false := by
  rcases numeric with digit | mark
  · have range : 0x30 ≤ c.toNat ∧ c.toNat ≤ 0x39 := by
      simpa [Char.isDigit, UInt32.le_iff_toNat_le] using digit
    unfold isBlank
    dsimp only
    grind
  · simp only [List.mem_cons, List.not_mem_nil, or_false] at mark
    rcases mark with rfl | rfl | rfl | rfl <;> rfl

/-- Nothing is trimmed from the characters of a number. -/
lemma trim_of_isNumeric {cs : List Char} (numeric : ∀ c ∈ cs, IsNumeric c) : trim cs = cs := by
  have all {cs : List Char} (numeric : ∀ c ∈ cs, IsNumeric c) : cs.dropWhile isBlank = cs := by
    cases cs with
    | nil => rfl
    | cons c rest =>
      exact List.dropWhile_cons_of_neg (by
        simp [isBlank_of_isNumeric (numeric c List.mem_cons_self)])
  rw [trim, trimRight, all numeric, all fun c mem => numeric c (List.mem_reverse.1 mem),
    List.reverse_reverse]

/-- A sign is told from the digits after it. -/
lemma signed_digit {c : Char} (digit : c.isDigit = true) (rest : List Char) :
    signed (if negative then '-' :: c :: rest else c :: rest) = (negative, c :: rest) := by
  cases negative with
  | true => rfl
  | false =>
    rw [if_neg Bool.false_ne_true, signed]
    · rintro _ ⟨⟩
      exact absurd digit (by decide)
    · rintro _ ⟨⟩
      exact absurd digit (by decide)

lemma toLower_of_isNumeric {c : Char} (numeric : IsNumeric c) : c.toLower = c := by
  rcases numeric with digit | mark
  · have small : ¬(c.val ≥ 'A'.val ∧ c.val ≤ 'Z'.val) := by
      simp [Char.isDigit, UInt32.le_iff_toNat_le] at digit ⊢
      omega
    exact dif_neg small
  · simp only [List.mem_cons, List.not_mem_nil, or_false] at mark
    rcases mark with rfl | rfl | rfl | rfl <;> rfl

lemma isNumeric_signed {cs : List Char} (numeric : ∀ c ∈ cs, IsNumeric c) :
    ∀ c ∈ if negative then '-' :: cs else cs, IsNumeric c := by
  split
  · exact List.forall_mem_cons.2 ⟨.inr (by decide), numeric⟩
  · exact numeric

/-- A text that starts with a digit after its sign is read as a decimal. -/
lemma readReal?_digit {c : Char} {rest : List Char} (digit : c.isDigit = true)
    (numeric : ∀ d ∈ c :: rest, IsNumeric d) :
    readReal? (String.ofList (if negative then '-' :: c :: rest else c :: rest)) =
      readDecimal? negative (c :: rest) := by
  -- none of the words that are numbers starts with a digit
  have word (first : Char) (others : List Char) (other : first.isDigit = false) :
      String.ofList ((c :: rest).map Char.toLower) ≠ String.ofList (first :: others) := by
    rw [Ne, String.ofList_inj, List.map_cons, toLower_of_isNumeric (.inl digit)]
    rintro ⟨⟩
    simp [digit] at other
  rw [readReal?, String.toList_ofList, trim_of_isNumeric (isNumeric_signed numeric),
    signed_digit digit]
  dsimp only
  split
  · rename_i same
    exact absurd same (word 'i' ['n', 'f'] (by decide))
  · rename_i same
    exact absurd same (word 'i' ['n', 'f', 'i', 'n', 'i', 't', 'y'] (by decide))
  · rename_i same
    exact absurd same (word 'n' ['a', 'n'] (by decide))
  · rfl

/-- Every number of 64 bits is read back from its written form. -/
theorem readReal?_shown {x : Binary64} (h : x.IsRepresentable) : readReal? x.shown = some x := by
  cases x with
  | finite negative m e =>
    obtain ⟨c, rest, written, digit⟩ := exists_digit_body h.1
    have numeric := (isNumeric_body h.1).1
    obtain ⟨d, read, number⟩ := written?_body h.1
    have rounds : Rounds m e d.value := by
      rcases number with ⟨rfl, value⟩ | ⟨-, rounds⟩
      · obtain rfl := exponent_zero h.1
        exact rounds_zero value.ge (value.le.trans (by positivity))
      · exact rounds
    rw [written] at numeric
    rw [shown_finite, written, readReal?_digit digit numeric, ← written,
      readDecimal?_eq_finite_iff h]
    exact ⟨d, read, rounds⟩
  | infinite negative => cases negative <;> decide
  | nan => decide

end EntityModel.Number
