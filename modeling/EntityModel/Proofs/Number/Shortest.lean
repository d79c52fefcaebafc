import EntityModel.Proofs.Number.Written
import Mathlib.Algebra.Order.Field.Power
import Mathlib.Data.Nat.Cast.Order.Field
import Mathlib.Tactic.Linarith
import Mathlib.Tactic.NormNum
import Mathlib.Tactic.Positivity

/-!
# Shortest digits read back

The shortest digits of a normal number stand for a rational that rounds to this number: seventeen
digits are always enough. No rational rounds to two numbers, and so two normal numbers with the same
written form are equal.
-/

namespace EntityModel.Binary64

/-! ### Ratios -/

namespace Ratio

def value (r : Ratio) : ℚ := r.num / r.den

lemma den_scale2_pos (n : Nat) (e : Int) : 0 < (scale2 n e).den := by
  unfold scale2
  split_ifs
  · exact Nat.one_pos
  · exact Nat.pow_pos (by decide)

lemma den_scale10_pos (n : Nat) (e : Int) : 0 < (scale10 n e).den := by
  unfold scale10
  split_ifs
  · exact Nat.one_pos
  · exact Nat.pow_pos (by decide)

/-- A ratio out of a power is the product with this power. -/
lemma value_mk_pow (base n : Nat) (e : Int) :
    (if 0 ≤ e then (⟨n * Nat.pow base e.toNat, 1⟩ : Ratio)
      else ⟨n, Nat.pow base (-e).toNat⟩).value =
      n * (base : ℚ) ^ e := by
  split_ifs with sign
  · obtain ⟨k, rfl⟩ := Int.eq_ofNat_of_zero_le sign
    simp [value]
  · obtain ⟨k, hk⟩ : ∃ k : Nat, e = -(k : Int) := ⟨(-e).toNat, by omega⟩
    subst hk
    simp [value, div_eq_mul_inv]

lemma value_scale2 (n : Nat) (e : Int) : (scale2 n e).value = n * 2 ^ e := value_mk_pow 2 n e

lemma value_scale10 (n : Nat) (e : Int) : (scale10 n e).value = n * 10 ^ e := value_mk_pow 10 n e

lemma le_iff {a b : Ratio} (ha : 0 < a.den) (hb : 0 < b.den) :
    a.le b = true ↔ a.value ≤ b.value := by
  have ha : (0 : ℚ) < a.den := by exact_mod_cast ha
  have hb : (0 : ℚ) < b.den := by exact_mod_cast hb
  rw [le, decide_eq_true_iff, value, value, div_le_div_iff₀ ha hb]
  exact_mod_cast Iff.rfl

lemma lt_iff {a b : Ratio} (ha : 0 < a.den) (hb : 0 < b.den) :
    a.lt b = true ↔ a.value < b.value := by
  have ha : (0 : ℚ) < a.den := by exact_mod_cast ha
  have hb : (0 : ℚ) < b.den := by exact_mod_cast hb
  rw [lt, decide_eq_true_iff, value, value, div_lt_div_iff₀ ha hb]
  exact_mod_cast Iff.rfl

end Ratio

/-! ### Neighbourhoods -/

/-- The significand and the exponent are those of a normal number other than zero: the significand
has 53 bits, or fewer at the least exponent. -/
structure NormalForm (significand : Nat) (exponent : Int) : Prop where
  pos : 0 < significand
  bits : significand < 2 ^ 53
  least : minExponent ≤ exponent
  full : minExponent < exponent → 2 ^ 52 ≤ significand

variable {m m' : Nat} {e e' : Int}

/-- Half the distance to the next number below; below a power of two the numbers are closer. -/
def gapBelow (m : Nat) (e : Int) : ℚ :=
  if m = 2 ^ 52 ∧ minExponent < e then 2 ^ e / 4 else 2 ^ e / 2

lemma two_zpow_sub (e : Int) (n : Nat) : (2 : ℚ) ^ (e - n) = 2 ^ e / 2 ^ n := by
  rw [zpow_sub₀ two_ne_zero, zpow_natCast]

/-- The lower bound of a number lies by the distance below it. -/
lemma value_low (h : NormalForm m e) :
    (neighbourhood m e).low.value = m * 2 ^ e - gapBelow m e := by
  have pos := h.pos
  have quarter := two_zpow_sub e 2
  have half := two_zpow_sub e 1
  unfold neighbourhood gapBelow
  by_cases edge : m = 2 ^ 52 ∧ minExponent < e
  · have cond : (decide (m = Nat.pow 2 52) && decide (minExponent < e)) = true := by
      simpa using edge
    rw [if_pos edge]
    dsimp only
    rw [if_pos cond, Ratio.value_scale2, Nat.cast_sub (by omega)]
    push_cast at quarter ⊢
    rw [quarter]
    ring
  · have cond : ¬(decide (m = Nat.pow 2 52) && decide (minExponent < e)) = true := by
      simpa using edge
    rw [if_neg edge]
    dsimp only
    rw [if_neg cond, Ratio.value_scale2, Nat.cast_sub (by omega)]
    push_cast at half ⊢
    rw [half]
    ring

/-- The upper bound of a number lies by half a unit above it. -/
lemma value_high (m : Nat) (e : Int) :
    (neighbourhood m e).high.value = m * 2 ^ e + 2 ^ e / 2 := by
  have half := two_zpow_sub e 1
  unfold neighbourhood
  rw [Ratio.value_scale2]
  push_cast at half ⊢
  rw [half]
  ring

/-- A rational rounds to a number if it lies between the bounds of the number; it may be a bound
where the significand is even. -/
structure Rounds (m : Nat) (e : Int) (q : ℚ) : Prop where
  low : m * 2 ^ e - gapBelow m e ≤ q
  high : q ≤ m * 2 ^ e + 2 ^ e / 2
  strict : m % 2 = 1 → m * 2 ^ e - gapBelow m e < q ∧ q < m * 2 ^ e + 2 ^ e / 2

/-- Digits belong to the neighbourhood of a number just where they round to it. -/
lemma holds_iff (h : NormalForm m e) (d : Digits) :
    (neighbourhood m e).holds (.scale10 d.digits d.exponent) = true ↔ Rounds m e d.value := by
  have low : 0 < (neighbourhood m e).low.den := by
    unfold neighbourhood
    dsimp only
    split_ifs <;> exact Ratio.den_scale2_pos _ _
  have high : 0 < (neighbourhood m e).high.den := Ratio.den_scale2_pos _ _
  have den := Ratio.den_scale10_pos d.digits d.exponent
  have closed : (neighbourhood m e).closed = (m % 2 == 0) := rfl
  rw [Neighbourhood.holds, closed, Digits.value, ← Ratio.value_scale10]
  rcases Nat.mod_two_eq_zero_or_one m with even | odd
  · rw [even, beq_self_eq_true, if_pos rfl, Bool.and_eq_true, Ratio.le_iff low den,
      Ratio.le_iff den high, value_low h, value_high]
    exact ⟨fun between => ⟨between.1, between.2, by simp [even]⟩, fun r => ⟨r.low, r.high⟩⟩
  · rw [odd, if_neg (by decide), Bool.and_eq_true, Ratio.lt_iff low den, Ratio.lt_iff den high,
      value_low h, value_high]
    exact ⟨fun between => ⟨between.1.le, between.2.le, fun _ => between⟩, fun r => r.strict odd⟩

lemma gapBelow_le (m : Nat) (e : Int) : gapBelow m e ≤ 2 ^ e / 2 := by
  have unit : (0 : ℚ) < 2 ^ e := zpow_pos two_pos e
  unfold gapBelow
  split_ifs <;> linarith

/-! ### No rational rounds to two numbers -/

lemma Rounds.pos (h : NormalForm m e) {q : ℚ} (rounds : Rounds m e q) : 0 < q := by
  have unit : (0 : ℚ) < 2 ^ e := zpow_pos two_pos e
  have one : (1 : ℚ) ≤ m := by exact_mod_cast h.pos
  have gap := gapBelow_le m e
  have := rounds.low
  nlinarith

/-- Of two numbers with the same exponent the greater has the greater neighbourhood. -/
lemma Rounds.not_of_significand_lt {q : ℚ} (less : m < m') (rounds : Rounds m e q)
    (rounds' : Rounds m' e q) : False := by
  have unit : (0 : ℚ) < 2 ^ e := zpow_pos two_pos e
  have gap := gapBelow_le m' e
  have step : ((m : ℚ) + 1) * 2 ^ e ≤ m' * 2 ^ e :=
    mul_le_mul_of_nonneg_right (by exact_mod_cast less) unit.le
  rcases Nat.mod_two_eq_zero_or_one m with even | odd
  · by_cases next : m' = m + 1
    · have := (rounds'.strict (by omega)).1
      have := rounds.high
      linarith
    · have step : ((m : ℚ) + 2) * 2 ^ e ≤ m' * 2 ^ e :=
        mul_le_mul_of_nonneg_right (by exact_mod_cast (by omega : m + 2 ≤ m')) unit.le
      have := rounds'.low
      have := rounds.high
      linarith
  · have := (rounds.strict odd).2
    have := rounds'.low
    linarith

/-- Of two numbers with different exponents the one with the greater exponent has the greater
neighbourhood. -/
lemma Rounds.not_of_exponent_lt {q : ℚ} (h : NormalForm m e) (h' : NormalForm m' e')
    (less : e < e') (rounds : Rounds m e q) (rounds' : Rounds m' e' q) : False := by
  have unit : (0 : ℚ) < 2 ^ e := zpow_pos two_pos e
  have double : (2 : ℚ) * 2 ^ e ≤ 2 ^ e' := by
    rw [← zpow_one_add₀ two_ne_zero]
    exact zpow_le_zpow_right₀ one_le_two (by omega)
  have full := h'.full (h.least.trans_lt less)
  have bits : (m : ℚ) * 2 ^ e ≤ (2 ^ 53 - 1) * 2 ^ e := by
    have bound : (m : ℚ) + 1 ≤ 2 ^ 53 := by exact_mod_cast h.bits
    exact mul_le_mul_of_nonneg_right (by linarith) unit.le
  have high := rounds.high
  have low := rounds'.low
  by_cases edge : m' = 2 ^ 52
  · have gap : gapBelow m' e' = 2 ^ e' / 4 := if_pos ⟨edge, h.least.trans_lt less⟩
    rw [gap, edge] at low
    push_cast at low
    -- the bounds meet only where the significand of the lesser number is all ones
    rcases Nat.mod_two_eq_zero_or_one m with even | odd
    · have bits : (m : ℚ) * 2 ^ e ≤ (2 ^ 53 - 2) * 2 ^ e := by
        have bound : (m : ℚ) + 2 ≤ 2 ^ 53 := by
          have := h.bits
          exact_mod_cast (by omega : m + 2 ≤ 2 ^ 53)
        exact mul_le_mul_of_nonneg_right (by linarith) unit.le
      linarith
    · have := (rounds.strict odd).2
      linarith
  · have gap := gapBelow_le m' e'
    have above : ((2 : ℚ) ^ 52 + 1) * 2 ^ e' ≤ m' * 2 ^ e' :=
      mul_le_mul_of_nonneg_right (by exact_mod_cast (by omega : 2 ^ 52 + 1 ≤ m'))
        (zpow_pos two_pos e').le
    linarith

/-- A rational rounds to one number only. -/
theorem Rounds.unique {q : ℚ} (h : NormalForm m e) (h' : NormalForm m' e') (rounds : Rounds m e q)
    (rounds' : Rounds m' e' q) : m = m' ∧ e = e' := by
  rcases lt_trichotomy e e' with less | rfl | greater
  · exact (rounds.not_of_exponent_lt h h' less rounds').elim
  · rcases lt_trichotomy m m' with less | rfl | greater
    · exact (rounds.not_of_significand_lt less rounds').elim
    · exact ⟨rfl, rfl⟩
    · exact (rounds'.not_of_significand_lt greater rounds).elim
  · exact (rounds'.not_of_exponent_lt h' h greater rounds).elim

/-! ### Grids of decimals -/

/-- A point of the grid at a number or below it, or the next one, rounds to the number as soon as
the points of the grid are as close as those with seventeen digits. -/
lemma rounds_of_close (h : NormalForm m e) {below : Nat} {x : Int}
    (close : (10 : ℚ) ^ x * 10 ^ 16 ≤ m * 2 ^ e) (low : (below : ℚ) * 10 ^ x ≤ m * 2 ^ e)
    (high : m * 2 ^ e < ((below : ℚ) + 1) * 10 ^ x) :
    Rounds m e (⟨below, x⟩ : Digits).value ∨ Rounds m e (⟨below + 1, x⟩ : Digits).value := by
  have unit : (0 : ℚ) < 2 ^ e := zpow_pos two_pos e
  have width : (10 : ℚ) ^ x < gapBelow m e + 2 ^ e / 2 := by
    unfold gapBelow
    split_ifs with edge
    · rw [edge.1] at close
      push_cast at close
      linarith
    · have bits : (m : ℚ) * 2 ^ e ≤ 2 ^ 53 * 2 ^ e :=
        mul_le_mul_of_nonneg_right (by exact_mod_cast h.bits.le) unit.le
      linarith
  have gap : 0 < gapBelow m e := by
    unfold gapBelow
    split_ifs <;> positivity
  by_cases near : m * 2 ^ e - gapBelow m e < (below : ℚ) * 10 ^ x
  · exact .inl ⟨near.le, by simp only [Digits.value]; linarith, fun _ =>
      ⟨near, by simp only [Digits.value]; linarith⟩⟩
  · have next : (⟨below + 1, x⟩ : Digits).value < m * 2 ^ e + 2 ^ e / 2 := by
      rw [Digits.value]
      push_cast
      linarith
    have after : m * 2 ^ e - gapBelow m e < (⟨below + 1, x⟩ : Digits).value := by
      rw [Digits.value]
      push_cast
      linarith
    exact .inr ⟨after.le, next.le, fun _ => ⟨after, next⟩⟩

/-- The grid point that is tried first is the last one at the number or below it. -/
lemma below_spec (r : Ratio) (den : 0 < r.den) (x : Int) :
    let unit := Ratio.scale10 1 x
    let below := (r.num * unit.den) / (r.den * unit.num)
    (below : ℚ) * 10 ^ x ≤ r.value ∧ r.value < ((below : ℚ) + 1) * 10 ^ x := by
  intro unit below
  have unitValue : (10 : ℚ) ^ x = unit.value := by
    rw [Ratio.value_scale10, Nat.cast_one, one_mul]
  have unitDen : (0 : ℚ) < unit.den := by exact_mod_cast Ratio.den_scale10_pos 1 x
  have unitNum : 0 < unit.num := by
    have pos : 0 < unit.value := unitValue ▸ zpow_pos (by norm_num) x
    rw [Ratio.value, div_pos_iff_of_pos_right unitDen] at pos
    exact_mod_cast pos
  have rDen : (0 : ℚ) < r.den := by exact_mod_cast den
  have low : (below : ℚ) * (r.den * unit.num) ≤ r.num * unit.den := by
    exact_mod_cast Nat.div_mul_le_self (r.num * unit.den) (r.den * unit.num)
  have high : (r.num : ℚ) * unit.den < r.den * unit.num * (below + 1) := by
    exact_mod_cast Nat.lt_mul_div_succ (r.num * unit.den) (Nat.mul_pos den unitNum)
  rw [unitValue, Ratio.value, Ratio.value, mul_div_assoc', mul_div_assoc',
    div_le_div_iff₀ unitDen rDen, div_lt_div_iff₀ rDen unitDen]
  constructor <;> linarith

/-- What is found on a grid rounds to the number. -/
lemma rounds_of_nearestOnGrid? (h : NormalForm m e) {r : Ratio} {k : Int} {count : Nat} {d : Digits}
    (found : nearestOnGrid? (neighbourhood m e) r k count = some d) : Rounds m e d.value := by
  rw [← holds_iff h]
  unfold nearestOnGrid? at found
  dsimp only at found
  split at found
  · rename_i first second
    obtain rfl := Option.some.inj found
    dsimp only
    split_ifs
    · exact first
    · exact second
  · rename_i first _
    obtain rfl := Option.some.inj found
    exact first
  · rename_i _ second
    obtain rfl := Option.some.inj found
    exact second
  · simp at found

/-- Something is found on a grid whose points are close enough. -/
lemma isSome_nearestOnGrid? (h : NormalForm m e) {k : Int} {count : Nat}
    (close : (10 : ℚ) ^ (k - count) * 10 ^ 16 ≤ m * 2 ^ e) :
    (nearestOnGrid? (neighbourhood m e) (.scale2 m e) k count).isSome = true := by
  obtain ⟨low, high⟩ := below_spec (.scale2 m e) (Ratio.den_scale2_pos m e) (k - count)
  rw [Ratio.value_scale2] at low high
  have fits := rounds_of_close h close low high
  rw [← holds_iff h, ← holds_iff h] at fits
  unfold nearestOnGrid?
  dsimp only
  split
  · rfl
  · rfl
  · rfl
  · rename_i first second
    rcases fits with fits | fits
    · exact absurd (first.symm.trans fits) Bool.false_ne_true
    · exact absurd (second.symm.trans fits) Bool.false_ne_true

/-! ### The number of digits before the point -/

/-- The search stops before the first digit that is not a zero. -/
lemma search_le (r : Ratio) (den : 0 < r.den) (fuel zeros : Nat)
    (enough : (10 : ℚ) ^ (-((fuel + zeros : Nat) : Int) - 1) ≤ r.value) :
    (10 : ℚ) ^ (decimalExponent.search r fuel zeros - 1) ≤ r.value := by
  induction fuel generalizing zeros with
  | zero => simpa [decimalExponent.search] using enough
  | succ fuel ih =>
    unfold decimalExponent.search
    split_ifs with reached
    · have shift : (-(zeros : Int) - 1) = -((zeros + 1 : Nat) : Int) := by
        push_cast
        ring
      have den : (0 : ℚ) < r.den := by exact_mod_cast den
      have reached : (r.den : ℚ) ≤ r.num * 10 ^ (zeros + 1) := by exact_mod_cast reached
      rw [shift, zpow_neg, zpow_natCast, Ratio.value, inv_eq_one_div,
        div_le_div_iff₀ (by positivity) den]
      linarith
    · exact ih (zeros + 1) (by rwa [show fuel + (zeros + 1) = fuel + 1 + zeros by omega])

/-- A whole number is at least the power of ten with its number of digits. -/
lemma pow_length_toDigits_le {n : Nat} (pos : 0 < n) :
    10 ^ ((Nat.toDigits 10 n).length - 1) ≤ n := by
  by_cases single : (Nat.toDigits 10 n).length = 1
  · rw [single]
    exact pos
  · have several : 0 < (Nat.toDigits 10 n).length - 1 := by
      have : 0 < (Nat.toDigits 10 n).length := Nat.length_toDigits_pos
      omega
    rw [← not_lt, ← Nat.length_toDigits_le_iff (by decide) several]
    omega

/-- The digits of a positive number start within the reach of the search. -/
lemma least_le (h : NormalForm m e) : (10 : ℚ) ^ (-401 : Int) ≤ m * 2 ^ e := by
  have powers : (2 : ℚ) ^ 1074 ≤ 10 ^ 401 := by
    calc (2 : ℚ) ^ 1074 = (2 ^ 3) ^ 358 := by rw [← pow_mul]
      _ ≤ 10 ^ 358 := pow_le_pow_left₀ (by norm_num) (by norm_num) _
      _ ≤ 10 ^ 401 := pow_le_pow_right₀ (by norm_num) (by norm_num)
  have unit : (2 : ℚ) ^ (-1074 : Int) ≤ 2 ^ e := zpow_le_zpow_right₀ one_le_two h.least
  have one : (1 : ℚ) ≤ m := by exact_mod_cast h.pos
  calc (10 : ℚ) ^ (-401 : Int) ≤ 2 ^ (-1074 : Int) := by
        rw [zpow_neg, zpow_neg]
        exact inv_anti₀ (by positivity) powers
    _ ≤ 2 ^ e := unit
    _ ≤ m * 2 ^ e := le_mul_of_one_le_left (zpow_pos two_pos e).le one

/-- The first digit of a number is not a zero. -/
lemma decimalExponent_le (h : NormalForm m e) :
    (10 : ℚ) ^ (decimalExponent (.scale2 m e) - 1) ≤ m * 2 ^ e := by
  have den := Ratio.den_scale2_pos m e
  have least := least_le h
  rw [← Ratio.value_scale2] at least ⊢
  generalize Ratio.scale2 m e = r at den least ⊢
  unfold decimalExponent
  split_ifs with whole
  · have leading := pow_length_toDigits_le (Nat.div_pos whole den)
    have length : 0 < (Nat.toDigits 10 (r.num / r.den)).length := Nat.length_toDigits_pos
    generalize (Nat.toDigits 10 (r.num / r.den)).length = n at leading length
    have floor : ((r.num / r.den : Nat) : ℚ) ≤ r.value := Nat.cast_div_le
    have power : (10 : ℚ) ^ ((n : Int) - 1) = ((10 ^ (n - 1) : Nat) : ℚ) := by
      rw [Nat.cast_pow, ← zpow_natCast, Nat.cast_sub length]
      rfl
    rw [power]
    exact le_trans (by exact_mod_cast leading) floor
  · exact search_le r den 400 0 (by simpa using least)

/-! ### Shortest digits -/

/-- The shortest digits of a number stand for a rational that rounds to the number. -/
theorem rounds_shortest (h : NormalForm m e) : Rounds m e (shortest m e).value := by
  have most : (10 : ℚ) ^ (decimalExponent (.scale2 m e) - (17 : Nat)) * 10 ^ 16 ≤ m * 2 ^ e := by
    refine le_of_eq_of_le ?_ (decimalExponent_le h)
    rw [← zpow_natCast, ← zpow_add₀ (by norm_num)]
    congr 1
    push_cast
    ring
  have some := isSome_nearestOnGrid? h most
  unfold shortest
  dsimp only
  generalize grids : (List.range 17).filterMap _ = found
  have each : ∀ d ∈ found, Rounds m e d.value := by
    intro d mem
    rw [← grids, List.mem_filterMap] at mem
    obtain ⟨i, -, isFound⟩ := mem
    exact rounds_of_nearestOnGrid? h isFound
  cases found with
  | nil =>
    rw [List.filterMap_eq_nil_iff] at grids
    have none := grids 16 (by simp)
    rw [none] at some
    simp at some
  | cons d rest => exact each d List.mem_cons_self

/-! ### Written forms -/

/-- A finite number in its normal form: the significand has 53 bits, or fewer at the least
exponent. -/
def IsNormal : Binary64 → Prop
  | finite _ m e =>
    m < 2 ^ 53 ∧ minExponent ≤ e ∧ (minExponent < e → 2 ^ 52 ≤ m)
  | _ => False

instance : DecidablePred IsNormal := fun x => by
  unfold IsNormal
  cases x <;> infer_instance

/-- The written form of a number without its sign. -/
def body (m : Nat) (e : Int) : List Char :=
  if m = 0 then ['0', '.', '0'] else positional (shortest m e)

lemma shown_finite (negative : Bool) (m : Nat) (e : Int) :
    (finite negative m e).shown =
      String.ofList (if negative then '-' :: body m e else body m e) := rfl

lemma normalForm (pos : 0 < m) (negative : Bool) (h : (finite negative m e).IsNormal) :
    NormalForm m e :=
  ⟨pos, h.1, h.2.1, h.2.2⟩

lemma exponent_zero {negative : Bool} (h : (finite negative 0 e).IsNormal) : e = minExponent :=
  le_antisymm (not_lt.1 fun above => absurd (h.2.2 above) (by norm_num)) h.2.1

lemma digits_shortest_ne_zero (h : NormalForm m e) : (shortest m e).digits ≠ 0 := by
  intro none
  have pos := (rounds_shortest h).pos h
  rw [Digits.value, none] at pos
  simp at pos

/-- What is written stands for zero, or for a rational that rounds to the number. -/
lemma written?_body {negative : Bool} (h : (finite negative m e).IsNormal) :
    ∃ d, Number.written? (body m e) = some d ∧
      ((m = 0 ∧ d.value = 0) ∨ (NormalForm m e ∧ Rounds m e d.value)) := by
  unfold body
  split_ifs with zero
  · exact ⟨⟨0, -1⟩, rfl, .inl ⟨zero, by simp [Digits.value]⟩⟩
  · have form := normalForm (Nat.pos_of_ne_zero zero) negative h
    obtain ⟨w, read, same⟩ := written?_positional (digits_shortest_ne_zero form)
    exact ⟨w, read, .inr ⟨form, same ▸ rounds_shortest form⟩⟩

/-- Two numbers with the same characters have the same significand and exponent. -/
lemma body_injective {negative negative' : Bool} (h : (finite negative m e).IsNormal)
    (h' : (finite negative' m' e').IsNormal) (same : body m e = body m' e') : m = m' ∧ e = e' := by
  obtain ⟨d, read, number⟩ := written?_body h
  obtain ⟨d', read', number'⟩ := written?_body h'
  obtain rfl : d = d' := Option.some.inj (by rw [← read, same, read'])
  rcases number with ⟨zero, value⟩ | ⟨form, rounds⟩
  · rcases number' with ⟨zero', -⟩ | ⟨form', rounds'⟩
    · subst zero zero'
      exact ⟨rfl, (exponent_zero h).trans (exponent_zero h').symm⟩
    · exact absurd value (rounds'.pos form').ne'
  · rcases number' with ⟨-, value⟩ | ⟨form', rounds'⟩
    · exact absurd value (rounds.pos form).ne'
    · exact rounds.unique form form' rounds'

/-- Only characters of numbers are written, and a point or an exponent is one of them. -/
lemma isNumeric_body {negative : Bool} (h : (finite negative m e).IsNormal) :
    (∀ c ∈ body m e, IsNumeric c) ∧ ('.' ∈ body m e ∨ 'e' ∈ body m e) := by
  unfold body
  split_ifs with zero
  · refine ⟨?_, by simp⟩
    simp [IsNumeric]
  · exact isNumeric_positional
      (digits_shortest_ne_zero (normalForm (Nat.pos_of_ne_zero zero) negative h))

lemma exists_digit_body {negative : Bool} (h : (finite negative m e).IsNormal) :
    ∃ c rest, body m e = c :: rest ∧ c.isDigit = true := by
  unfold body
  split_ifs with zero
  · exact ⟨_, _, rfl, rfl⟩
  · exact exists_digit_positional
      (digits_shortest_ne_zero (normalForm (Nat.pos_of_ne_zero zero) negative h))

lemma body_ne_cons_minus {negative : Bool} (h : (finite negative m e).IsNormal) (cs : List Char) :
    body m e ≠ '-' :: cs := by
  obtain ⟨c, rest, written, digit⟩ := exists_digit_body h
  intro same
  obtain rfl : c = '-' := (List.cons.inj (written.symm.trans same)).1
  exact absurd digit (by decide)

/-- Two finite numbers with the same written form are equal. -/
theorem shown_injective {x y : Binary64} (hx : x.IsNormal) (hy : y.IsNormal)
    (same : x.shown = y.shown) : x = y := by
  cases x with
  | finite negative m e =>
    cases y with
    | finite negative' m' e' =>
      rw [shown_finite, shown_finite, String.ofList_inj] at same
      cases negative <;> cases negative'
      · obtain ⟨rfl, rfl⟩ := body_injective hx hy same
        rfl
      · exact absurd same (body_ne_cons_minus hx _)
      · exact absurd same.symm (body_ne_cons_minus hy _)
      · obtain ⟨rfl, rfl⟩ := body_injective hx hy (List.cons.inj same).2
        rfl
    | infinite | nan => exact hy.elim
  | infinite | nan => exact hx.elim

end EntityModel.Binary64
