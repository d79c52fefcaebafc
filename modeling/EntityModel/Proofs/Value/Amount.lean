import EntityModel.Proofs.WellTyped
import EntityModel.Value.Reading
import Mathlib.Data.Rat.Cast.Order

/-!
# What numbers amount to

A finite number of whatever kind, a truth value being one, amounts to a rational. Numbers are put in
order by what they amount to (`Value.before_eq`), and the whole part of a number is positive just if
the number is at least one (`Value.exists_asWhole`).
-/

namespace EntityModel

/-! ### Binary numbers -/

namespace Binary64

variable {x y : Binary64} {num : Int} {den : Nat}

/-- The rational that a finite number is. -/
def amount (x : Binary64) : ℚ :=
  match x.fraction? with
  | some (num, den) => num / den
  | none => 0

/-- The denominator of a fraction is positive. -/
lemma den_pos (fraction : x.fraction? = some (num, den)) : 0 < den := by
  cases x with
  | finite negative significand exponent =>
    unfold fraction? at fraction
    dsimp only at fraction
    split_ifs at fraction
    all_goals
      obtain ⟨-, rfl⟩ := Prod.mk.inj (Option.some.inj fraction)
      simp
  | infinite | nan => cases fraction

lemma amount_eq (fraction : x.fraction? = some (num, den)) : x.amount = num / den := by
  rw [amount, fraction]

/-- Pairs that are in the same order compare alike. -/
lemma compare_congr {i j : Int} {q r : ℚ} (lt : i < j ↔ q < r) (gt : j < i ↔ r < q) :
    compare i j = compare q r := by
  rcases lt_trichotomy q r with less | rfl | greater
  · rw [compare_lt_iff_lt.2 less, compare_lt_iff_lt.2 (lt.2 less)]
  · have same : i = j := by
      have notLess := mt lt.1 (lt_irrefl q)
      have notGreater := mt gt.1 (lt_irrefl q)
      omega
    rw [compare_eq_iff_eq.2 same, compare_eq_iff_eq.2 rfl]
  · rw [compare_gt_iff_gt.2 greater, compare_gt_iff_gt.2 (gt.2 greater)]

/-- Finite numbers compare as their amounts do. -/
lemma compare?_eq (hx : x.fraction?.isSome) (hy : y.fraction?.isSome) :
    x.compare? y = some (compare x.amount y.amount) := by
  obtain ⟨⟨a, c⟩, fx⟩ := Option.isSome_iff_exists.1 hx
  obtain ⟨⟨b, d⟩, fy⟩ := Option.isSome_iff_exists.1 hy
  have posC : (0 : ℚ) < c := by exact_mod_cast den_pos fx
  have posD : (0 : ℚ) < d := by exact_mod_cast den_pos fy
  have same : compare (a * d) (b * c) = compare x.amount y.amount := by
    rw [amount_eq fx, amount_eq fy]
    refine compare_congr ?_ ?_
    · rw [div_lt_div_iff₀ posC posD]
      exact_mod_cast Iff.rfl
    · rw [div_lt_div_iff₀ posD posC]
      exact_mod_cast Iff.rfl
  cases x with
  | finite =>
    cases y with
    | finite =>
      simp only [← same, compare?, fx, fy]
      rfl
    | infinite | nan => cases fy
  | infinite | nan => cases fx

/-- A finite number compares with a whole number as their amounts do. -/
lemma compareInt?_eq (hx : x.fraction?.isSome) (i : Int) :
    x.compareInt? i = some (compare x.amount i) := by
  obtain ⟨⟨num, den⟩, fraction⟩ := Option.isSome_iff_exists.1 hx
  have pos : (0 : ℚ) < den := by exact_mod_cast den_pos fraction
  have same : compare num (i * den) = compare x.amount (i : ℚ) := by
    rw [amount_eq fraction]
    refine compare_congr ?_ ?_
    · rw [div_lt_iff₀ pos]
      exact_mod_cast Iff.rfl
    · rw [lt_div_iff₀ pos]
      exact_mod_cast Iff.rfl
  cases x with
  | finite => rw [← same, compareInt?, fraction]; rfl
  | infinite | nan => cases fraction

/-- The whole part of a finite number is positive just if the number is at least one. -/
lemma one_le_truncate_iff (hx : x.fraction?.isSome) : 1 ≤ x.truncate?.getD 0 ↔ 1 ≤ x.amount := by
  obtain ⟨⟨num, den⟩, fraction⟩ := Option.isSome_iff_exists.1 hx
  have pos := den_pos fraction
  have cast : (0 : ℚ) < den := by exact_mod_cast pos
  have ends : x.truncate?.getD 0 = num.tdiv den := by rw [truncate?, fraction]; rfl
  rw [ends, amount_eq fraction, le_div_iff₀ cast, one_mul]
  have whole : (1 : Int) ≤ num.tdiv den ↔ (den : Int) ≤ num := by
    rcases Int.le_total 0 num with nonneg | negative
    · rw [Int.tdiv_eq_ediv_of_nonneg nonneg, Int.le_ediv_iff_mul_le (by omega), one_mul]
    · have flipped : 0 ≤ (-num).tdiv den := Int.tdiv_nonneg (by omega) (by omega)
      rw [Int.neg_tdiv] at flipped
      omega
  rw [whole]
  exact_mod_cast Iff.rfl

/-- A whole number is its whole part. -/
lemma truncate_eq_amount (whole : x.isWhole = true) :
    ((x.truncate?.getD 0 : Int) : ℚ) = x.amount := by
  cases fraction : x.fraction? with
  | none => simp [isWhole, fraction] at whole
  | some parts =>
    obtain ⟨num, den⟩ := parts
    have pos := den_pos fraction
    have nonzero : (den : ℚ) ≠ 0 := by exact_mod_cast pos.ne'
    have divides : (den : Int) ∣ num := by
      rw [Int.natCast_dvd]
      simpa [isWhole, fraction, Nat.dvd_iff_mod_eq_zero] using whole
    obtain ⟨i, rfl⟩ := divides
    have ends : x.truncate?.getD 0 = i := by
      rw [truncate?, fraction]
      exact Int.mul_tdiv_cancel_left i (by omega)
    rw [ends, amount_eq fraction, Int.cast_mul, Int.cast_natCast, mul_div_cancel_left₀ _ nonzero]

end Binary64

/-! ### Scalars -/

namespace Scalar

variable {a b : Scalar} {q r : ℚ}

/-- The scalar is a finite number, whole or binary, that amounts to a rational. -/
inductive AmountsTo : Scalar → ℚ → Prop
  | whole {a : Scalar} {i : Int} (isWhole : a.int? = some i) : AmountsTo a i
  | real {x : Binary64} (finite : x.fraction?.isSome = true) : AmountsTo (.real x) x.amount

/-- Numbers compare as what they amount to. -/
lemma compareNumbers?_eq (ha : a.AmountsTo q) (hb : b.AmountsTo r) :
    compareNumbers? a b = some (compare q r) := by
  cases ha with
  | @whole _ i isWhole =>
    cases hb with
    | @whole _ j isWhole' =>
      have both : compareNumbers? a b = some (compare i j) := by
        cases a <;> cases isWhole <;> cases b <;> cases isWhole' <;> rfl
      rw [both, Binary64.compare_congr Int.cast_lt.symm Int.cast_lt.symm]
    | @real x finite =>
      have swapped : compareNumbers? a (.real x) = some (compare x.amount i).swap := by
        cases a <;> cases isWhole <;> simp [compareNumbers?, int?, Binary64.compareInt?_eq finite]
      rw [swapped, ← Std.OrientedOrd.eq_swap]
  | @real x finite =>
    cases hb with
    | @whole _ j isWhole =>
      have plain : compareNumbers? (.real x) b = x.compareInt? j := by
        cases b <;> cases isWhole <;> rfl
      rw [plain, Binary64.compareInt?_eq finite]
    | real finite' => exact Binary64.compare?_eq finite finite'

end Scalar

/-! ### Values -/

namespace Value

variable {v w : Value}

/-- What a number amounts to; a truth value counts as one or zero. -/
def amount : Value → ℚ
  | .scalar (.int i) => i
  | .scalar (.bool b) => Scalar.ofBool b
  | .scalar (.real x) => x.amount
  | _ => 0

/-- A finite value is a scalar of its amount. -/
lemma IsFinite.amountsTo (h : v.IsFinite) : ∃ s, v = .scalar s ∧ s.AmountsTo v.amount := by
  unfold IsFinite at h
  split at h
  · exact ⟨_, rfl, .whole rfl⟩
  · exact ⟨_, rfl, .whole rfl⟩
  · exact ⟨_, rfl, .real h⟩
  · exact h.elim

/-- Scalars with amounts come one before the other as numbers do. -/
lemma scalarBefore_eq {a b : Scalar} {q r : ℚ} (ha : a.AmountsTo q) (hb : b.AmountsTo r) :
    scalarBefore a b = .ok (a.compareNumbers? b == some .lt) := by
  cases ha with
  | whole isWhole =>
    cases hb with
    | whole isWhole' => cases a <;> cases isWhole <;> cases b <;> cases isWhole' <;> rfl
    | real => cases a <;> cases isWhole <;> rfl
  | real =>
    cases hb with
    | whole isWhole => cases b <;> cases isWhole <;> rfl
    | real => rfl

/-- Finite numbers come one before the other as what they amount to. -/
lemma before_eq (hv : v.IsFinite) (hw : w.IsFinite) :
    before v w = .ok (decide (v.amount < w.amount)) := by
  obtain ⟨a, isScalar, ha⟩ := hv.amountsTo
  obtain ⟨b, isScalar', hb⟩ := hw.amountsTo
  have scalars : before v w = scalarBefore a b := by rw [isScalar, isScalar', before]
  rw [scalars, scalarBefore_eq ha hb, Scalar.compareNumbers?_eq ha hb]
  by_cases less : v.amount < w.amount
  · simp [less, compare_lt_iff_lt.2 less]
  · simp [less, compare_lt_iff_lt]

/-- The whole part of a finite number is positive just if the number is at least one. -/
lemma exists_asWhole (hv : v.IsFinite) : ∃ i, v.asWhole = .ok i ∧ (1 ≤ i ↔ 1 ≤ v.amount) := by
  unfold IsFinite at hv
  split at hv
  · exact ⟨_, rfl, by rw [amount]; exact_mod_cast Iff.rfl⟩
  · exact ⟨_, rfl, by rw [amount]; exact_mod_cast Iff.rfl⟩
  · rename_i x
    refine ⟨x.truncate?.getD 0, ?_, Binary64.one_le_truncate_iff hv⟩
    cases x with
    | finite => rfl
    | infinite | nan => cases hv
  · exact hv.elim

/-- Of a finite number it can be asked whether it is whole, and if it is its whole part is what it
amounts to. -/
lemma exists_isWhole (hv : v.IsFinite) : ∃ whole, v.isWhole = .ok whole ∧
    (whole = true → ∃ i : Int, v.asWhole = .ok i ∧ (i : ℚ) = v.amount) := by
  unfold IsFinite at hv
  split at hv
  · rename_i i
    refine ⟨true, ?_, fun _ => ⟨i, rfl, rfl⟩⟩
    simp only [isWhole]
  · exact ⟨true, rfl, fun _ => ⟨_, rfl, rfl⟩⟩
  · rename_i x
    refine ⟨x.isWhole, rfl, fun whole =>
      ⟨x.truncate?.getD 0, ?_, Binary64.truncate_eq_amount whole⟩⟩
    cases x with
    | finite => rfl
    | infinite | nan => cases hv
  · exact hv.elim

end Value

end EntityModel
