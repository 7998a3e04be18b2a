import Mathlib.Analysis.SpecialFunctions.Log.Base
import SqlText.Settings.Basic

/-!
# Exact order — the comparison of exact forms is that of their values

    Number.le (.exact (.ofInt m)) (.exact (.ofInt n)) = true  ↔  m ≤ n

Two exact forms are compared by the number of their binary digits where that settles it, and
only else by a product of powers. A power of five is placed between two powers of two for the
purpose, by a fraction a little below and one a little above the logarithm of five. The order
that comes out is that of the values, whichever way it is found.

* **`value_ofInt`**: a whole number has the value that its form says.
* **`fiveBits_bounds`**: the powers of two beside a power of five.
* **`magnitudeLt_iff`**, **`lt_iff`**: the order of forms.
* **`Number.le_ofInt_iff`**: whole numbers compare as they do anyway.
* **`Settings.notPositive_int`**: when a whole number is accepted as a length.
-/

namespace SqlText

namespace Exact

/-! ## Values -/

/-- What a form stands for, its sign aside. -/
def magnitude (x : Exact) : ℚ := x.core * 2 ^ x.twos * 5 ^ x.fives

/-- What a form stands for. -/
def value (x : Exact) : ℚ := if x.negative then -x.magnitude else x.magnitude

theorem magnitude_nonneg (x : Exact) : 0 ≤ x.magnitude := by
  rw [magnitude]
  positivity

/-- However often a factor is taken out, nothing is lost. -/
theorem takeFactor_mul_pow (p : Nat) :
    ∀ fuel n : Nat, (takeFactor p fuel n).1 * p ^ (takeFactor p fuel n).2 = n := by
  intro fuel
  induction fuel with
  | zero =>
      intro n
      rw [takeFactor, pow_zero, mul_one]
  | succ fuel ih =>
      intro n
      rw [takeFactor]
      split
      · rename_i h
        rw [pow_succ, ← mul_assoc, ih]
        exact Nat.div_mul_cancel (Nat.dvd_of_mod_eq_zero h)
      · rw [pow_zero, mul_one]

theorem magnitude_make (negative : Bool) (n : Nat) (twos fives : Int) :
    (make negative n twos fives).magnitude = n * 2 ^ twos * 5 ^ fives := by
  rw [make]
  split
  · rename_i h
    simp [magnitude, h]
  · have htwos := takeFactor_mul_pow 2 (n.log2 + 1) n
    generalize takeFactor 2 (n.log2 + 1) n = taken at htwos ⊢
    obtain ⟨odd, a⟩ := taken
    have hfives := takeFactor_mul_pow 5 (n.log2 + 1) odd
    dsimp only
    generalize takeFactor 5 (n.log2 + 1) odd = taken at hfives ⊢
    obtain ⟨core, b⟩ := taken
    dsimp only [magnitude] at htwos hfives ⊢
    rw [zpow_add₀ (by norm_num), zpow_add₀ (by norm_num), zpow_natCast, zpow_natCast, ← htwos,
      ← hfives]
    push_cast
    ring

theorem value_ofInt (n : Int) : (ofInt n).value = n := by
  have hmagnitude : (ofInt n).magnitude = n.natAbs := by
    rw [ofInt, magnitude_make, zpow_zero, zpow_zero, mul_one, mul_one]
  have hnegative : (ofInt n).negative = decide (n < 0) := by
    rw [ofInt, make]
    split
    · rename_i h
      rw [Int.natAbs_eq_zero.mp h]
      rfl
    · rfl
  rw [value, hmagnitude, hnegative, Nat.cast_natAbs]
  by_cases h : n < 0
  · simp [h, abs_of_neg h]
  · simp [h, abs_of_nonneg (not_lt.mp h)]

/-! ## Powers of five between powers of two -/

/-- The two fractions by which powers of five are placed lie beside the logarithm of five. Each
is weaker than one of its convergents, and of these the powers can be compared. -/
theorem logb_five_bounds :
    2321928094 ≤ 1000000000 * Real.logb 2 5 ∧ 1000000000 * Real.logb 2 5 ≤ 2321928095 := by
  have hlog : ∀ n : ℕ, Real.logb 2 ((5 : ℝ) ^ n) = n * Real.logb 2 5 := Real.logb_pow 2 5
  have hlower : (2 ^ 177797 : Nat) ≤ 5 ^ 76573 := by decide +kernel
  have hupper : (5 ^ 97879 : Nat) ≤ 2 ^ 227268 := by decide +kernel
  constructor
  · have h : ((177797 : ℕ) : ℝ) ≤ (76573 : ℕ) * Real.logb 2 5 := by
      rw [← hlog, Real.le_logb_iff_rpow_le (by norm_num) (by positivity), Real.rpow_natCast]
      exact_mod_cast hlower
    push_cast at h
    linarith
  · have h : (97879 : ℕ) * Real.logb 2 5 ≤ ((227268 : ℕ) : ℝ) := by
      rw [← hlog, Real.logb_le_iff_le_rpow (by norm_num) (by positivity), Real.rpow_natCast]
      exact_mod_cast hupper
    push_cast at h
    linarith

/-- The whole numbers beside the logarithm of a power of five, of which either fraction may
give the smaller one. -/
theorem fiveBits_products (n : Int) :
    ((fiveBits n).1 * 1000000000 ≤ n * 2321928094 ∧
      (fiveBits n).1 * 1000000000 ≤ n * 2321928095) ∧
    n * 2321928094 ≤ (fiveBits n).2 * 1000000000 ∧
      n * 2321928095 ≤ (fiveBits n).2 * 1000000000 := by
  rw [fiveBits, Int.fdiv_eq_ediv_of_nonneg _ (by norm_num),
    Int.fdiv_eq_ediv_of_nonneg _ (by norm_num)]
  dsimp only
  omega

/-- A power of five lies between the powers of two beside it. -/
theorem fiveBits_bounds (n : Int) :
    (2 : ℚ) ^ (fiveBits n).1 ≤ 5 ^ n ∧ (5 : ℚ) ^ n ≤ 2 ^ (fiveBits n).2 := by
  have hproducts := fiveBits_products n
  obtain ⟨hlower, hupper⟩ := logb_five_bounds
  have hlog : Real.logb 2 ((5 : ℝ) ^ n) = n * Real.logb 2 5 := by
    rw [Real.logb, Real.log_zpow, mul_div_assoc, Real.logb]
  have hpos : (0 : ℝ) < 5 ^ n := by positivity
  generalize (fiveBits n).1 = lower at hproducts ⊢
  generalize (fiveBits n).2 = upper at hproducts ⊢
  have hcast : (((lower : ℝ) * 1000000000 ≤ n * 2321928094) ∧
      ((lower : ℝ) * 1000000000 ≤ n * 2321928095)) ∧
      ((n : ℝ) * 2321928094 ≤ upper * 1000000000) ∧
      ((n : ℝ) * 2321928095 ≤ upper * 1000000000) := by exact_mod_cast hproducts
  have hreal : (2 : ℝ) ^ lower ≤ 5 ^ n ∧ (5 : ℝ) ^ n ≤ 2 ^ upper := by
    rw [← Real.rpow_intCast 2 lower, ← Real.rpow_intCast 2 upper,
      ← Real.le_logb_iff_rpow_le (by norm_num) hpos, ← Real.logb_le_iff_le_rpow (by norm_num) hpos,
      hlog]
    rcases le_total 0 n with hn | hn
    · have hn' : (0 : ℝ) ≤ n := by exact_mod_cast hn
      constructor <;> nlinarith
    · have hn' : (n : ℝ) ≤ 0 := by exact_mod_cast hn
      constructor <;> nlinarith
  rw [← Rat.cast_le (K := ℝ), ← Rat.cast_le (K := ℝ)]
  push_cast
  exact hreal

/-! ## The order of magnitudes -/

/-- Two magnitudes compare as the cores do, once the factors are on one side. -/
theorem magnitude_lt_iff (x y : Exact) :
    x.magnitude < y.magnitude ↔
      (x.core : ℚ) * 2 ^ (x.twos - y.twos) * 5 ^ (x.fives - y.fives) < y.core := by
  have hpos : (0 : ℚ) < 2 ^ y.twos * 5 ^ y.fives := by positivity
  have hx : x.magnitude = x.core * 2 ^ (x.twos - y.twos) * 5 ^ (x.fives - y.fives) *
      (2 ^ y.twos * 5 ^ y.fives) := by
    rw [magnitude, zpow_sub₀ (by norm_num), zpow_sub₀ (by norm_num)]
    field_simp
  have hy : y.magnitude = y.core * (2 ^ y.twos * 5 ^ y.fives) := by rw [magnitude, mul_assoc]
  rw [hx, hy, mul_lt_mul_iff_left₀ hpos]

/-- A number with few binary digits lies below one with more of them. -/
theorem lt_of_small {m n : Nat} {t f : Int} (hn : n ≠ 0)
    (h : m.log2 + 1 + t + (fiveBits f).2 ≤ n.log2) : (m : ℚ) * 2 ^ t * 5 ^ f < n := by
  have hm : (m : ℚ) < 2 ^ ((m.log2 : Int) + 1) := by exact_mod_cast Nat.lt_log2_self
  calc (m : ℚ) * 2 ^ t * 5 ^ f
      ≤ m * 2 ^ t * 2 ^ (fiveBits f).2 := by gcongr; exact (fiveBits_bounds f).2
    _ < 2 ^ ((m.log2 : Int) + 1) * 2 ^ t * 2 ^ (fiveBits f).2 := by gcongr
    _ = 2 ^ ((m.log2 : Int) + 1 + t + (fiveBits f).2) := by
        rw [← zpow_add₀ two_ne_zero, ← zpow_add₀ two_ne_zero]
    _ ≤ 2 ^ (n.log2 : Int) := zpow_le_zpow_right₀ one_le_two h
    _ ≤ n := by exact_mod_cast Nat.log2_self_le hn

/-- A number with many binary digits lies above one with fewer of them. -/
theorem lt_of_large {m n : Nat} {t f : Int} (hm : m ≠ 0)
    (h : (n.log2 + 1 : Int) ≤ m.log2 + t + (fiveBits f).1) : (n : ℚ) < m * 2 ^ t * 5 ^ f := by
  have hlog : (2 : ℚ) ^ (m.log2 : Int) ≤ m := by exact_mod_cast Nat.log2_self_le hm
  calc (n : ℚ)
      < 2 ^ ((n.log2 : Int) + 1) := by exact_mod_cast Nat.lt_log2_self
    _ ≤ 2 ^ ((m.log2 : Int) + t + (fiveBits f).1) := zpow_le_zpow_right₀ one_le_two h
    _ = 2 ^ (m.log2 : Int) * 2 ^ t * 2 ^ (fiveBits f).1 := by
        rw [zpow_add₀ two_ne_zero, zpow_add₀ two_ne_zero]
    _ ≤ m * 2 ^ t * 5 ^ f := by gcongr; exact (fiveBits_bounds f).1

/-- A power with a whole exponent is one of two powers over the other. -/
theorem zpow_eq_div {p : ℚ} (hp : p ≠ 0) (n : Int) : p ^ n = p ^ n.toNat / p ^ (-n).toNat := by
  rw [← zpow_natCast, ← zpow_natCast, ← zpow_sub₀ hp, Int.toNat_sub_toNat_neg]

/-- Forms are compared by their magnitudes, whether sizes or products settle it. -/
theorem magnitudeLt_iff (x y : Exact) :
    magnitudeLt x y = true ↔ x.magnitude < y.magnitude := by
  rw [magnitude_lt_iff, magnitudeLt]
  generalize x.twos - y.twos = t
  generalize x.fives - y.fives = f
  split_ifs with hy hx hsmall hlarge
  · refine iff_of_false (by decide) ?_
    rw [hy, not_lt, Nat.cast_zero]
    positivity
  · refine iff_of_true rfl ?_
    rw [hx, Nat.cast_zero, zero_mul, zero_mul]
    exact_mod_cast Nat.pos_of_ne_zero hy
  · exact iff_of_true rfl (lt_of_small hy hsmall)
  · exact iff_of_false (by decide) (not_lt.mpr (lt_of_large hx hlarge).le)
  · rw [decide_eq_true_iff, zpow_eq_div two_ne_zero, zpow_eq_div (by norm_num : (5 : ℚ) ≠ 0)]
    have hpos : (0 : ℚ) < 2 ^ (-t).toNat * 5 ^ (-f).toNat := by positivity
    have hleft : (x.core : ℚ) * (2 ^ t.toNat / 2 ^ (-t).toNat) * (5 ^ f.toNat / 5 ^ (-f).toNat) =
        x.core * 2 ^ t.toNat * 5 ^ f.toNat / (2 ^ (-t).toNat * 5 ^ (-f).toNat) := by
      field_simp
    rw [hleft, div_lt_iff₀ hpos, ← mul_assoc]
    show x.core * 2 ^ t.toNat * 5 ^ f.toNat < y.core * 2 ^ (-t).toNat * 5 ^ (-f).toNat ↔ _
    exact_mod_cast Iff.rfl

/-! ## The order of values -/

/-- A form whose sign is that of its value, so that zero is not negative. -/
def Signed (x : Exact) : Prop := x.negative = true → 0 < x.magnitude

theorem signed_ofInt (n : Int) : (ofInt n).Signed := by
  intro h
  have hvalue := value_ofInt n
  rw [value, if_pos h] at hvalue
  refine lt_of_le_of_ne (ofInt n).magnitude_nonneg fun hzero => ?_
  rw [← hzero, neg_zero] at hvalue
  have hn : n = 0 := by exact_mod_cast hvalue.symm
  rw [hn] at h
  exact absurd h (by decide)

/-- The order of signed forms is that of their values. -/
theorem lt_iff {x y : Exact} (hx : x.Signed) (hy : y.Signed) :
    x.lt y = true ↔ x.value < y.value := by
  have hx0 := x.magnitude_nonneg
  have hy0 := y.magnitude_nonneg
  rw [lt, value, value]
  cases hnx : x.negative with
  | true =>
      have hxpos := hx hnx
      rw [if_pos rfl]
      cases hny : y.negative with
      | true =>
          rw [if_pos rfl, neg_lt_neg_iff]
          exact magnitudeLt_iff y x
      | false =>
          rw [if_neg Bool.false_ne_true]
          exact iff_of_true rfl ((neg_neg_of_pos hxpos).trans_le hy0)
  | false =>
      rw [if_neg Bool.false_ne_true]
      cases hny : y.negative with
      | true =>
          rw [if_pos rfl]
          exact iff_of_false Bool.false_ne_true
            (not_lt.mpr ((neg_neg_of_pos (hy hny)).le.trans hx0))
      | false =>
          rw [if_neg Bool.false_ne_true]
          exact magnitudeLt_iff x y

end Exact

/-- Whole numbers compare as they do anyway. -/
theorem Number.le_ofInt_iff (m n : Int) :
    Number.le (.exact (.ofInt m)) (.exact (.ofInt n)) = true ↔ m ≤ n := by
  have hlt : Number.lt (.exact (.ofInt m)) (.exact (.ofInt n)) = true ↔ m < n := by
    rw [Number.lt, Exact.lt_iff (Exact.signed_ofInt m) (Exact.signed_ofInt n), Exact.value_ofInt,
      Exact.value_ofInt, Int.cast_lt]
  have hsame : Number.same (.exact (.ofInt m)) (.exact (.ofInt n)) = true ↔ m = n := by
    show (Number.exact (.ofInt m) == .exact (.ofInt n)) = true ↔ _
    rw [beq_iff_eq, Number.exact.injEq]
    refine ⟨fun h => ?_, fun h => h ▸ rfl⟩
    have hvalue := congrArg Exact.value h
    rw [Exact.value_ofInt, Exact.value_ofInt] at hvalue
    exact_mod_cast hvalue
  rw [Number.le, Bool.or_eq_true, hlt, hsame, le_iff_lt_or_eq]

/-- A whole number is refused as a length where it is not positive. -/
theorem Settings.notPositive_int (n : Int) : notPositive (.int n) = .ok (decide (n ≤ 0)) := by
  refine congrArg Except.ok (Bool.eq_iff_iff.mpr ?_)
  rw [Number.le_ofInt_iff, decide_eq_true_iff]

end SqlText
