import BatchExec.Seconds
import Mathlib.Algebra.Order.Floor.Semifield
import Mathlib.Data.Rat.Floor
import Mathlib.Tactic.Linarith
import Mathlib.Tactic.Positivity
import Mathlib.Tactic.Qify

/-!
# Rounding and time limits

Numbers are rounded to the digits that a mantissa holds. Rounding never passes a number that needs
no rounding; so what is within a limit is never cut off, and what overruns a limit is never noticed
before the limit has passed.

* `Ratio.value`: the rational number that a ratio stands for.
* `Binary.floor_lt_iff`, `Binary.ceil_le_iff`: integers against the value of a number.
* `Binary.rounded_le`: **rounding does not pass a number that needs no rounding.**
* `Seconds.nonpositive_eq_false_iff`: what is not zero or less is positive or not a number.
* `Seconds.expiry_le_of_overrunBy`: **what overruns a limit ends when the limit has passed or
  later.**
-/

namespace BatchExec

/-! ## Ratios -/

namespace Ratio

/-- The rational number that a ratio stands for. -/
def value (r : Ratio) : ℚ := r.num / r.den

variable {r : Ratio}

theorem value_scale (r : Ratio) (exponent : Int) :
    (r.scale 2 exponent).value = r.value * 2 ^ exponent := by
  cases exponent with
  | ofNat n =>
    show ((r.num * Nat.pow 2 n : Nat) : ℚ) / r.den = r.num / r.den * 2 ^ (n : Int)
    rw [Nat.pow_eq, zpow_natCast]
    push_cast
    ring
  | negSucc n =>
    show (r.num : ℚ) / (r.den * Nat.pow 2 (n + 1) : Nat) = r.num / r.den * 2 ^ Int.negSucc n
    rw [Nat.pow_eq, zpow_negSucc]
    push_cast
    rw [div_mul_eq_div_div, div_eq_mul_inv (_ / _)]

theorem den_scale (positive : 0 < r.den) (exponent : Int) : 0 < (r.scale 2 exponent).den := by
  cases exponent with
  | ofNat n => exact positive
  | negSucc n => exact Nat.mul_pos positive (Nat.pow_pos (by decide))

theorem value_le_iff (positive : 0 < r.den) {n : Nat} : r.value ≤ n ↔ r.num ≤ n * r.den := by
  rw [value, div_le_iff₀ (by exact_mod_cast positive)]
  exact_mod_cast Iff.rfl

theorem value_ofNat (n : Nat) : (ofNat n).value = n := by simp [value, ofNat]

theorem floor_eq (r : Ratio) : r.floor = ⌊r.value⌋₊ := (Nat.floor_div_eq_div r.num r.den).symm

theorem value_sub_le (r s : Ratio) (positive : 0 < s.den) : (r.sub s).value ≤ r.value := by
  have less : ((r.num * s.den - s.num * r.den : Nat) : ℚ) ≤ r.num * s.den := by
    exact_mod_cast Nat.sub_le _ _
  have nonzero : (s.den : ℚ) ≠ 0 := by exact_mod_cast positive.ne'
  calc (r.sub s).value
      ≤ (r.num * s.den : ℚ) / (r.den * s.den : Nat) :=
        div_le_div_of_nonneg_right less (by positivity)
    _ = r.value := by
        push_cast
        rw [mul_div_mul_right _ _ nonzero, value]

/-- An integer that is not passed by a ratio is not passed when the ratio is rounded. -/
theorem roundToEven_le (positive : 0 < r.den) {n : Nat} (le : r.value ≤ n) :
    r.roundToEven ≤ n := by
  have le := (value_le_iff positive).mp le
  have split : r.floor * r.den + r.num % r.den = r.num := Nat.div_add_mod' r.num r.den
  by_cases below : r.floor < n
  · unfold roundToEven
    dsimp only
    split
    · exact below.le
    · split
      · exact below
      · have odd : r.floor % 2 < 2 := Nat.mod_lt _ (by decide)
        omega
  · have top : r.floor = n := by
      refine le_antisymm ?_ (Nat.not_lt.mp below)
      exact Nat.div_le_of_le_mul (by rwa [Nat.mul_comm] at le)
    have exact' : r.num % r.den = 0 := by
      rw [top] at split
      omega
    unfold roundToEven
    rw [exact', if_pos positive]
    exact top.le

/-- A ratio is greater than the power of two that its cut logarithm less one stands for. -/
theorem lt_value (positive : 0 < r.den) (nonzero : r.num ≠ 0) :
    (2 : ℚ) ^ (r.log2 - 1) < r.value := by
  have num : ((2 ^ r.num.log2 : Nat) : ℚ) ≤ r.num := by
    exact_mod_cast Nat.log2_self_le nonzero
  have den : (r.den : ℚ) < (2 ^ (r.den.log2 + 1) : Nat) := by
    exact_mod_cast Nat.lt_log2_self
  have some : (0 : ℚ) < r.den := by exact_mod_cast positive
  rw [value, lt_div_iff₀ some]
  have powers : (2 : ℚ) ^ (r.log2 - 1) * 2 ^ (r.den.log2 + 1 : Int) = 2 ^ (r.num.log2 : Int) := by
    rw [← zpow_add₀ two_ne_zero]
    congr 1
    unfold log2
    omega
  calc (2 : ℚ) ^ (r.log2 - 1) * r.den
      < 2 ^ (r.log2 - 1) * (2 ^ (r.den.log2 + 1) : Nat) :=
        mul_lt_mul_of_pos_left den (zpow_pos two_pos _)
    _ = 2 ^ (r.num.log2 : Int) := by
        rw [← powers]
        norm_cast
    _ ≤ r.num := by exact_mod_cast num

end Ratio

/-! ## Binary numbers -/

namespace Binary

/-- A number that floating-point numbers have room for. -/
structure Fits (x : Binary) : Prop where
  mantissa : x.mantissa < mantissaBound
  exponent : minExponent ≤ x.exponent

theorem fits_of_decode {x : Float} {b : Binary} (decoded : decode x = some b) : b.Fits := by
  unfold decode at decoded
  dsimp only at decoded
  split at decoded
  · contradiction
  · have fraction : x.toBits.toNat % minMantissa < minMantissa := Nat.mod_lt _ (by decide)
    have twice : mantissaBound = minMantissa + minMantissa := rfl
    split at decoded
    · cases decoded
      refine ⟨?_, le_refl _⟩
      show x.toBits.toNat % minMantissa < mantissaBound
      omega
    · cases decoded
      constructor
      · show minMantissa + x.toBits.toNat % minMantissa < mantissaBound
        omega
      · show (-1074 : Int) ≤ _ - 1075
        omega

theorem value_magnitude (x : Binary) : x.magnitude.value = x.mantissa * 2 ^ x.exponent := by
  rw [magnitude, Ratio.value_scale, Ratio.value_ofNat]

theorem value_magnitude_nonneg (x : Binary) : 0 ≤ x.magnitude.value :=
  div_nonneg (Nat.cast_nonneg _) (Nat.cast_nonneg _)

theorem den_magnitude (x : Binary) : 0 < x.magnitude.den :=
  Ratio.den_scale (Nat.zero_lt_one) x.exponent

variable {r : Ratio}

/-- A ratio has all the digits that a mantissa holds, unless its exponent is the least one. -/
theorem minMantissa_le (positive : 0 < r.den) (nonzero : r.num ≠ 0)
    (normal : exponentOf r ≠ minExponent) :
    (2 : ℚ) ^ (52 : Nat) * 2 ^ exponentOf r ≤ r.value := by
  have digits : (2 : ℚ) ^ (52 : Nat) * 2 ^ (r.log2 - 53) ≤ r.value := by
    refine le_trans (le_of_eq ?_) (Ratio.lt_value positive nonzero).le
    rw [← zpow_natCast, ← zpow_add₀ two_ne_zero]
    congr 1
    push_cast
    ring
  unfold exponentOf at normal ⊢
  dsimp only at normal ⊢
  set guess : Int := max (r.log2 - 53) minExponent
  split at normal
  · rename_i small
    rw [if_pos small]
    have guessed : guess = r.log2 - 53 := by omega
    rw [guessed]
    exact digits
  · rename_i large
    rw [if_neg large]
    -- the guess leaves one digit too many
    have long : ((mantissaBound : Nat) : ℚ) ≤ (r.scale 2 (-guess)).value := by
      rw [Ratio.floor_eq, not_lt] at large
      exact (Nat.le_floor_iff (by rw [Ratio.value]; positivity)).mp large
    rw [Ratio.value_scale, zpow_neg, ← div_eq_mul_inv, le_div_iff₀ (zpow_pos two_pos _)] at long
    calc (2 : ℚ) ^ (52 : Nat) * 2 ^ (guess + 1)
        = (mantissaBound : Nat) * 2 ^ guess := by
          rw [zpow_add_one₀ two_ne_zero]
          norm_num [mantissaBound]
          ring
      _ ≤ r.value := long

/-- A ratio has no coarser digits than a number that is not less. -/
theorem exponentOf_le (positive : 0 < r.den) (nonzero : r.num ≠ 0) {x : Binary} (fits : x.Fits)
    (le : r.value ≤ x.magnitude.value) : exponentOf r ≤ x.exponent := by
  by_contra coarse
  have coarse : x.exponent + 1 ≤ exponentOf r := by omega
  have normal : exponentOf r ≠ minExponent := by
    have := fits.exponent
    omega
  have bound : ((mantissaBound : Nat) : ℚ) = 2 ^ (52 : Nat) * 2 := by norm_num [mantissaBound]
  have mantissa : (x.mantissa : ℚ) < (mantissaBound : Nat) := by exact_mod_cast fits.mantissa
  refine absurd le (not_le.mpr ?_)
  calc x.magnitude.value
      = x.mantissa * 2 ^ x.exponent := value_magnitude x
    _ < (mantissaBound : Nat) * 2 ^ x.exponent :=
        mul_lt_mul_of_pos_right mantissa (zpow_pos two_pos _)
    _ = 2 ^ (52 : Nat) * 2 ^ (x.exponent + 1) := by
        rw [bound, zpow_add_one₀ two_ne_zero]
        ring
    _ ≤ 2 ^ (52 : Nat) * 2 ^ exponentOf r := by
        gcongr
        exact one_le_two
    _ ≤ r.value := minMantissa_le positive nonzero normal

/-- **Rounding does not pass a number that needs no rounding.** -/
theorem rounded_le (positive : 0 < r.den) {x : Binary} (fits : x.Fits)
    (le : r.value ≤ x.magnitude.value) : (rounded r).magnitude.value ≤ x.magnitude.value := by
  have unit : (0 : ℚ) < 2 ^ exponentOf r := zpow_pos two_pos _
  -- in units of the last digit of the rounded ratio, the number is no less than some integer
  obtain ⟨n, below, above⟩ : ∃ n : Nat, r.value ≤ n * 2 ^ exponentOf r ∧
      n * 2 ^ exponentOf r ≤ x.magnitude.value := by
    by_cases none : r.num = 0
    · refine ⟨0, ?_, ?_⟩
      · simp [Ratio.value, none]
      · simpa using x.value_magnitude_nonneg
    · obtain ⟨k, apart⟩ : ∃ k : Nat, x.exponent = k + exponentOf r :=
        ⟨(x.exponent - exponentOf r).toNat, by have := exponentOf_le positive none fits le; omega⟩
      have whole : ((x.mantissa * 2 ^ k : Nat) : ℚ) * 2 ^ exponentOf r = x.magnitude.value := by
        rw [value_magnitude, apart, zpow_add₀ two_ne_zero]
        push_cast
        rw [zpow_natCast, mul_assoc]
      exact ⟨_, le.trans_eq whole.symm, whole.le⟩
  have digits : (r.scale 2 (-exponentOf r)).roundToEven ≤ n := by
    refine Ratio.roundToEven_le (Ratio.den_scale positive _) ?_
    rwa [Ratio.value_scale, zpow_neg, ← div_eq_mul_inv, div_le_iff₀ unit]
  calc (rounded r).magnitude.value
      = (r.scale 2 (-exponentOf r)).roundToEven * 2 ^ exponentOf r := value_magnitude _
    _ ≤ n * 2 ^ exponentOf r := by
        gcongr
    _ ≤ x.magnitude.value := above

/-- The rational number that a floating-point number stands for. -/
def value (x : Binary) : ℚ := if x.negative then -x.magnitude.value else x.magnitude.value

theorem floor_lt_iff (x : Binary) (n : Int) : x.floor < n ↔ x.value < n := by
  have den : (0 : Int) < x.magnitude.den := by exact_mod_cast x.den_magnitude
  have den' : (0 : ℚ) < x.magnitude.den := by exact_mod_cast x.den_magnitude
  unfold floor value Ratio.value
  rw [Int.fdiv_eq_ediv_of_nonneg _ den.le, Int.ediv_lt_iff_lt_mul den]
  cases x.negative with
  | true =>
    simp only [if_true]
    rw [← neg_div, div_lt_iff₀ den']
    exact_mod_cast Iff.rfl
  | false =>
    simp only [Bool.false_eq_true, if_false]
    rw [div_lt_iff₀ den']
    exact_mod_cast Iff.rfl

theorem ceil_le_iff (x : Binary) (n : Int) : x.ceil ≤ n ↔ x.value ≤ n := by
  have opposite : value { x with negative := !x.negative } = -x.value := by
    show (if !x.negative then -x.magnitude.value else x.magnitude.value) = -x.value
    unfold value
    cases x.negative <;> simp
  calc x.ceil ≤ n ↔ ¬ floor { x with negative := !x.negative } < -n := by
        unfold ceil
        omega
    _ ↔ x.value ≤ n := by
        rw [floor_lt_iff, opposite, Int.cast_neg, neg_lt_neg_iff, not_lt]

/-- What is left of a number is less than what the number is less than. -/
theorem ceil_minus_le {x : Binary} (fits : x.Fits) {r : Ratio} (positive : 0 < r.den) {n : Nat}
    (lt : x.floor < n) : (x.minus r).ceil ≤ n := by
  rw [floor_lt_iff, Int.cast_natCast] at lt
  rw [ceil_le_iff, Int.cast_natCast]
  unfold minus
  cases sign : x.negative with
  | true => simp [zero, value, value_magnitude]
  | false =>
    have den : 0 < (x.magnitude.sub r).den := Nat.mul_pos x.den_magnitude positive
    have less : x.value = x.magnitude.value := by simp [value, sign]
    calc (rounded (x.magnitude.sub r)).magnitude.value
        ≤ x.magnitude.value := rounded_le den fits (x.magnitude.value_sub_le r positive)
      _ ≤ n := less ▸ lt.le

end Binary

/-! ## Time limits -/

namespace Seconds

open Float.Model in
private theorem unpack_zero : (0 : Float).toModel.unpack = .zero .positive := rfl

open Float.Model in
private theorem le_zero_iff {x : Float} :
    x ≤ 0 ↔ x.toModel.unpack.le (.zero .positive) = true := by
  rw [← unpack_zero]
  exact decide_eq_true_iff

open Float.Model in
private theorem zero_lt_iff {x : Float} :
    0 < x ↔ UnpackedFloat.lt (.zero .positive) x.toModel.unpack = true := by
  rw [← unpack_zero]
  exact decide_eq_true_iff

/-- Greater than zero. -/
def Positive : Seconds → Prop
  | .int n => 0 < n
  | .float x => 0 < x
  | .bool b => b = true

open Float.Model in
/-- What is not zero or less is positive or not a number. -/
theorem nonpositive_eq_false_iff {limit : Seconds} :
    limit.nonpositive = false ↔ limit.Positive ∨ limit.isNaN = true := by
  cases limit with
  | int n => simp [nonpositive, Positive, isNaN]
  | bool b => simp [nonpositive, Positive, isNaN]
  | float x =>
    have nonpositive : (Seconds.float x).nonpositive = false ↔ ¬x ≤ 0 := decide_eq_false_iff_not
    rw [nonpositive, Positive, isNaN, le_zero_iff, zero_lt_iff]
    show _ ↔ _ ∨ x.toModel.unpack.isNaN = true
    cases x.toModel.unpack with
    | notANumber => decide
    | infinity sign | zero sign => cases sign <;> decide
    | finite sign =>
      cases sign with
      | positive => exact iff_of_true Bool.false_ne_true (.inl rfl)
      | negative =>
        exact iff_of_false (fun h => h rfl) fun h => h.elim Bool.false_ne_true Bool.false_ne_true

open Float.Model in
theorem not_positive_of_isNaN {limit : Seconds} (undefined : limit.isNaN = true) :
    ¬limit.Positive := by
  cases limit with
  | int n | bool b => cases undefined
  | float x =>
    rw [Positive, zero_lt_iff]
    rw [isNaN] at undefined
    change x.toModel.unpack.isNaN = true at undefined
    cases h : x.toModel.unpack with
    | notANumber => decide
    | infinity | zero | finite => rw [h] at undefined; cases undefined

theorem Positive.nonpositive {limit : Seconds} (positive : limit.Positive) :
    limit.nonpositive = false := nonpositive_eq_false_iff.mpr (.inl positive)

/-- The alarm for a positive limit does not go off at once. -/
theorem Positive.lapsed {limit : Seconds} (positive : limit.Positive) : limit.lapsed = false := by
  rw [Seconds.lapsed, positive.nonpositive, Bool.false_or]
  exact eq_false_of_ne_true fun undefined => not_positive_of_isNaN undefined positive

theorem nonpositive_eq_false_of_lapsed {limit : Seconds} (waits : limit.lapsed = false) :
    limit.nonpositive = false := (Bool.or_eq_false_iff.mp waits).1

theorem alarm_eq_expiry {limit : Seconds} (waits : limit.lapsed = false) :
    limit.alarm = limit.expiry := by
  rw [alarm, waits, if_neg Bool.false_ne_true]

/-- **What overruns a limit ends when the limit has passed or later.** -/
theorem expiry_le_of_overrunBy {s : Seconds} (positive : s.nonpositive = false) {ms : Nat}
    (late : s.overrunBy ms = true) : ∃ expiry, s.expiry = some expiry ∧ expiry ≤ ms := by
  unfold overrunBy at late
  unfold expiry
  rw [positive, if_neg Bool.false_ne_true]
  cases s with
  | int n =>
    refine ⟨_, rfl, ?_⟩
    have late : 1000 * n < ms := by simpa [lastInTime] using late
    omega
  | bool b =>
    refine ⟨_, rfl, ?_⟩
    cases b with
    | false => exact Nat.zero_le ms
    | true =>
      have late : (1000 : Int) < ms := by simpa [lastInTime] using late
      show 1000 ≤ ms
      omega
  | float x =>
    dsimp only [lastInTime] at late ⊢
    cases decoded : Binary.decode (1000 * x) with
    | none =>
      rw [decoded] at late
      exact absurd (positive.symm.trans late) Bool.false_ne_true
    | some b =>
      rw [decoded] at late
      have late : b.floor < ms := by simpa using late
      have ends := Binary.ceil_minus_le (Binary.fits_of_decode decoded)
        (r := tolerance) (Nat.pow_pos (by decide)) late
      refine ⟨_, rfl, ?_⟩
      show (b.minus tolerance).ceil.toNat ≤ ms
      omega

end Seconds

end BatchExec
