import ConfigWatch.Decimal.Double
import Mathlib.Algebra.GroupWithZero.Nat

/-!
# Doubles that are exact

A fraction over a power of two whose numerator has at most fifty-three significant bits is a double
itself, so that rounding leaves it. Counts are such numbers, and so are three quarters of them.
-/

set_option autoImplicit false

namespace ConfigWatch.Double

private theorem log2_shifted {number : Nat} (positive : number ≠ 0) (up : Nat) :
    (number * 2 ^ up).log2 = number.log2 + up := by
  have shifted : number * 2 ^ up ≠ 0 := Nat.mul_ne_zero positive (Nat.ne_of_gt (Nat.two_pow_pos up))
  apply Nat.le_antisymm
  · apply Nat.le_of_lt_succ
    rw [Nat.log2_lt shifted, Nat.succ_eq_add_one, Nat.add_right_comm, Nat.pow_add]
    exact Nat.mul_lt_mul_of_pos_right Nat.lt_log2_self (Nat.two_pow_pos up)
  · rw [Nat.le_log2 shifted, Nat.pow_add]
    exact Nat.mul_le_mul_right _ (Nat.log2_self_le positive)

theorem roundToEven_multiple (quotient : Nat) {denominator : Nat} (positive : 0 < denominator) :
    roundToEven (quotient * denominator) denominator = quotient := by
  have exact : quotient * denominator / denominator = quotient :=
    Nat.mul_div_cancel quotient positive
  simp only [roundToEven, Nat.mul_mod_left, exact, Nat.mul_zero, if_pos positive]

/-- A normal datum is put together from its significand and its scale. -/
private theorem fields_of_bits {significand : Nat} (step : Nat) (normal : 2 ^ 52 ≤ significand)
    (bounded : significand < 2 ^ 53) (finite : step < 2046) :
    let datum : Double := ⟨UInt64.ofNat (step * 2 ^ 52 + significand)⟩
    datum.significand = significand ∧ datum.scale = (step : Int) - 1074 := by
  intro datum
  have bits : datum.bits.toNat = step * 2 ^ 52 + significand := by
    have small : step * 2 ^ 52 + significand < 2 ^ 64 := by omega
    exact UInt64.toNat_ofNat_of_lt' small
  have exponent : datum.exponentField = step + 1 := by
    rw [exponentField, bits]
    simp only [Nat.pow_eq]
    omega
  have fraction : datum.fraction = significand - 2 ^ 52 := by
    rw [Double.fraction, bits]
    simp only [Nat.pow_eq]
    omega
  constructor
  · rw [Double.significand, exponent, if_neg (Nat.succ_ne_zero step), fraction]
    exact Nat.add_sub_cancel' normal
  · rw [scale, exponent, if_neg (Nat.succ_ne_zero step)]
    omega

/-- The greatest power of two not above a fraction over a power of two is told by the digits of its
numerator. -/
private theorem leading_exact {number up down : Nat} (positive : number ≠ 0) :
    (if 0 ≤ ((number.log2 + up : Nat) : Int) - (down : Nat) then
      decide (2 ^ down * 2 ^ (((number.log2 + up : Nat) : Int) - (down : Nat)).toNat ≤
        number * 2 ^ up)
    else
      decide (2 ^ down ≤
        number * 2 ^ up * 2 ^ (-(((number.log2 + up : Nat) : Int) - (down : Nat))).toNat)) =
      true := by
  have leading : 2 ^ (number.log2 + up) ≤ number * 2 ^ up := by
    rw [Nat.pow_add]
    exact Nat.mul_le_mul_right _ (Nat.log2_self_le positive)
  split
  · next above =>
    have whole : down + (((number.log2 + up : Nat) : Int) - (down : Nat)).toNat =
        number.log2 + up := by omega
    rw [← Nat.pow_add, whole]
    exact decide_eq_true leading
  · next below =>
    have whole : number.log2 + up + (-(((number.log2 + up : Nat) : Int) - (down : Nat))).toNat =
        down := by omega
    apply decide_eq_true
    calc 2 ^ down
        = 2 ^ (number.log2 + up) *
            2 ^ (-(((number.log2 + up : Nat) : Int) - (down : Nat))).toNat := by
          rw [← Nat.pow_add, whole]
      _ ≤ number * 2 ^ up * 2 ^ (-(((number.log2 + up : Nat) : Int) - (down : Nat))).toNat :=
          Nat.mul_le_mul_right _ leading

/-- A number with few bits, times or divided by powers of two, keeps all of its bits. -/
theorem ofFraction_exact {number : Nat} (up down : Nat) (positive : number ≠ 0)
    (short : number < 2 ^ 53) (below : number.log2 + up < 52 + down)
    (normal : down ≤ number.log2 + up + 1022) :
    let nearest := ofFraction false (number * 2 ^ up) (2 ^ down)
    nearest.significand = number * 2 ^ (52 - number.log2) ∧
      nearest.scale = (number.log2 + up : Nat) - (52 + down : Nat) := by
  have within : number.log2 ≤ 52 := Nat.le_of_lt_succ ((Nat.log2_lt positive).mpr short)
  have least : 2 ^ 52 ≤ number * 2 ^ (52 - number.log2) := by
    calc 2 ^ 52 = 2 ^ number.log2 * 2 ^ (52 - number.log2) := by
          rw [← Nat.pow_add, Nat.add_sub_cancel' within]
      _ ≤ number * 2 ^ (52 - number.log2) :=
          Nat.mul_le_mul_right _ (Nat.log2_self_le positive)
  have bounded : number * 2 ^ (52 - number.log2) < 2 ^ 53 := by
    calc number * 2 ^ (52 - number.log2)
        < 2 ^ (number.log2 + 1) * 2 ^ (52 - number.log2) :=
          Nat.mul_lt_mul_of_pos_right Nat.lt_log2_self (Nat.two_pow_pos _)
      _ = 2 ^ 53 := by rw [← Nat.pow_add]; congr 1; omega
  have scaled : max ((((number.log2 + up : Nat) : Int) - (down : Nat)) - 52) (-1074) =
      ((number.log2 + up : Nat) : Int) - (52 + down : Nat) := by omega
  have rounded : roundToEven (number * 2 ^ up *
      2 ^ (-(((number.log2 + up : Nat) : Int) - (52 + down : Nat))).toNat) (2 ^ down) =
        number * 2 ^ (52 - number.log2) := by
    have whole : number * 2 ^ up *
        2 ^ (-(((number.log2 + up : Nat) : Int) - (52 + down : Nat))).toNat =
          number * 2 ^ (52 - number.log2) * 2 ^ down := by
      rw [Nat.mul_assoc, Nat.mul_assoc, ← Nat.pow_add, ← Nat.pow_add]
      congr 2
      omega
    rw [whole]
    exact roundToEven_multiple _ (Nat.two_pow_pos down)
  have negative : ¬ 0 ≤ ((number.log2 + up : Nat) : Int) - (52 + down : Nat) := by omega
  intro nearest
  have datum : nearest = ⟨UInt64.ofNat
      ((((number.log2 + up : Nat) : Int) - (52 + down : Nat) + 1074).toNat * 2 ^ 52 +
        number * 2 ^ (52 - number.log2))⟩ := by
    simp only [nearest, ofFraction, log2_shifted positive, Nat.log2_two_pow, Nat.pow_eq]
    rw [leading_exact positive, if_pos rfl, scaled]
    simp only [if_neg negative, rounded, Bool.false_eq_true, if_false, Nat.add_zero]
    rw [if_neg (by omega)]
  have fields := fields_of_bits
    (((number.log2 + up : Nat) : Int) - (52 + down : Nat) + 1074).toNat least bounded (by omega)
  rw [datum]
  refine ⟨fields.1, fields.2.trans ?_⟩
  omega

/-- The nearest double of a number of at most fifty-two bits is the number. -/
theorem ofNat_exact {number : Nat} (positive : number ≠ 0) (short : number < 2 ^ 52) :
    (ofNat number).significand = number * 2 ^ (52 - number.log2) ∧
      (ofNat number).scale = (number.log2 : Int) - 52 := by
  have within : number.log2 < 52 := (Nat.log2_lt positive).mpr short
  have exact := ofFraction_exact 0 0 positive (by omega) (by omega) (by omega)
  simp only [Nat.pow_zero, Nat.mul_one, Nat.add_zero] at exact
  rw [ofNat, if_neg positive]
  exact exact

/-- Three quarters of a number of at most fifty-one bits are a double. -/
theorem product_exact {number : Nat} (positive : number ≠ 0) (short : number < 2 ^ 51)
    {ratio : Double} (significand : ratio.significand = 3 * 2 ^ 51) (scale : ratio.scale = -53) :
    ((ofNat number).product ratio).significand =
        number * 3 * 2 ^ (52 - (number * 3).log2) ∧
      ((ofNat number).product ratio).scale = ((number * 3).log2 : Int) - 54 := by
  have factor := ofNat_exact positive (Nat.lt_of_lt_of_le short (by decide))
  have within : number.log2 < 51 := (Nat.log2_lt positive).mpr short
  have tripled : number * 3 ≠ 0 := Nat.mul_ne_zero positive (by decide)
  have digits : number * 2 ^ (52 - number.log2) * (3 * 2 ^ 51) =
      number * 3 * 2 ^ (103 - number.log2) := by
    rw [Nat.mul_mul_mul_comm, ← Nat.pow_add]
    congr 2
    omega
  have lost : (-((number.log2 : Int) - 52 + -53)).toNat = 105 - number.log2 := by omega
  have product : (ofNat number).product ratio =
      ofFraction false (number * 3 * 2 ^ (103 - number.log2)) (2 ^ (105 - number.log2)) := by
    rw [Double.product, factor.1, factor.2, significand, scale, digits, lost]
    simp only [Nat.pow_eq]
    rw [if_neg (Nat.mul_ne_zero tripled (Nat.ne_of_gt (Nat.two_pow_pos _))), if_neg (by omega)]
  have above : number.log2 ≤ (number * 3).log2 := by
    rw [Nat.le_log2 tripled]
    exact Nat.le_trans (Nat.log2_self_le positive) (Nat.le_mul_of_pos_right _ (by decide))
  have below : (number * 3).log2 < 53 := (Nat.log2_lt tripled).mpr (by omega)
  have exact := ofFraction_exact (103 - number.log2) (105 - number.log2) tripled (by omega)
    (by omega) (by omega)
  have place (leading shift : Nat) (small : shift < 51) :
      ((leading + (103 - shift) : Nat) : Int) - (52 + (105 - shift) : Nat) = leading - 54 := by
    omega
  rw [product]
  exact ⟨exact.1, exact.2.trans (place _ _ within)⟩

/-- Nothing is lost when three quarters are taken, until the last step takes the whole part. -/
theorem floor_threeQuarters {number : Nat} (short : number < 2 ^ 51) {ratio : Double}
    (significand : ratio.significand = 3 * 2 ^ 51) (scale : ratio.scale = -53) :
    ((ofNat number).product ratio).floor = number * 3 / 4 := by
  by_cases positive : number = 0
  · have none : zero.significand = 0 := by decide
    rw [positive, ofNat, if_pos rfl, product, none, Nat.zero_mul, if_pos rfl, floor,
      if_neg (by decide), none, Nat.zero_div, Nat.zero_mul, Nat.zero_div]
  · obtain ⟨digits, place⟩ := product_exact positive short significand scale
    have below : (number * 3).log2 < 53 :=
      (Nat.log2_lt (Nat.mul_ne_zero positive (by decide))).mpr (by omega)
    have shift : (-(((number * 3).log2 : Int) - 54)).toNat = 52 - (number * 3).log2 + 2 := by
      omega
    rw [floor, digits, place, if_neg (by omega), shift, Nat.pow_eq, Nat.pow_add,
      Nat.mul_comm (number * 3), Nat.mul_div_mul_left _ _ (Nat.two_pow_pos _)]

end ConfigWatch.Double
