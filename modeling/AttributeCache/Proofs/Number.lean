import AttributeCache.Number.Basic
import Mathlib.Algebra.Order.Field.Rat
import Mathlib.Algebra.Order.Ring.Cast
import Mathlib.Order.Monotone.Basic
import Mathlib.Tactic.Ring
/-!
# What numbers are worth

Every number stands for a rational one (`Number.value`), and numbers are
compared as the rationals they stand for (`Number.compare_eq`). For two of a
kind that is a matter of the unit. An integer and a double meet in the whole
part of the double: it is off by less than one, towards zero, and what it
leaves has the sign that puts it right. That it is taken as a word of 128
bits makes no difference beside integers of 64.
-/

namespace AttributeCache

namespace Double

variable {d : Double}

/-- The dyadic rational a double stands for. -/
def value (d : Double) : ℚ :=
  (if d.negative then -1 else 1) * d.significand * 2 ^ d.exponent

/-- A power of two in units of `2 ^ -n`. -/
theorem zpow_mul_shiftLeft {n : ℕ} {e : ℤ} (h : -n ≤ e) :
    (2 : ℚ) ^ e * ((1 <<< n : ℕ) : ℚ) = 2 ^ (e + n).toNat := by
  have hsum : ((e + n).toNat : ℤ) = e + n := by omega
  rw [Nat.one_shiftLeft, Nat.cast_pow, Nat.cast_ofNat, ← zpow_natCast, ← zpow_natCast, hsum,
    zpow_add₀ two_ne_zero]

theorem unitsPerOne_pos : 0 < unitsPerOne :=
  Nat.pos_of_ne_zero (Nat.shiftLeft_eq_zero_iff.not.2 one_ne_zero)

/-- Units are fractions of one. -/
theorem value_eq : d.value = d.units / unitsPerOne := by
  obtain ⟨-, hleast, -⟩ := d.canonical
  have hne : (unitsPerOne : ℚ) ≠ 0 := Nat.cast_ne_zero.2 unitsPerOne_pos.ne'
  have hpower : (2 : ℚ) ^ d.exponent * unitsPerOne = 2 ^ (d.exponent + 1074).toNat :=
    zpow_mul_shiftLeft hleast
  rw [value, units, Nat.shiftLeft_eq, eq_div_iff hne, mul_assoc, hpower]
  split <;> push_cast <;> ring

/-- The whole part and what it leaves. -/
theorem units_eq : d.units = d.whole * unitsPerOne + d.fractionUnits := by
  rw [whole, fractionUnits, Int.mul_comm, Int.mul_tdiv_add_tmod]

/-- What it leaves is less than one, on either side. -/
theorem fractionUnits_lt : d.fractionUnits < unitsPerOne :=
  Int.tmod_lt_of_pos _ (Int.natCast_pos.2 unitsPerOne_pos)

theorem lt_fractionUnits : -(unitsPerOne : ℤ) < d.fractionUnits :=
  Int.lt_tmod_of_pos _ (Int.natCast_pos.2 unitsPerOne_pos)

end Double

namespace Number

open Double

variable {i : Int} {d : Double}

/-- The rational a number stands for. -/
def value : Number → ℚ
  | .integer i _ => i
  | .double d => d.value

/-- Numbers are compared alike in ones and in units. -/
theorem compare_div_unitsPerOne (a b : Int) :
    Ord.compare ((a : ℚ) / unitsPerOne) (b / unitsPerOne) = Ord.compare a b := by
  have hpos : (0 : ℚ) < unitsPerOne := Nat.cast_pos.2 unitsPerOne_pos
  have hmono : StrictMono fun a : ℤ => (a : ℚ) / unitsPerOne := fun a b hab =>
    div_lt_div_of_pos_right (Int.cast_lt.2 hab) hpos
  rw [← cmp_eq_compare, ← cmp_eq_compare]
  exact hmono.cmp_map_eq a b

/-- Beside an integer of 64 bits, 128 bits are as good as any number. -/
theorem compare_saturate (h : InRange i) (j : Int) :
    Ord.compare i (saturate j) = Ord.compare i j := by
  obtain ⟨hlow, hhigh⟩ := h
  rcases lt_trichotomy i j with hlt | rfl | hgt
  · rw [compare_lt_iff_lt.2 hlt, compare_lt_iff_lt, saturate]
    omega
  · congr 1
    rw [saturate]
    omega
  · rw [compare_gt_iff_gt.2 hgt, compare_gt_iff_gt, saturate]
    omega

/-- **An integer and a double** are compared as in units. -/
theorem compareInteger_eq (h : InRange i) :
    compareInteger i d = Ord.compare (i * unitsPerOne) d.units := by
  have hbelow := d.lt_fractionUnits
  have habove := d.fractionUnits_lt
  rw [compareInteger, compare_saturate h, units_eq]
  rcases lt_trichotomy i d.whole with hlt | heq | hgt
  · -- the whole part is one more at least, and less than one too much
    have hone : (i + 1) * unitsPerOne ≤ d.whole * unitsPerOne :=
      Int.mul_le_mul_of_nonneg_right hlt (Int.natCast_nonneg _)
    rw [Int.add_mul] at hone
    rw [compare_lt_iff_lt.2 hlt, Ordering.lt_then, eq_comm, compare_lt_iff_lt]
    omega
  · rw [← heq, compare_eq_iff_eq.2 rfl, Ordering.eq_then]
    generalize i * (unitsPerOne : ℤ) = whole
    rcases lt_trichotomy 0 d.fractionUnits with hf | hf | hf
    · rw [compare_lt_iff_lt.2 hf, eq_comm, compare_lt_iff_lt]
      omega
    · rw [compare_eq_iff_eq.2 hf, eq_comm, compare_eq_iff_eq]
      omega
    · rw [compare_gt_iff_gt.2 hf, eq_comm, compare_gt_iff_gt]
      omega
  · have hone : (d.whole + 1) * unitsPerOne ≤ i * unitsPerOne :=
      Int.mul_le_mul_of_nonneg_right hgt (Int.natCast_nonneg _)
    rw [Int.add_mul] at hone
    rw [compare_gt_iff_gt.2 hgt, Ordering.gt_then, eq_comm, compare_gt_iff_gt]
    omega

/-- In ones as well. -/
theorem compareInteger_eq_value (h : InRange i) :
    compareInteger i d = Ord.compare (i : ℚ) d.value := by
  have hone : (i : ℚ) = ((i * unitsPerOne : ℤ) : ℚ) / unitsPerOne := by
    have hne : (unitsPerOne : ℚ) ≠ 0 := Nat.cast_ne_zero.2 unitsPerOne_pos.ne'
    rw [eq_div_iff hne, Int.cast_mul, Int.cast_natCast]
  rw [compareInteger_eq h, hone, value_eq, compare_div_unitsPerOne]

/-- **Numbers are compared as what they are worth.** -/
theorem compare_eq (a b : Number) : a.compare b = Ord.compare a.value b.value := by
  cases a with
  | integer i hi =>
    cases b with
    | integer j hj =>
      rw [compare, value, value, ← cmp_eq_compare, ← cmp_eq_compare]
      exact (Int.cast_strictMono.cmp_map_eq i j).symm
    | double d => exact compareInteger_eq_value hi
  | double d =>
    cases b with
    | integer i hi =>
      rw [compare, compareInteger_eq_value hi]
      exact Std.OrientedOrd.eq_swap.symm
    | double e =>
      rw [compare, value, value, value_eq, value_eq, compare_div_unitsPerOne]

theorem value_zero (negative : Bool) : (Number.double (.zero negative)).value = 0 := by
  simp [value, Double.value, zero]

/-- **The order of numbers is that of the rationals**, of any two and in all
three outcomes: an integer is the rational it is, a double the dyadic one,
and of a zero the sign does not count. -/
theorem compare_exact (a b : Number) :
    (a.compare b = .lt ↔ a.value < b.value) ∧ (a.compare b = .eq ↔ a.value = b.value) ∧
      (a.compare b = .gt ↔ b.value < a.value) ∧
      ∀ negative, (Number.double (.zero negative)).value = 0 := by
  rw [compare_eq]
  exact ⟨compare_lt_iff_lt, compare_eq_iff_eq, compare_gt_iff_gt, value_zero⟩

/-- Where the two representations part: `2 ^ 53 + 1` and the double that is
nearest to it, `2 ^ 64 - 1` and the double `2 ^ 200`, and `-1` and `-1.5`. -/
example :
    let nearest : Double := ⟨false, 0x10000000000000, 1, by decide⟩
    let vast : Double := ⟨false, 0x10000000000000, 148, by decide⟩
    let half : Double := ⟨true, 0x18000000000000, -52, by decide⟩
    compare (.integer 0x20000000000001 (by decide)) (.double nearest) = .gt ∧
      compare (.integer 0xffffffffffffffff (by decide)) (.double vast) = .lt ∧
      compare (.double half) (.integer (-1) (by decide)) = .lt := by
  decide +kernel

end Number

end AttributeCache
