import AttributeCache.Text.Decimal
import Mathlib.Data.Nat.Digits.Defs
import Mathlib.Tactic.IntervalCases
/-!
# Digits come back as the number they write

Decimal digits are core's, without a zero in front. Hexadecimal digits come
in a fixed width, so only what fits the width comes back. More is read than
is written: an unsigned decimal may have zeros and a `+` in front
(`IsUnsigned`), and what is read is just that (`readUnsigned?_eq_some_iff`).
-/

namespace AttributeCache.Text

variable {n d width bound : Nat} {c : Char} {s digits : List Char}

/-! ## Decimal digits -/

theorem digitsValue_toDigits : digitsValue (Nat.toDigits 10 n) = n :=
  Nat.ofDigitChars_ten_toDigits

/-- Only zero starts with a zero, and it is that alone. -/
theorem head?_toDigits_ne_zero (h : n ≠ 0) : (Nat.toDigits 10 n).head? ≠ some '0' := by
  induction n using Nat.strongRecOn with
  | ind n ih =>
    rcases Nat.lt_or_ge n 10 with hlt | hge
    · rw [Nat.toDigits_of_lt_base hlt]
      interval_cases n
      · exact absurd rfl h
      all_goals decide
    · rw [Nat.toDigits_of_base_le (by omega) hge]
      have hhead : (Nat.toDigits 10 (n / 10) ++ [(n % 10).digitChar]).head? =
          (Nat.toDigits 10 (n / 10)).head? := by
        cases hdigits : Nat.toDigits 10 (n / 10) with
        | nil => exact absurd hdigits Nat.toDigits_ne_nil
        | cons c rest => rfl
      rw [hhead]
      exact ih (n / 10) (by omega) (by omega)

/-- There is no zero in front of other digits. -/
theorem toDigits_leading (n : Nat) :
    ((Nat.toDigits 10 n).head? == some '0' && decide (1 < (Nat.toDigits 10 n).length)) = false := by
  rcases Nat.eq_zero_or_pos n with rfl | hpos
  · rfl
  · have hne := head?_toDigits_ne_zero (Nat.pos_iff_ne_zero.1 hpos)
    simp [hne]

theorem isDigit_of_mem_toDigits (h : c ∈ Nat.toDigits 10 n) : c.isDigit = true :=
  Nat.isDigit_of_mem_toDigits (by decide) (by decide) h

/-- A number comes back from its digits if it is below the bound. -/
theorem readUnsigned?_toDigits (h : n < bound) :
    readUnsigned? bound (Nat.toDigits 10 n) = some n := by
  have hdigits : readDigits? (Nat.toDigits 10 n) = some n := by
    rw [readDigits?, if_pos, digitsValue_toDigits]
    rw [Bool.and_eq_true, List.all_eq_true]
    exact ⟨by simp, fun c hc => isDigit_of_mem_toDigits hc⟩
  rw [readUnsigned?, hdigits, Option.filter_some, if_pos (decide_eq_true h)]
  intro rest hplus
  have hdigit : '+'.isDigit = true :=
    isDigit_of_mem_toDigits (hplus ▸ List.mem_cons_self : '+' ∈ Nat.toDigits 10 n)
  exact absurd hdigit (by decide)

/-! ## Unsigned decimals -/

/-- One or more ASCII digits, with or without a `+` in front, that write a
number in base ten. -/
def IsUnsigned (s : List Char) (n : Nat) : Prop :=
  ∃ digits : List Char, (s = digits ∨ s = '+' :: digits) ∧ digits ≠ [] ∧
    (∀ c ∈ digits, '0' ≤ c ∧ c ≤ '9') ∧
    Nat.ofDigits 10 (digits.reverse.map fun c => c.toNat - '0'.toNat) = n

theorem isDigit_iff : c.isDigit = true ↔ '0' ≤ c ∧ c ≤ '9' := by
  rw [Char.isDigit, Bool.and_eq_true, decide_eq_true_iff, decide_eq_true_iff]
  exact Iff.rfl

/-- The value of digits is their value in base ten. -/
theorem digitsValue_eq_ofDigits :
    digitsValue digits = Nat.ofDigits 10 (digits.reverse.map fun c => c.toNat - '0'.toNat) := by
  rw [Nat.ofDigits_eq_foldr, List.foldr_map, List.foldr_reverse, digitsValue]
  congr 1
  funext n c
  exact Nat.add_comm _ _

theorem readDigits?_eq_some_iff : readDigits? digits = some n ↔
    digits ≠ [] ∧ (∀ c ∈ digits, '0' ≤ c ∧ c ≤ '9') ∧
      Nat.ofDigits 10 (digits.reverse.map fun c => c.toNat - '0'.toNat) = n := by
  have hdigits : (!digits.isEmpty && digits.all Char.isDigit) = true ↔
      digits ≠ [] ∧ ∀ c ∈ digits, '0' ≤ c ∧ c ≤ '9' := by
    simp only [Bool.and_eq_true, Bool.not_eq_true', List.isEmpty_eq_false_iff, List.all_eq_true,
      isDigit_iff]
  rw [readDigits?, digitsValue_eq_ofDigits]
  split
  · rename_i h
    obtain ⟨hne, hall⟩ := hdigits.1 h
    rw [Option.some.injEq]
    exact ⟨fun hn => ⟨hne, hall, hn⟩, fun hn => hn.2.2⟩
  · rename_i h
    exact iff_of_false (by simp) fun hn => h (hdigits.2 ⟨hn.1, hn.2.1⟩)

/-- **What is read is an unsigned decimal below the bound**, and nothing
else. -/
theorem readUnsigned?_eq_some_iff :
    readUnsigned? bound s = some n ↔ IsUnsigned s n ∧ n < bound := by
  have hplus : ¬ ('0' ≤ '+' ∧ '+' ≤ '9') := by decide
  unfold readUnsigned?
  rw [Option.filter_eq_some_iff, decide_eq_true_iff]
  refine and_congr_left fun _ => ?_
  split
  · -- a `+` in front is no digit, so it is the sign
    rename_i rest
    rw [readDigits?_eq_some_iff]
    constructor
    · intro h
      exact ⟨rest, .inr rfl, h⟩
    · rintro ⟨digits, rfl | hsign, hne, hall, hn⟩
      · exact absurd (hall '+' List.mem_cons_self) hplus
      · cases hsign
        exact ⟨hne, hall, hn⟩
  · rename_i hnosign
    rw [readDigits?_eq_some_iff]
    constructor
    · intro h
      exact ⟨s, .inl rfl, h⟩
    · rintro ⟨digits, rfl | hsign, h⟩
      · exact h
      · exact absurd hsign (hnosign digits)

/-- There is nothing but digits and the sign in it. -/
theorem IsUnsigned.mem (h : IsUnsigned s n) (hc : c ∈ s) : ('0' ≤ c ∧ c ≤ '9') ∨ c = '+' := by
  obtain ⟨digits, rfl | rfl, -, hall, -⟩ := h
  · exact .inl (hall c hc)
  · rcases List.mem_cons.1 hc with rfl | hc
    · exact .inr rfl
    · exact .inl (hall c hc)

/-! ## Hexadecimal digits -/

theorem length_hexDigits : (hexDigits width n).length = width := by
  induction width generalizing n with
  | zero => rfl
  | succ width ih => rw [hexDigits, List.length_append, ih, List.length_singleton]

theorem exists_of_mem_hexDigits (h : c ∈ hexDigits width n) : ∃ d, d < 16 ∧ c = d.digitChar := by
  induction width generalizing n with
  | zero => exact absurd h List.not_mem_nil
  | succ width ih =>
    rw [hexDigits, List.mem_append, List.mem_singleton] at h
    rcases h with h | h
    · exact ih h
    · exact ⟨n % 16, Nat.mod_lt n (by decide), h⟩

theorem digitIn?_digitChar (h : d < 16) : digitIn? 16 d.digitChar = some d := by
  interval_cases d <;> decide

/-- Digits read behind a number come behind its own. -/
theorem foldlM_hexDigits (before : Nat) :
    (hexDigits width n).foldlM (fun m c => (digitIn? 16 c).map (16 * m + ·)) before =
      some (16 ^ width * before + n % 16 ^ width) := by
  induction width generalizing n with
  | zero => simp [hexDigits, Nat.mod_one]
  | succ width ih =>
    have hlow : n % 16 ^ (width + 1) = 16 * (n / 16 % 16 ^ width) + n % 16 := by
      rw [Nat.pow_succ', Nat.mod_mul]
      omega
    have hhigh : 16 ^ (width + 1) * before = 16 * (16 ^ width * before) := by
      rw [Nat.pow_succ', Nat.mul_assoc]
    rw [hexDigits, List.foldlM_append, ih, hlow, hhigh]
    simp [digitIn?_digitChar (Nat.mod_lt n (by decide : 0 < 16))]
    omega

/-- **A number comes back from its digits** where these are wide enough. -/
theorem readHex?_hexDigits (h : n < 16 ^ width) : readHex? (hexDigits width n) = some n := by
  rw [readHex?, readInBase?, foldlM_hexDigits, Nat.mod_eq_of_lt h, Nat.mul_zero, Nat.zero_add]

end AttributeCache.Text
