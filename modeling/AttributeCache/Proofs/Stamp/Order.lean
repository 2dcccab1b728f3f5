import Mathlib.Order.Defs.LinearOrder
import AttributeCache.Stamp
/-!
# The order of stamps, and what the clock does to it

Stamps are ordered linearly, by wall time and then by counter: by `rank`,
the number whose upper bits are the one and whose lower bits the other.
`tick` and `receive` never go back (`le_tick`, `le_receive_left`,
`le_receive_right`). Where a tick does not go forward either is the one
place that matters: it leaves the stamp as it is exactly when the counter
stands at its greatest value and the wall clock has not passed the stamp
(`lt_tick_iff`).
-/

namespace AttributeCache

namespace Stamp

variable {a b s other : Stamp} {now : UInt64} {n : UInt32}

/-! ## The order -/

/-- Later by wall time, or by counter within one millisecond. -/
theorem lt_iff : a < b ↔ a.wall < b.wall ∨ a.wall = b.wall ∧ a.logical < b.logical := by
  change (compare a.wall b.wall).then (compare a.logical b.logical) = .lt ↔ _
  rw [Ordering.then_eq_lt, Std.compare_eq_lt, Std.compare_eq_iff_eq, Std.compare_eq_lt]

/-- Not later, in the same terms. -/
theorem le_iff : a ≤ b ↔ a.wall < b.wall ∨ a.wall = b.wall ∧ a.logical ≤ b.logical := by
  change ((compare a.wall b.wall).then (compare a.logical b.logical)).isLE = true ↔ _
  rw [Ordering.isLE_then_iff_or, Std.compare_eq_lt, Std.compare_eq_iff_eq, Std.isLE_compare]

/-- Equal in both parts. -/
theorem eq_of_parts (hw : a.wall = b.wall) (hl : a.logical = b.logical) : a = b := by
  cases a
  cases b
  cases hw
  cases hl
  rfl

/-- The place of a stamp among all stamps. -/
def rank (s : Stamp) : Nat := s.wall.toNat * 0x100000000 + s.logical.toNat

theorem lt_iff_rank : a < b ↔ a.rank < b.rank := by
  have ha := a.logical.toNat_lt
  have hb := b.logical.toNat_lt
  rw [lt_iff, UInt64.lt_iff_toNat_lt, UInt32.lt_iff_toNat_lt, ← UInt64.toNat_inj, rank, rank]
  omega

theorem le_iff_rank : a ≤ b ↔ a.rank ≤ b.rank := by
  have ha := a.logical.toNat_lt
  have hb := b.logical.toNat_lt
  rw [le_iff, UInt64.lt_iff_toNat_lt, UInt32.le_iff_toNat_le, ← UInt64.toNat_inj, rank, rank]
  omega

theorem rank_injective (h : a.rank = b.rank) : a = b := by
  have ha := a.logical.toNat_lt
  have hb := b.logical.toNat_lt
  simp only [rank] at h
  exact eq_of_parts (UInt64.toNat_inj.1 (by omega)) (UInt32.toNat_inj.1 (by omega))

theorem compare_eq_eq_iff : compare a b = .eq ↔ a = b := by
  change (compare a.wall b.wall).then (compare a.logical b.logical) = .eq ↔ _
  rw [Ordering.then_eq_eq, Std.compare_eq_iff_eq, Std.compare_eq_iff_eq]
  constructor
  · rintro ⟨hw, hl⟩
    exact eq_of_parts hw hl
  · rintro rfl
    exact ⟨rfl, rfl⟩

/-- The order is linear. -/
instance : LinearOrder Stamp where
  le_refl a := le_iff_rank.2 (Nat.le_refl _)
  le_trans a b c hab hbc := le_iff_rank.2 (Nat.le_trans (le_iff_rank.1 hab) (le_iff_rank.1 hbc))
  le_antisymm a b hab hba :=
    rank_injective (Nat.le_antisymm (le_iff_rank.1 hab) (le_iff_rank.1 hba))
  le_total a b := by
    rw [le_iff_rank, le_iff_rank]
    exact Nat.le_total _ _
  lt_iff_le_not_ge a b := by
    rw [lt_iff_rank, le_iff_rank, le_iff_rank]
    omega
  toDecidableLE := inferInstance
  toDecidableLT := inferInstance
  min a b := if a ≤ b then a else b
  max a b := if a ≤ b then b else a
  compare_eq_compareOfLessAndEq a b := by
    have hlt : compare a b = .lt ↔ a < b := Iff.rfl
    have heq := compare_eq_eq_iff (a := a) (b := b)
    rw [compareOfLessAndEq]
    cases h : compare a b with
    | lt => rw [if_pos (hlt.1 h)]
    | eq =>
      rw [if_neg fun hl => ?_, if_pos (heq.1 h)]
      exact absurd (h.symm.trans (hlt.2 hl)) (by decide)
    | gt =>
      rw [if_neg fun hl => ?_, if_neg fun he => ?_]
      · exact absurd (h.symm.trans (heq.2 he)) (by decide)
      · exact absurd (h.symm.trans (hlt.2 hl)) (by decide)

theorem isAfter_iff : a.isAfter b = true ↔ b < a := by
  rw [isAfter, beq_iff_eq, compare_gt_iff_gt]

/-- The wall time does not decrease along the order. -/
theorem wall_le_of_le (h : a ≤ b) : a.wall ≤ b.wall := by
  rcases le_iff.1 h with h | ⟨h, -⟩
  · exact UInt64.le_of_lt h
  · exact h ▸ UInt64.le_refl _

/-! ## The counter -/

/-- The greatest value of the counter. -/
def lastLogical : UInt32 := 0xFFFFFFFF

theorem le_lastLogical : n ≤ lastLogical := by
  rw [UInt32.le_iff_toNat_le]
  have := n.toNat_lt
  simp only [lastLogical, UInt32.reduceToNat]
  omega

/-- Past its greatest value the counter stands still. -/
@[simp] theorem bump_lastLogical : bump lastLogical = lastLogical := rfl

theorem toNat_bump (h : n ≠ lastLogical) : (bump n).toNat = n.toNat + 1 := by
  have hlt : n.toNat ≠ lastLogical.toNat := fun he => h (UInt32.toNat_inj.1 he)
  have hmax := n.toNat_lt
  simp only [lastLogical, UInt32.reduceToNat] at hlt
  have hb : bump n = n + 1 := if_neg h
  rw [hb, UInt32.toNat_add, Nat.mod_eq_of_lt]
  · rfl
  · simp only [UInt32.reduceToNat]
    omega

theorem lt_bump (h : n ≠ lastLogical) : n < bump n := by
  rw [UInt32.lt_iff_toNat_lt, toNat_bump h]
  exact Nat.lt_succ_self _

theorem le_bump : n ≤ bump n := by
  by_cases h : n = lastLogical
  · rw [h, bump_lastLogical]
    exact UInt32.le_refl _
  · exact UInt32.le_of_lt (lt_bump h)

/-! ## Ticking -/

theorem tick_of_lt (h : s.wall < now) : s.tick now = ofWall now := if_pos h

theorem tick_of_le (h : now ≤ s.wall) : s.tick now = ⟨s.wall, bump s.logical⟩ :=
  if_neg (UInt64.not_lt.2 h)

/-- A tick never goes back. -/
theorem le_tick : s ≤ s.tick now := by
  rcases UInt64.lt_or_le s.wall now with h | h
  · rw [tick_of_lt h]
    exact le_iff.2 (.inl h)
  · rw [tick_of_le h]
    exact le_iff.2 (.inr ⟨rfl, le_bump⟩)

/-- **Where a tick goes forward**: where the wall clock has passed the
stamp, and else as long as the counter has a next value. -/
theorem lt_tick_iff : s < s.tick now ↔ s.wall < now ∨ s.logical ≠ lastLogical := by
  rcases UInt64.lt_or_le s.wall now with h | h
  · rw [tick_of_lt h]
    exact iff_of_true (lt_iff.2 (.inl h)) (.inl h)
  · rw [tick_of_le h, lt_iff]
    constructor
    · rintro (hw | ⟨-, hl⟩)
      · exact absurd hw (UInt64.lt_irrefl _)
      · refine .inr fun he => ?_
        rw [he, bump_lastLogical] at hl
        exact UInt32.lt_irrefl _ hl
    · rintro (hw | hl)
      · exact absurd hw (UInt64.not_lt.2 h)
      · exact .inr ⟨rfl, lt_bump hl⟩

/-- A tick that does not end at the greatest counter has gone forward. -/
theorem lt_tick_of_logical (h : (s.tick now).logical ≠ lastLogical) : s < s.tick now := by
  rw [lt_tick_iff]
  by_contra hstays
  rw [not_or, Classical.not_not] at hstays
  rw [tick_of_le (UInt64.not_lt.1 hstays.1), hstays.2] at h
  exact h rfl

/-- The epoch is before all. -/
theorem epoch_le (s : Stamp) : epoch ≤ s :=
  le_iff_rank.2 (Nat.zero_le _)

/-! ## Receiving -/

theorem toNat_max (v w : UInt64) : (max v w).toNat = max v.toNat w.toNat := by
  change (if v ≤ w then w else v).toNat = _
  split <;> rename_i h <;> rw [UInt64.le_iff_toNat_le] at h <;> omega

theorem toNat_max32 (v w : UInt32) : (max v w).toNat = max v.toNat w.toNat := by
  change (if v ≤ w then w else v).toNat = _
  split <;> rename_i h <;> rw [UInt32.le_iff_toNat_le] at h <;> omega

/-- A tick takes on the reading, unless that lies behind. -/
theorem tick_wall : (s.tick now).wall = max now s.wall := by
  apply UInt64.toNat_inj.1
  rw [toNat_max]
  rcases UInt64.lt_or_le s.wall now with h | h
  · rw [tick_of_lt h]
    have := UInt64.lt_iff_toNat_lt.1 h
    simp only [ofWall]
    omega
  · rw [tick_of_le h]
    have := UInt64.le_iff_toNat_le.1 h
    simp only
    omega

theorem receive_wall : (s.receive now other).wall = max now (max s.wall other.wall) := rfl

/-- Receiving takes on the latest of the three wall times, and where
that is one stamp's own, goes past its counter. -/
theorem le_receive_left : s ≤ s.receive now other := by
  have hw : s.wall.toNat ≤ (s.receive now other).wall.toNat := by
    rw [receive_wall, toNat_max, toNat_max]
    omega
  rcases Nat.lt_or_eq_of_le hw with h | h
  · exact le_iff.2 (.inl (UInt64.lt_iff_toNat_lt.2 h))
  · have hs : (s.receive now other).wall = s.wall := (UInt64.toNat_inj.1 h).symm
    refine le_iff.2 (.inr ⟨hs.symm, ?_⟩)
    simp only [receive]
    rw [receive_wall] at hs
    rw [if_pos hs]
    split
    · refine UInt32.le_trans ?_ le_bump
      rw [UInt32.le_iff_toNat_le, toNat_max32]
      omega
    · exact le_bump

/-- Which of the two stamps is the clock's makes no difference. -/
theorem receive_comm : s.receive now other = other.receive now s := by
  have hw : max s.wall other.wall = max other.wall s.wall := by
    apply UInt64.toNat_inj.1
    rw [toNat_max, toNat_max, Nat.max_comm]
  have hl : max s.logical other.logical = max other.logical s.logical := by
    apply UInt32.toNat_inj.1
    rw [toNat_max32, toNat_max32, Nat.max_comm]
  apply eq_of_parts
  · rw [receive_wall, receive_wall, hw]
  · simp only [receive, hw, hl]
    by_cases h : max now (max other.wall s.wall) = s.wall
    · by_cases h' : max now (max other.wall s.wall) = other.wall
      · rw [if_pos h, if_pos h', if_pos h', if_pos h]
      · rw [if_pos h, if_neg h', if_neg h', if_pos h]
    · by_cases h' : max now (max other.wall s.wall) = other.wall
      · rw [if_neg h, if_pos h', if_pos h', if_neg h]
      · rw [if_neg h, if_neg h', if_neg h', if_neg h]

theorem le_receive_right : other ≤ s.receive now other :=
  receive_comm ▸ le_receive_left

end Stamp

end AttributeCache
