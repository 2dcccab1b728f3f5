import AttributeCache.Proofs.Stamp.Order
import Mathlib.Order.Lattice
/-!
# What the clock issues

To receive a stamp is to tick from the later of the two
(`receive_eq_tick_max`), so all there is to say of either is said of a tick.
It is said in whole numbers (`Advances`): wall times and counters are words,
and a statement in words would hold as well where one of them wraps. Where
the step does not go forward is the boundary: at the greatest counter, and
nowhere else, the reading has to help.
-/

namespace AttributeCache

namespace Stamp

variable {a b s other : Stamp} {now : UInt64} {n : UInt32}

/-! ## Parts in whole numbers -/

/-- The counter counts one on, or stands at its greatest value. -/
theorem toNat_bump_eq_min : (bump n).toNat = min (n.toNat + 1) lastLogical.toNat := by
  have hmax : n.toNat ≤ lastLogical.toNat := UInt32.le_iff_toNat_le.1 le_lastLogical
  by_cases h : n = lastLogical
  · rw [h, bump_lastLogical]
    omega
  · have hne : n.toNat ≠ lastLogical.toNat := fun he => h (UInt32.toNat_inj.1 he)
    rw [toNat_bump h]
    omega

/-- The later of two stamps has the later wall time. -/
theorem toNat_wall_max : (max a b).wall.toNat = max a.wall.toNat b.wall.toNat := by
  rcases le_total a b with h | h
  · have hwall := UInt64.le_iff_toNat_le.1 (wall_le_of_le h)
    rw [max_eq_right h]
    omega
  · have hwall := UInt64.le_iff_toNat_le.1 (wall_le_of_le h)
    rw [max_eq_left h]
    omega

/-! ## Receiving -/

theorem max_of_le {v w : UInt64} (h : v ≤ w) : max v w = w := if_pos h

theorem max_of_lt {v w : UInt64} (h : w < v) : max v w = v := if_neg (UInt64.not_le.2 h)

/-- Received by an earlier stamp, a stamp ticks: the earlier one has no wall
time of its own to add, nor a counter that is not passed already. -/
theorem receive_of_le (h : s ≤ other) : s.receive now other = other.tick now := by
  have hle : s.wall ≤ other.wall := wall_le_of_le h
  apply eq_of_parts
  · rw [receive_wall, tick_wall, max_of_le hle]
  · unfold receive
    simp only [max_of_le hle]
    rcases UInt64.lt_or_le other.wall now with hnow | hnow
    · -- the reading is ahead of both
      have hs : now ≠ s.wall := by
        rintro rfl
        exact UInt64.lt_irrefl _ (UInt64.lt_of_le_of_lt hle hnow)
      have hother : now ≠ other.wall := by
        rintro rfl
        exact UInt64.lt_irrefl _ hnow
      rw [max_of_lt hnow, if_neg hs, if_neg hother, tick_of_lt hnow]
      rfl
    · rw [max_of_le hnow, tick_of_le hnow]
      split
      · -- in one millisecond the order is that of the counters
        rename_i hs
        have hlogical : s.logical ≤ other.logical := by
          rcases le_iff.1 h with hlt | ⟨-, hlogical⟩
          · exact absurd (hs ▸ hlt) (UInt64.lt_irrefl _)
          · exact hlogical
        have hmax : max s.logical other.logical = other.logical := if_pos hlogical
        rw [if_pos rfl, hmax]
      · rw [if_pos rfl]

/-- **To receive is to tick from the later stamp.** -/
theorem receive_eq_tick_max : s.receive now other = (max s other).tick now := by
  rcases le_total s other with h | h
  · rw [max_eq_right h, receive_of_le h]
  · rw [max_eq_left h, receive_comm, receive_of_le h]

/-! ## A step of the clock -/

/-- What a clock that stands at `s` issues at a reading, in numbers that have
no end: so nothing overflows, and nothing is taken modulo a word. -/
structure Advances (now : UInt64) (s next : Stamp) : Prop where
  not_back : s ≤ next
  /-- It goes forward unless the counter is at its end and the reading does
  not help. -/
  forward_iff : s < next ↔ s.wall < now ∨ s.logical < lastLogical
  wall : next.wall.toNat = max now.toNat s.wall.toNat
  /-- The counter starts anew with a new wall time. -/
  logical : next.logical.toNat =
    if s.wall < now then 0 else min (s.logical.toNat + 1) lastLogical.toNat

theorem logical_ne_iff : n ≠ lastLogical ↔ n < lastLogical := by
  have hmax : n.toNat ≤ lastLogical.toNat := UInt32.le_iff_toNat_le.1 le_lastLogical
  rw [ne_eq, ← UInt32.toNat_inj, UInt32.lt_iff_toNat_lt]
  omega

theorem advances_tick (now : UInt64) (s : Stamp) : Advances now s (s.tick now) where
  not_back := le_tick
  forward_iff := by rw [lt_tick_iff, logical_ne_iff]
  wall := by rw [tick_wall, toNat_max]
  logical := by
    rcases UInt64.lt_or_le s.wall now with h | h
    · rw [tick_of_lt h, if_pos h]
      rfl
    · rw [tick_of_le h, if_neg (UInt64.not_lt.2 h)]
      exact toNat_bump_eq_min

/-- **What the clock issues.** A tick is a step on from the stamp, and
receiving one is a step on from the later of the two stamps, whichever of
them is the clock's: never back, and forward exactly where the reading has
passed that stamp or its counter has a next value. The wall time is the
latest of all that are involved. -/
theorem issues_exactly (now : UInt64) (a b : Stamp) :
    Advances now a (a.tick now) ∧ Advances now (max a b) (a.receive now b) ∧
      (a.receive now b).wall.toNat = max now.toNat (max a.wall.toNat b.wall.toNat) ∧
      a.receive now b = b.receive now a := by
  have hreceive : Advances now (max a b) (a.receive now b) := by
    rw [receive_eq_tick_max]
    exact advances_tick now (max a b)
  refine ⟨advances_tick now a, hreceive, ?_, receive_comm⟩
  rw [hreceive.wall, toNat_wall_max]

end Stamp

end AttributeCache
