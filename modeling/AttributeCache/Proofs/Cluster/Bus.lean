import AttributeCache.Cluster.Bus
/-!
# What a bus recalls

A bus keeps the last of all that was ever put on it, and a receiver is a
place in that history: it is handed what stands there, or told how much of
it is gone. So no receiver is handed one entry twice.
-/

namespace AttributeCache

namespace Bus

variable {b : Bus} {r : Receiver} {m : Invalidation} {log : List Invalidation}

theorem capacity_publish : (b.publish m).1.capacity = b.capacity := by
  rw [publish]
  split <;> rfl

theorem listeners_publish : (b.publish m).1.listeners = b.listeners := by
  rw [publish]
  split <;> rfl

theorem capacity_ofCapacity {capacity : Nat} : 0 < (ofCapacity capacity).capacity :=
  Nat.pos_of_isPowerOfTwo (Nat.isPowerOfTwo_nextPowerOfTwo _)

/-- The bus keeps the last of these messages, and has counted them all. -/
structure Recalls (log : List Invalidation) (b : Bus) : Prop where
  sent : b.sent = log.length
  recent : b.recent = lastOf b.capacity log

namespace Recalls

theorem empty {capacity listeners : Nat} : Recalls [] ⟨capacity, [], 0, listeners⟩ :=
  ⟨rfl, by rw [lastOf, List.drop_nil]⟩

theorem oldest_eq (h : Recalls log b) : b.oldest = log.length - b.capacity := by
  rw [oldest, h.sent, h.recent, lastOf, List.length_drop]
  omega

/-- What is kept begins with the oldest. -/
theorem recent_eq (h : Recalls log b) : b.recent = log.drop b.oldest := by
  rw [h.oldest_eq, h.recent, lastOf]

theorem oldest_le (h : Recalls log b) : b.oldest ≤ log.length := by
  rw [h.oldest_eq]
  omega

/-- One more message, where there is a receiver. -/
theorem publish (h : Recalls log b) (hlisteners : b.listeners ≠ 0) (m : Invalidation) :
    Recalls (log ++ [m]) (b.publish m).1 := by
  rw [Bus.publish, if_neg hlisteners]
  refine ⟨?_, ?_⟩
  · simp only [h.sent, List.length_append, List.length_singleton]
  · have hle := h.oldest_le
    have holdest := h.oldest_eq
    -- what was kept and the message end the history; the bus drops from the front of that
    have hkept : b.recent ++ [m] = (log ++ [m]).drop b.oldest := by
      rw [h.recent_eq, List.drop_append_of_le_length hle]
    simp only [hkept, lastOf, List.length_drop, List.length_append, List.length_singleton,
      List.drop_drop]
    congr 1
    omega

/-- **What a receiver is handed**: nothing behind the last entry, else the
entry it has come to, if that is kept, and otherwise word of how many are
gone. -/
theorem receive_cases (h : Recalls log b) (hle : r.next ≤ log.length) :
    (r.next = log.length ∧ b.receive r = (none, r)) ∨
      (∃ m, log[r.next]? = some m ∧ b.oldest ≤ r.next ∧
        b.receive r = (some (.message m), ⟨r.next + 1⟩)) ∨
      (r.next < b.oldest ∧ b.receive r = (some (.lagged (b.oldest - r.next)), ⟨b.oldest⟩)) := by
  by_cases hlag : r.next < b.oldest
  · refine .inr (.inr ⟨hlag, ?_⟩)
    rw [receive, pending, if_pos hlag]
  · have hkept : b.recent.drop (r.next - b.oldest) = log.drop r.next := by
      rw [h.recent_eq, List.drop_drop]
      congr 1
      omega
    rcases Nat.lt_or_eq_of_le hle with hlt | heq
    · refine .inr (.inl ⟨log[r.next], List.getElem?_eq_getElem hlt, Nat.not_lt.1 hlag, ?_⟩)
      rw [receive, pending, if_neg hlag, hkept, List.drop_eq_getElem_cons hlt, List.map_cons]
    · refine .inl ⟨heq, ?_⟩
      rw [receive, pending, if_neg hlag, hkept, heq, List.drop_length, List.map_nil]

end Recalls

end Bus

end AttributeCache
