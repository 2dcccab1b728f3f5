import AttributeCache.Proofs.Cluster.Bus
/-!
# What a receiver has been handed

A receiver goes through the history of its bus from where it subscribed.
What it was handed makes up the stretch behind it: each entry by itself, or
one word of a lag for a run of entries that were gone. So no entry is
skipped in silence, and where there was no lag the receiver was handed the
history as it is.
-/

namespace AttributeCache

namespace Delivery

/-- Whether a delivery is a message of another node. -/
def isForeign (self : NodeId) : Delivery → Bool
  | .message m => m.origin != self
  | .lagged _ => false

/-- Whether a delivery is word of a lag. -/
def isLag : Delivery → Bool
  | .message _ => false
  | .lagged _ => true

end Delivery

namespace Bus

/-- These deliveries make up these messages. -/
inductive Covers : List Invalidation → List Delivery → Prop where
  | nothing : Covers [] []
  | message {messages : List Invalidation} {deliveries : List Delivery} (m : Invalidation) :
    Covers messages deliveries → Covers (messages ++ [m]) (deliveries ++ [.message m])
  /-- One word of a lag, and it tells how many messages it stands for. -/
  | lagged {messages gone : List Invalidation} {deliveries : List Delivery} :
    Covers messages deliveries → gone ≠ [] →
    Covers (messages ++ gone) (deliveries ++ [.lagged gone.length])

variable {b : Bus} {r r' : Receiver} {m : Invalidation} {d : Delivery}
variable {log messages : List Invalidation} {deliveries : List Delivery} {start : Nat}

/-! ## The uses of a bus -/

/-- What anyone can do with a bus. -/
inductive Use where
  | send (m : Invalidation)
  | join
  /-- One receiver less, if there is any. -/
  | leave

/-- The bus behind a use. -/
def use (b : Bus) : Use → Bus
  | .send m => (b.publish m).1
  | .join => b.subscribe.1
  | .leave => b.unsubscribe

theorem Recalls.subscribe (h : Recalls log b) : Recalls log b.subscribe.1 :=
  ⟨h.sent, h.recent⟩

theorem Recalls.unsubscribe (h : Recalls log b) : Recalls log b.unsubscribe :=
  ⟨h.sent, h.recent⟩

/-- **Every bus in use recalls a history**: what was sent while somebody
was there to receive it. -/
theorem exists_recalls_uses (capacity : Nat) (uses : List Use) :
    ∃ log, Recalls log (uses.foldl use (ofCapacity capacity)) := by
  suffices h : ∀ b : Bus, (∃ log, Recalls log b) → ∃ log, Recalls log (uses.foldl use b) from
    h _ ⟨[], .empty⟩
  induction uses with
  | nil => exact fun b hb => hb
  | cons u rest ih =>
    rintro b ⟨log, hlog⟩
    refine ih (b.use u) ?_
    cases u with
    | send m =>
      by_cases hnone : b.listeners = 0
      · exact ⟨log, by rwa [use, publish, if_pos hnone]⟩
      · exact ⟨log ++ [m], hlog.publish hnone m⟩
    | join => exact ⟨log, hlog.subscribe⟩
    | leave => exact ⟨log, hlog.unsubscribe⟩

/-! ## The stretch that was handed out -/

/-- Without a lag the deliveries are the messages. -/
theorem Covers.eq_of_no_lag (h : Covers messages deliveries)
    (hno : deliveries.countP Delivery.isLag = 0) : deliveries = messages.map .message := by
  induction h with
  | nothing => rfl
  | message m _ ih =>
    rw [List.countP_append, Nat.add_eq_zero_iff] at hno
    rw [ih hno.1, List.map_append, List.map_singleton]
  | lagged _ _ _ =>
    rw [List.countP_append, Nat.add_eq_zero_iff] at hno
    exact absurd hno.2 Nat.one_ne_zero

/-- A receiver that subscribed when so many messages were out has been
handed these deliveries since. -/
structure Reads (log : List Invalidation) (start : Nat) (r : Receiver)
    (deliveries : List Delivery) : Prop where
  start_le : start ≤ r.next
  next_le : r.next ≤ log.length
  covers : Covers ((log.take r.next).drop start) deliveries

namespace Reads

theorem subscribe (h : Recalls log b) : Reads log log.length b.subscribe.2 [] := by
  have hnext : b.subscribe.2.next = log.length := h.sent
  refine ⟨Nat.le_of_eq hnext.symm, Nat.le_of_eq hnext, ?_⟩
  rw [hnext, List.take_length, List.drop_length]
  exact .nothing

/-- What is sent lies ahead of the receiver. -/
theorem send (h : Reads log start r deliveries) (m : Invalidation) :
    Reads (log ++ [m]) start r deliveries := by
  have hle : r.next ≤ (log ++ [m]).length := by
    have hold := h.next_le
    rw [List.length_append]
    omega
  refine ⟨h.start_le, hle, ?_⟩
  rw [List.take_append_of_le_length h.next_le]
  exact h.covers

/-- The stretch behind a receiver that moves on is what it was and what it
moved past. -/
theorem stretch_eq {next : Nat} (h : Reads log start r deliveries) (hle : r.next ≤ next) :
    (log.take next).drop start =
      (log.take r.next).drop start ++ (log.take next).drop r.next := by
  have hstart := h.start_le
  have hnext := h.next_le
  have hlength : start ≤ (log.take r.next).length := by
    rw [List.length_take]
    omega
  rw [← List.drop_append_of_le_length hlength]
  congr 1
  have hsplit := (List.take_append_drop r.next (log.take next)).symm
  rwa [List.take_take, Nat.min_eq_left hle] at hsplit

/-- **A receiver is handed the next of the history.** What it moves past is
the message it is handed, or all of what is gone. -/
theorem handed (h : Reads log start r deliveries) (hrecalls : Recalls log b)
    (hreceive : b.receive r = (some d, r')) :
    Reads log start r' (deliveries ++ [d]) ∧
      ((∃ m, d = .message m ∧ log[r.next]? = some m ∧ r'.next = r.next + 1) ∨
        ∃ missed, d = .lagged missed ∧ r.next < r'.next) := by
  have hstart := h.start_le
  rcases hrecalls.receive_cases h.next_le with ⟨-, hidle⟩ | ⟨m, hm, -, hmessage⟩ | ⟨hlt, hlag⟩
  · rw [hreceive] at hidle
    exact absurd (congrArg Prod.fst hidle) (by simp)
  · rw [hreceive] at hmessage
    obtain ⟨rfl, rfl⟩ : d = .message m ∧ r' = ⟨r.next + 1⟩ := by simpa using hmessage
    obtain ⟨hbound, -⟩ := List.getElem?_eq_some_iff.1 hm
    refine ⟨⟨Nat.le_succ_of_le hstart, hbound, ?_⟩, .inl ⟨m, rfl, hm, rfl⟩⟩
    have hpast : (log.take (r.next + 1)).drop r.next = [m] := by
      rw [List.take_add_one, hm, Option.toList_some,
        List.drop_append_of_le_length (by rw [List.length_take]; omega),
        List.drop_eq_nil_of_le (by rw [List.length_take]; omega), List.nil_append]
    rw [h.stretch_eq (Nat.le_succ _), hpast]
    exact h.covers.message m
  · rw [hreceive] at hlag
    obtain ⟨rfl, rfl⟩ : d = .lagged (b.oldest - r.next) ∧ r' = ⟨b.oldest⟩ := by simpa using hlag
    have hle : start ≤ b.oldest := Nat.le_trans hstart (Nat.le_of_lt hlt)
    have holdest := hrecalls.oldest_le
    refine ⟨⟨hle, holdest, ?_⟩, .inr ⟨_, rfl, hlt⟩⟩
    have hgone : ((log.take b.oldest).drop r.next).length = b.oldest - r.next := by
      rw [List.length_drop, List.length_take]
      omega
    have hsome : (log.take b.oldest).drop r.next ≠ [] := by
      rw [← List.length_pos_iff, hgone]
      omega
    rw [h.stretch_eq (Nat.le_of_lt hlt), ← hgone]
    exact h.covers.lagged hsome

/-- A receiver has nothing ahead of it at the end of the history, and only
there. -/
theorem pending_eq_nil_iff (h : Reads log start r deliveries) (hrecalls : Recalls log b) :
    b.pending r = [] ↔ r.next = log.length := by
  constructor
  · intro hnone
    have hreceive : b.receive r = (none, r) := by rw [receive, hnone]
    rcases hrecalls.receive_cases h.next_le with ⟨hend, -⟩ | ⟨m, -, -, hm⟩ | ⟨-, hlag⟩
    · exact hend
    · rw [hreceive] at hm
      exact absurd (congrArg Prod.fst hm) (by simp)
    · rw [hreceive] at hlag
      exact absurd (congrArg Prod.fst hlag) (by simp)
  · intro hend
    have hkept : ¬ r.next < b.oldest := by
      have holdest := hrecalls.oldest_le
      omega
    rw [pending, if_neg hkept, hrecalls.recent_eq, List.drop_drop,
      List.drop_eq_nil_of_le (by omega), List.map_nil]

/-- Handing out is taking off the front: the rest of what was pending is
pending then. -/
theorem pending_of_receive (h : Reads log start r deliveries) (hrecalls : Recalls log b)
    (hreceive : b.receive r = (some d, r')) : b.pending r = d :: b.pending r' := by
  have holdest := hrecalls.oldest_le
  rcases hrecalls.receive_cases h.next_le with ⟨-, hidle⟩ | ⟨m, hm, hkept, hmessage⟩ | ⟨hlt, hlag⟩
  · rw [hreceive] at hidle
    exact absurd (congrArg Prod.fst hidle) (by simp)
  · rw [hreceive] at hmessage
    obtain ⟨rfl, rfl⟩ : d = .message m ∧ r' = ⟨r.next + 1⟩ := by simpa using hmessage
    obtain ⟨hbound, hget⟩ := List.getElem?_eq_some_iff.1 hm
    -- what is kept, seen from the receiver's place, is the history from there
    have hkeeps : ∀ next, b.oldest ≤ next → b.pending ⟨next⟩ = (log.drop next).map .message := by
      intro next hle
      rw [pending, if_neg (Nat.not_lt.2 hle), hrecalls.recent_eq, List.drop_drop,
        Nat.add_sub_cancel' hle]
    rw [hkeeps r.next hkept, hkeeps (r.next + 1) (Nat.le_succ_of_le hkept),
      List.drop_eq_getElem_cons hbound, hget, List.map_cons]
  · rw [hreceive] at hlag
    obtain ⟨rfl, rfl⟩ : d = .lagged (b.oldest - r.next) ∧ r' = ⟨b.oldest⟩ := by simpa using hlag
    rw [pending, if_pos hlt, pending, if_neg (Nat.lt_irrefl _), Nat.sub_self, List.drop_zero]

end Reads

end Bus

end AttributeCache
