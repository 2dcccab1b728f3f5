import AttributeCache.Cluster.Forwarder
import AttributeCache.Http.Router
import AttributeCache.Proofs.Cluster.Bus
import AttributeCache.Proofs.Cluster.Invalidation
/-!
# A member of a cluster

A node with a listener and a forwarder on its bus. Beside its state a
member has a record of what happened: what was put on its bus and from
where, which of that its forwarder passed on, and the requests it sent.
Nothing reads the record; it is what the invariants are about.
-/

namespace AttributeCache

/-- Where a message came from. -/
inductive Source where
  /-- A load that was asked for at the node. -/
  | load
  /-- A request to the node. -/
  | route
deriving DecidableEq, Repr

/-- A node with a listener and a forwarder, and the record of what
happened. -/
structure Member where
  node : Node
  listener : Receiver := ⟨0⟩
  forwarder : Receiver := ⟨0⟩
  peers : List String
  /-- All that was put on the bus, in order. -/
  history : List (Source × Invalidation) := []
  /-- What of it the forwarder passed on, in order. -/
  passed : List (Source × Invalidation) := []
  /-- The requests sent, in order. -/
  sent : List Forwarder.Post := []

namespace Member

/-! ## What a member does -/

/-- What a load on request puts on the bus. -/
def announced (now : UInt64) (n : Node) : List (Source × Invalidation) :=
  match (n.load now).2 with
  | .ok stamp => [(.load, ⟨n.id, stamp⟩)]
  | .error _ => []

/-- What a request puts on the bus. -/
def arrivals (now : UInt64) (n : Node) (r : Http.Request) : List (Source × Invalidation) :=
  match Http.Route.ofPath? r.path, r.method with
  | some .reload, "POST" => announced now n
  | some .invalidate, "POST" =>
    match Http.readBody Invalidation.ofTree r with
    | .ok message => [(.route, message)]
    | .error _ => []
  | _, _ => []

/-- Loads on request, the documents being as the site says. -/
def load (now : UInt64) (site : Site) (m : Member) : Member :=
  let node := { m.node with site }
  { m with node := (node.load now).1, history := m.history ++ announced now node }

/-- Answers a request, the documents being as the site says. -/
def answer (now : UInt64) (site : Site) (r : Http.Request) (m : Member) : Member :=
  let node := { m.node with site }
  { m with node := (Http.handle now node r).1, history := m.history ++ arrivals now node r }

/-- The listener takes the next delivery off the bus. -/
def listen (now : UInt64) (site : Site) (m : Member) : Member :=
  match m.node.bus.receive m.listener with
  | (none, _) => m
  | (some d, listener) =>
    let reaction := Listener.reaction m.node.id d
    let manager := Listener.perform now site m.node.manager reaction
    { m with node := { m.node with manager }, listener }

/-- The entry of the history that the forwarder passes on with a
delivery. -/
def passes (m : Member) (d : Delivery) : List (Source × Invalidation) :=
  if (Forwarder.ownMessage? m.node.id d).isSome then m.history[m.forwarder.next]?.toList else []

/-- The forwarder takes the next delivery off the bus, and sends what it
sends. -/
def forward (m : Member) : Member × List Forwarder.Post :=
  match m.node.bus.receive m.forwarder with
  | (none, _) => (m, [])
  | (some d, forwarder) =>
    let posts := Forwarder.posts m.node.id m.peers d
    ({ m with forwarder, passed := m.passed ++ m.passes d, sent := m.sent ++ posts }, posts)

/-! ## What is put on the bus -/

variable {m : Member} {now : UInt64} {n : Node} {r : Http.Request} {site : Site}

/-- The bus with some messages put on it. -/
def putAll (b : Bus) (new : List (Source × Invalidation)) : Bus :=
  new.foldl (fun b x => (b.publish x.2).1) b

/-- A node that went on to another state, with messages put on its bus. -/
structure Puts (n n' : Node) (new : List (Source × Invalidation)) : Prop where
  id : n'.id = n.id
  attached : n'.attached = n.attached
  bus : n'.bus = putAll n.bus new
  /-- What a load announces is in the node's name. -/
  origin : ∀ x ∈ new, x.1 = .load → x.2.origin = n.id

theorem Puts.refl : Puts n n [] :=
  ⟨rfl, rfl, rfl, fun _ hx => absurd hx List.not_mem_nil⟩

/-- A load that fails puts nothing on the bus, one that succeeds a message
in the node's name. -/
theorem puts_load (h : n.attached = true) : Puts n (n.load now).1 (announced now n) := by
  unfold announced Node.load Node.reload
  obtain ⟨manager, outcome⟩ := n.manager.load now n.site
  cases outcome with
  | error e => exact ⟨rfl, rfl, rfl, fun _ hx => absurd hx List.not_mem_nil⟩
  | ok stamp =>
    simp only [h, if_true]
    refine ⟨rfl, h.symm, rfl, fun x hx _ => ?_⟩
    rw [List.mem_singleton.1 hx]

theorem postReload_fst : (Http.postReload now n).1 = (n.load now).1 := by
  rw [Http.postReload]
  obtain ⟨n', outcome⟩ := n.load now
  cases outcome <;> rfl

theorem puts_putThreshold : Puts n (Http.putThreshold n r).1 [] := by
  rw [Http.putThreshold]
  split
  · exact .refl
  · split <;> exact ⟨rfl, rfl, rfl, fun _ hx => absurd hx List.not_mem_nil⟩

/-- What a request puts on the bus is a load's announcement, or the
message it brings; no route but these two puts anything there. -/
theorem puts_handle (h : n.attached = true) :
    Puts n (Http.handle now n r).1 (arrivals now n r) := by
  unfold arrivals
  split
  · rename_i hroute hmethod
    simp only [Http.handle, hroute, hmethod, postReload_fst]
    exact puts_load h
  · rename_i hroute hmethod
    simp only [Http.handle, hroute, hmethod, Http.postInvalidation]
    cases Http.readBody Invalidation.ofTree r with
    | error refusal => exact .refl
    | ok message =>
      refine ⟨rfl, rfl, rfl, fun x hx hload => ?_⟩
      rw [List.mem_singleton.1 hx] at hload
      exact nomatch hload
  · rename_i hreload hinvalidate
    unfold Http.handle
    split
    -- two of the routes were met above, and one sets the threshold; the rest leave the node
    case h_4 hroute hmethod => exact absurd hmethod (hreload hroute)
    case h_7 => exact puts_putThreshold
    case h_8 hroute hmethod => exact absurd hmethod (hinvalidate hroute)
    all_goals exact .refl

variable {b : Bus} {log : List Invalidation} {new : List (Source × Invalidation)}

theorem putAll_listeners : (putAll b new).listeners = b.listeners := by
  induction new generalizing b with
  | nil => rfl
  | cons x rest ih => exact ih.trans Bus.listeners_publish

theorem putAll_capacity : (putAll b new).capacity = b.capacity := by
  induction new generalizing b with
  | nil => rfl
  | cons x rest ih => exact ih.trans Bus.capacity_publish

theorem recalls_putAll (h : b.Recalls log) (hlisteners : b.listeners ≠ 0) :
    (putAll b new).Recalls (log ++ new.map (·.2)) := by
  induction new generalizing b log with
  | nil => rwa [List.map_nil, List.append_nil]
  | cons x rest ih =>
    have hlater := ih (h.publish hlisteners x.2) (by rwa [Bus.listeners_publish])
    rwa [List.append_assoc, List.singleton_append] at hlater

/-! ## What the record says -/

/-- **The record is that of the member**: the bus recalls the history, and
what was passed on are entries of it, in the node's name, each once. -/
structure Faithful (m : Member) : Prop where
  attached : m.node.attached = true
  listeners : m.node.bus.listeners ≠ 0
  capacity : 0 < m.node.bus.capacity
  recalls : m.node.bus.Recalls (m.history.map (·.2))
  listener_le : m.listener.next ≤ m.history.length
  forwarder_le : m.forwarder.next ≤ m.history.length
  /-- What was loaded here is in the node's name. -/
  own : ∀ x ∈ m.history, x.1 = .load → x.2.origin = m.node.id
  passed : m.passed.Sublist
    ((m.history.take m.forwarder.next).filter fun x => x.2.origin = m.node.id)
  /-- What was passed on went to every address. -/
  sent : m.sent =
    m.passed.flatMap fun x => (Forwarder.addresses m.peers).map (Forwarder.post x.2)

namespace Faithful

theorem mem_history_of_mem_passed {x : Source × Invalidation} (h : m.Faithful)
    (hx : x ∈ m.passed) : x ∈ m.history ∧ x.2.origin = m.node.id := by
  obtain ⟨htaken, hown⟩ := List.mem_filter.1 (h.passed.subset hx)
  exact ⟨List.mem_of_mem_take htaken, of_decide_eq_true hown⟩

/-- Messages put on the bus. -/
theorem put {node : Node} (h : m.Faithful) (hputs : Puts m.node node new) :
    Faithful { m with node, history := m.history ++ new } where
  attached := hputs.attached.trans h.attached
  listeners := by
    simp only [hputs.bus, putAll_listeners]
    exact h.listeners
  capacity := by
    simp only [hputs.bus, putAll_capacity]
    exact h.capacity
  recalls := by
    simp only [hputs.bus, List.map_append]
    exact recalls_putAll h.recalls h.listeners
  listener_le := by
    have hle := h.listener_le
    simp only [List.length_append]
    omega
  forwarder_le := by
    have hle := h.forwarder_le
    simp only [List.length_append]
    omega
  own := by
    intro x hx hload
    rw [hputs.id]
    rcases List.mem_append.1 hx with hx | hx
    · exact h.own x hx hload
    · exact hputs.origin x hx hload
  -- the forwarder has not come to what is added
  passed := by
    simp only [hputs.id, List.take_append_of_le_length h.forwarder_le]
    exact h.passed
  sent := h.sent

theorem load (h : m.Faithful) : (m.load now site).Faithful := by
  have hputs : Puts { m.node with site } _ (announced now { m.node with site }) :=
    puts_load h.attached
  exact h.put ⟨hputs.id, hputs.attached, hputs.bus, hputs.origin⟩

theorem answer (h : m.Faithful) : (m.answer now site r).Faithful := by
  have hputs : Puts { m.node with site } _ (arrivals now { m.node with site } r) :=
    puts_handle h.attached
  exact h.put ⟨hputs.id, hputs.attached, hputs.bus, hputs.origin⟩

/-- The receivers read the history. One that has fallen behind goes on
where there is still something to read, since the bus keeps something. -/
theorem receive_cases {receiver : Receiver} (h : m.Faithful)
    (hle : receiver.next ≤ m.history.length) :
    (receiver.next = m.history.length ∧ m.node.bus.receive receiver = (none, receiver)) ∨
      (∃ x, m.history[receiver.next]? = some x ∧
        m.node.bus.receive receiver = (some (.message x.2), ⟨receiver.next + 1⟩)) ∨
      ∃ missed later, receiver.next < later ∧ later < m.history.length ∧
        m.node.bus.receive receiver = (some (.lagged missed), ⟨later⟩) := by
  have hlength : (m.history.map (·.2)).length = m.history.length := List.length_map _
  rcases h.recalls.receive_cases (hlength.symm ▸ hle) with
    ⟨hend, heq⟩ | ⟨message, hat, -, heq⟩ | ⟨hlag, heq⟩
  · exact .inl ⟨hend.trans hlength, heq⟩
  · rw [List.getElem?_map, Option.map_eq_some_iff] at hat
    obtain ⟨x, hx, rfl⟩ := hat
    exact .inr (.inl ⟨x, hx, heq⟩)
  · have holdest := h.recalls.oldest_eq
    -- a bus that keeps nothing would send the receiver to the very end
    have hcapacity := h.capacity
    exact .inr (.inr ⟨_, _, hlag, by omega, heq⟩)

theorem listen (h : m.Faithful) : (m.listen now site).Faithful := by
  unfold Member.listen
  rcases h.receive_cases h.listener_le with ⟨-, heq⟩ | ⟨x, hx, heq⟩ | ⟨_, later, -, hle, heq⟩
  · rw [heq]
    exact h
  · obtain ⟨hlt, -⟩ := List.getElem?_eq_some_iff.1 hx
    rw [heq]
    exact { h with listener_le := hlt }
  · rw [heq]
    exact { h with listener_le := Nat.le_of_lt hle }

end Faithful

/-- **What the forwarder does**: nothing where it has read all, else it
moves on past an entry in another node's name, or past what is gone, or it
comes to an entry in the node's name and sends it to every address. -/
inductive Forwards (m : Member) : Member × List Forwarder.Post → Prop
  | idle : m.forwarder.next = m.history.length → Forwards m (m, [])
  | lag {later : Nat} : m.forwarder.next < later → later < m.history.length →
      Forwards m ({ m with forwarder := ⟨later⟩ }, [])
  | skip {x : Source × Invalidation} : m.history[m.forwarder.next]? = some x →
      x.2.origin ≠ m.node.id → Forwards m ({ m with forwarder := ⟨m.forwarder.next + 1⟩ }, [])
  | pass {x : Source × Invalidation} : m.history[m.forwarder.next]? = some x →
      x.2.origin = m.node.id →
      Forwards m
        ({ m with
            forwarder := ⟨m.forwarder.next + 1⟩
            passed := m.passed ++ [x]
            sent := m.sent ++ (Forwarder.addresses m.peers).map (Forwarder.post x.2) },
          (Forwarder.addresses m.peers).map (Forwarder.post x.2))

theorem forwards_forward (h : m.Faithful) : m.Forwards m.forward := by
  unfold forward
  rcases h.receive_cases h.forwarder_le with
    ⟨hend, heq⟩ | ⟨x, hx, heq⟩ | ⟨_, later, hlater, hlt, heq⟩
  · rw [heq]
    exact .idle hend
  · rw [heq]
    by_cases hown : x.2.origin = m.node.id
    · have hpass := Forwards.pass hx hown
      simpa only [Forwarder.posts, passes, Forwarder.ownMessage?, if_pos hown, hx,
        Option.isSome_some, if_true, Option.toList_some] using hpass
    · have hskip := Forwards.skip hx hown
      simpa only [Forwarder.posts, passes, Forwarder.ownMessage?, if_neg hown,
        Option.isSome_none, Bool.false_eq_true, if_false, List.append_nil] using hskip
  · have hlag := Forwards.lag hlater hlt
    rw [heq]
    simpa only [Forwarder.posts, passes, Forwarder.ownMessage?, Option.isSome_none,
      Bool.false_eq_true, if_false, List.append_nil] using hlag

theorem Faithful.forward (h : m.Faithful) : m.forward.1.Faithful := by
  have hforwards := forwards_forward h
  revert hforwards
  generalize m.forward = after
  have hmoves {later : Nat} (hle : m.forwarder.next ≤ later) :
      m.passed.Sublist ((m.history.take later).filter fun x => x.2.origin = m.node.id) :=
    h.passed.trans ((List.take_sublist_take_left hle).filter _)
  rintro (_ | ⟨hlater, hlt⟩ | ⟨hx, -⟩ | ⟨hx, hown⟩)
  · exact h
  · exact { h with forwarder_le := Nat.le_of_lt hlt, passed := hmoves (Nat.le_of_lt hlater) }
  · obtain ⟨hlt, -⟩ := List.getElem?_eq_some_iff.1 hx
    exact { h with forwarder_le := hlt, passed := hmoves (Nat.le_succ _) }
  · obtain ⟨hlt, -⟩ := List.getElem?_eq_some_iff.1 hx
    refine { h with forwarder_le := hlt, passed := ?_, sent := ?_ }
    · rw [List.take_add_one, hx, Option.toList_some, List.filter_append]
      refine h.passed.append (List.singleton_sublist.2 ?_)
      exact List.mem_filter.2 ⟨List.mem_singleton_self _, decide_eq_true hown⟩
    · simp only [List.flatMap_append, List.flatMap_singleton, h.sent]

/-- A forwarder that has one entry left to read, and that in the node's
name, sends it. -/
theorem forward_of_last {x : Source × Invalidation} (h : m.Faithful)
    (hlast : m.history[m.forwarder.next]? = some x)
    (hend : m.forwarder.next + 1 = m.history.length) (hown : x.2.origin = m.node.id) :
    m.forward =
      ({ m with
          forwarder := ⟨m.forwarder.next + 1⟩
          passed := m.passed ++ [x]
          sent := m.sent ++ (Forwarder.addresses m.peers).map (Forwarder.post x.2) },
        (Forwarder.addresses m.peers).map (Forwarder.post x.2)) := by
  have hforwards := forwards_forward h
  revert hforwards
  generalize m.forward = after
  rintro (hidle | ⟨hlater, hlt⟩ | ⟨hx, hother⟩ | ⟨hx, -⟩)
  · omega
  · omega
  · exact absurd (Option.some.inj (hx.symm.trans hlast) ▸ hown) hother
  · rw [Option.some.inj (hx.symm.trans hlast)]

/-! ## How a member starts -/

/-- A member that has done nothing yet: both receivers are on its bus, and
nothing is. -/
structure Starts (m : Member) : Prop where
  attached : m.node.attached = true
  bus : ∃ capacity, m.node.bus = (Bus.ofCapacity capacity).subscribe.1.subscribe.1
  listener : m.listener = ⟨0⟩
  forwarder : m.forwarder = ⟨0⟩
  history : m.history = []
  passed : m.passed = []
  sent : m.sent = []

theorem Starts.faithful (h : m.Starts) : m.Faithful := by
  obtain ⟨capacity, hbus⟩ := h.bus
  refine ⟨h.attached, ?_, ?_, ?_, ?_, ?_, ?_, ?_, ?_⟩
  · rw [hbus]
    exact Nat.succ_ne_zero _
  · rw [hbus]
    exact Nat.pos_of_isPowerOfTwo (Nat.isPowerOfTwo_nextPowerOfTwo _)
  · rw [hbus, h.history]
    exact .empty
  · rw [h.listener]
    exact Nat.zero_le _
  · rw [h.forwarder]
    exact Nat.zero_le _
  · rw [h.history]
    exact fun x hx => absurd hx List.not_mem_nil
  · rw [h.passed]
    exact List.nil_sublist _
  · rw [h.sent, h.passed]
    rfl

end Member

end AttributeCache
