import AttributeCache.Proofs.Cache.Succession
import AttributeCache.Proofs.Cluster.Network
/-!
# Which messages go round

A forwarder tells its own node's messages by their origin, not by where
they came from. A member that lists none of its own addresses never takes
in a message in its own name, so it passes on its loads and nothing else.
One that does list itself takes in what it sent, and sends it again: one
load is told without end.
-/

namespace AttributeCache

/-! ## What a member should send -/

namespace Member

variable {m : Member}

/-- The loads in the history. -/
def loads (m : Member) : List (Source × Invalidation) :=
  m.history.filter fun x => x.1 = .load

/-- **Each load is told once**: what was passed on are loads, each at most
once, and each went once to every address of a peer. Nothing that was taken
in over the route is passed on. -/
structure TellsOnce (m : Member) : Prop where
  loads : m.passed.Sublist m.loads
  sent : m.sent =
    m.passed.flatMap fun x => (Forwarder.addresses m.peers).map (Forwarder.post x.2)
  /-- So there is a bound on what is sent. -/
  bounded : m.sent.length ≤ m.loads.length * m.peers.length

theorem Faithful.length_sent (h : m.Faithful) :
    m.sent.length = m.passed.length * (Forwarder.addresses m.peers).length := by
  rw [h.sent, List.length_flatMap]
  simp only [List.length_map, List.map_const', List.sum_replicate_nat]

/-- It is enough that what is passed on are loads. -/
theorem Faithful.tellsOnce (h : m.Faithful) (hpassed : ∀ x ∈ m.passed, x.1 = .load) :
    m.TellsOnce := by
  have hloads : m.passed.Sublist m.loads := by
    have htaken : m.passed.Sublist m.history :=
      h.passed.trans (List.filter_sublist.trans (List.take_sublist _ _))
    have hfilter : m.passed.filter (fun x => x.1 = .load) = m.passed :=
      List.filter_eq_self.2 fun x hx => decide_eq_true (hpassed x hx)
    exact hfilter ▸ htaken.filter _
  refine ⟨hloads, h.sent, ?_⟩
  rw [h.length_sent]
  exact Nat.mul_le_mul hloads.length_le (List.length_filterMap_le _ _)

end Member

namespace Cluster

variable {n : Nat} {host : Url.Endpoint → Option (Fin n)} {c c₀ : Cluster n} {i : Fin n}
  {message : Invalidation} {address : Url.Address} {entries : List (Source × Invalidation)}

/-- A member has itself among its peers: one of their addresses leads to
its own invalidate route. -/
def ListsItself (host : Url.Endpoint → Option (Fin n)) (c : Cluster n) (i : Fin n) : Prop :=
  ∃ address ∈ Forwarder.addresses (c.members i).peers, Leads host address i

/-! ## Without itself among its peers -/

/-- All that a member sends tells of a load of its own. -/
theorem Traced.tells_of_mem_sent (h : Traced host c₀ c)
    (hdistinct : Function.Injective fun i => (c₀.members i).node.id) {p : Forwarder.Post}
    (hp : p ∈ (c.members i).sent) :
    ∃ message address, c.Tells i message address ∧ p = Forwarder.post message address := by
  rw [(h.faithful i).sent] at hp
  obtain ⟨x, hx, hp⟩ := List.mem_flatMap.1 hp
  obtain ⟨address, haddress, hpost⟩ := List.mem_map.1 hp
  obtain ⟨hhistory, hown⟩ := (h.faithful i).mem_history_of_mem_passed hx
  exact ⟨x.2, address, ⟨h.loaded_of_origin hdistinct hhistory hown, haddress⟩, hpost.symm⟩

/-- **A member that does not list itself tells each load once.** What it
has in its own name did not come in over its route. -/
theorem Traced.tellsOnce (h : Traced host c₀ c)
    (hdistinct : Function.Injective fun i => (c₀.members i).node.id)
    (hself : ¬ c₀.ListsItself host i) : (c.members i).TellsOnce := by
  refine (h.faithful i).tellsOnce fun x hx => ?_
  obtain ⟨hhistory, hown⟩ := (h.faithful i).mem_history_of_mem_passed hx
  obtain ⟨source, message⟩ := x
  cases source with
  | load => rfl
  -- had it come in over the route, an address of the member's own would lead back
  | route =>
    obtain ⟨address, htells, hleads⟩ := h.leads_back hdistinct hhistory hown
    exact absurd ⟨address, h.peers i ▸ htells.address, hleads⟩ hself

/-! ## With itself among its peers -/

/-- A member whose forwarder has passed on all there is, the last of it
still on its way to an address. -/
structure Circles (c : Cluster n) (i : Fin n) (message : Invalidation) (address : Url.Address)
    (entries : List (Source × Invalidation)) : Prop where
  history : (c.members i).history = entries
  passed : (c.members i).passed = entries
  next : (c.members i).forwarder.next = entries.length
  flying : Forwarder.post message address ∈ c.flying

/-- With one more entry in the member's name the forwarder gets there
again. -/
theorem Traced.circles_forward {source : Source} (h : Traced host c₀ c)
    (entries : List (Source × Invalidation))
    (hhistory : (c.members i).history = entries ++ [(source, message)])
    (hpassed : (c.members i).passed = entries)
    (hnext : (c.members i).forwarder.next = entries.length)
    (hown : message.origin = (c.members i).node.id)
    (haddress : address ∈ Forwarder.addresses (c.members i).peers) :
    (c.step host (.forward i)).Circles i message address (entries ++ [(source, message)]) := by
  have hlast : (c.members i).history[(c.members i).forwarder.next]? = some (source, message) := by
    rw [hhistory, hnext, List.getElem?_concat_length]
  have hend : (c.members i).forwarder.next + 1 = (c.members i).history.length := by
    rw [hhistory, hnext, List.length_append, List.length_singleton]
  have hforward := Member.forward_of_last (h.faithful i) hlast hend hown
  refine ⟨?_, ?_, ?_, ?_⟩ <;>
    simp only [Cluster.step, hforward, Cluster.put, Function.update_self]
  · exact hhistory
  · rw [hpassed]
  · rw [hnext, List.length_append, List.length_singleton]
  · exact List.mem_append_right _ (List.mem_map_of_mem haddress)

/-- A load is announced where it succeeds, as it does without documents. -/
theorem announced_emptySite (now : UInt64) (m : Node) (h : m.attached = true) :
    ∃ stamp, Member.announced now { m with site := Manager.Trace.emptySite } =
      [(.load, ⟨m.id, stamp⟩)] := by
  refine ⟨m.manager.clock.tick now, ?_⟩
  unfold Member.announced Node.load Node.reload
  have hbuild : Manager.Trace.emptySite.build = .ok _ := rfl
  simp only [Manager.load_of_ok hbuild, h, if_true]

/-- One load gets the forwarder there first. -/
theorem Fresh.circles (h : c.Fresh) (host : Url.Endpoint → Option (Fin n))
    (haddress : address ∈ Forwarder.addresses (c.members i).peers) :
    ∃ message steps, message.origin = (c.members i).node.id ∧
      (c.run host steps).Circles i message address [(.load, message)] := by
  have hstarts := h.starts i
  obtain ⟨stamp, hannounced⟩ := announced_emptySite 0 (c.members i).node hstarts.attached
  let load : Step n := .load i 0 Manager.Trace.emptySite
  have hloaded : (c.step host load).members i =
      (c.members i).load 0 Manager.Trace.emptySite := Function.update_self ..
  have htraced : Traced host c (c.step host load) := h.traced.step h.distinct load
  refine ⟨⟨(c.members i).node.id, stamp⟩, [load, .forward i], rfl, ?_⟩
  refine htraced.circles_forward [] ?_ ?_ ?_ ?_ ?_
  · rw [hloaded]
    simp only [Member.load, hannounced, hstarts.history]
  · rw [hloaded]
    exact hstarts.passed
  · rw [hloaded]
    exact congrArg Receiver.next hstarts.forwarder
  · exact (htraced.id i).symm
  · exact (htraced.peers i).symm ▸ haddress

/-- What it sent comes in again, and gets it there once more. -/
theorem Circles.again (h : c.Circles i message address entries) (htraced : Traced host c₀ c)
    (hdistinct : Function.Injective fun i => (c₀.members i).node.id)
    (hown : message.origin = (c₀.members i).node.id)
    (haddress : address ∈ Forwarder.addresses (c₀.members i).peers)
    (hleads : Leads host address i) :
    ∃ steps, (c.run host steps).Circles i message address (entries ++ [(.route, message)]) := by
  obtain ⟨k, hk⟩ := List.mem_iff_getElem?.1 h.flying
  have hhost : host (Forwarder.post message address).endpoint = some i := hleads.1
  let deliver : Step n := .deliver k 0 Manager.Trace.emptySite
  have hdelivered : (c.step host deliver).members i =
      (c.members i).answer 0 Manager.Trace.emptySite (Forwarder.post message address).request := by
    simp only [deliver, Cluster.step, hk, Cluster.arrive, hhost, Cluster.put,
      Function.update_self]
  have hnow : Traced host c₀ (c.step host deliver) := htraced.step hdistinct deliver
  refine ⟨[deliver, .forward i], hnow.circles_forward entries ?_ ?_ ?_ ?_ ?_⟩
  · rw [hdelivered]
    simp only [Member.answer, Member.arrivals_post hleads.2, h.history]
  · rw [hdelivered]
    exact h.passed
  · rw [hdelivered]
    exact h.next
  · exact hown.trans (hnow.id i).symm
  · exact (hnow.peers i).symm ▸ haddress

/-- **A member that lists itself passes on one load without end.** -/
theorem Fresh.circles_run (h : c.Fresh)
    (haddress : address ∈ Forwarder.addresses (c.members i).peers)
    (hleads : Leads host address i) (k : Nat) :
    ∃ message steps, (c.run host steps).Circles i message address
      ((.load, message) :: List.replicate k (.route, message)) := by
  obtain ⟨message, first, hown, hfirst⟩ := h.circles host haddress
  refine ⟨message, ?_⟩
  -- each round delivers what is on its way and lets the forwarder send it again
  induction k with
  | zero => exact ⟨first, hfirst⟩
  | succ k ih =>
    obtain ⟨steps, hsteps⟩ := ih
    obtain ⟨more, hmore⟩ :=
      hsteps.again (h.traced_run host steps) h.distinct hown haddress hleads
    refine ⟨steps ++ more, ?_⟩
    rw [List.replicate_succ', ← List.cons_append]
    simpa only [run, List.foldl_append] using hmore

/-! ## Which members tell each load once -/

/-- **A member tells each load once unless it lists itself.** All that a
member sends tells of loads of its own, whatever the peers. Where none of
its addresses leads to itself, each load is told once to each of them.
Where one does, a single load leads to any number of requests, since what
came in over the route is passed on. -/
theorem tellsOnce_iff_not_listsItself (h : c.Fresh) (i : Fin n) :
    (∀ steps, ∀ p ∈ ((c.run host steps).members i).sent, ∃ message address,
        (c.run host steps).Tells i message address ∧ p = Forwarder.post message address) ∧
      ((∀ steps, ((c.run host steps).members i).TellsOnce) ↔ ¬ c.ListsItself host i) ∧
      (c.ListsItself host i → ∀ k, ∃ steps, let m := (c.run host steps).members i
        m.loads.length = 1 ∧ k ≤ (m.passed.filter fun x => x.1 = .route).length ∧
          k ≤ m.sent.length) := by
  have hcircles (hself : c.ListsItself host i) (k : Nat) :
      ∃ steps, let m := (c.run host steps).members i
        m.loads.length = 1 ∧ k ≤ (m.passed.filter fun x => x.1 = .route).length ∧
          k ≤ m.sent.length := by
    obtain ⟨address, haddress, hleads⟩ := hself
    obtain ⟨message, steps, hend⟩ := h.circles_run haddress hleads k
    have htraced : Traced host c (c.run host steps) := h.traced_run host steps
    have hsent := (htraced.faithful i).length_sent
    refine ⟨steps, ?_, ?_, ?_⟩
    · simp [Member.loads, hend.history]
    · simp [hend.passed]
    · have hpos : 0 < (Forwarder.addresses ((c.run host steps).members i).peers).length :=
        List.length_pos_of_mem ((htraced.peers i).symm ▸ haddress)
      rw [hsent, hend.passed, List.length_cons, List.length_replicate]
      exact (Nat.le_succ k).trans (Nat.le_mul_of_pos_right _ hpos)
  refine ⟨fun steps p hp => (h.traced_run host steps).tells_of_mem_sent h.distinct hp,
    ⟨fun htells hself => ?_, fun hself steps => ?_⟩, hcircles⟩
  -- one request more than the bound allows for a single load
  · obtain ⟨steps, hloads, -, hsent⟩ := hcircles hself ((c.members i).peers.length + 1)
    have hbounded := (htells steps).bounded
    have hpeers := (h.traced_run host steps).peers i
    rw [hloads, hpeers, Nat.one_mul] at hbounded
    omega
  · exact (h.traced_run host steps).tellsOnce h.distinct hself

/-- A member that starts without documents. -/
def starting (id : NodeId) (peers : List String) : Member where
  node :=
    { id
      attached := true
      site := Manager.Trace.emptySite
      bus := (Bus.ofCapacity Bus.defaultCapacity).subscribe.1.subscribe.1 }
  peers := peers

theorem starts_starting (id : NodeId) (peers : List String) : (starting id peers).Starts :=
  ⟨rfl, ⟨_, rfl⟩, rfl, rfl, rfl, rfl, rfl⟩

/-- Two members, each the only peer of the other, one of them plainly and
one securely. -/
def pair : Cluster 2 where
  members
    | 0 => starting ⟨1⟩ ["http://a:443"]
    | 1 => starting ⟨2⟩ ["https://a:80/"]

/-- Where the members of a pair are reached. -/
def pairHost : Url.Endpoint → Option (Fin 2)
  | ⟨.https, "a:80"⟩ => some 0
  | ⟨.http, "a:443"⟩ => some 1
  | _ => none

/-- The second of a pair takes in the message of the first and tells only
its own load. -/
theorem tellsOnce_pair :
    let steps : List (Step 2) :=
      [.load 0 10 Manager.Trace.emptySite, .forward 0, .deliver 0 11 Manager.Trace.emptySite,
        .load 1 12 Manager.Trace.emptySite, .listen 1 13 Manager.Trace.emptySite, .forward 1,
        .forward 1]
    let m := (pair.run pairHost steps).members 1
    pair.Fresh ∧ m.TellsOnce ∧ m.history = [(.route, ⟨⟨1⟩, ⟨10, 0⟩⟩), (.load, ⟨⟨2⟩, ⟨12, 0⟩⟩)] ∧
      m.sent.map (·.endpoint) = [⟨.https, "a:80"⟩] := by
  intro steps m
  have hdistinct : Function.Injective fun i => (pair.members i).node.id := by
    intro i j
    revert i j
    decide
  have hfresh : pair.Fresh :=
    ⟨hdistinct, fun i => match i with
      | 0 => starts_starting _ _
      | 1 => starts_starting _ _, rfl⟩
  have haddresses : Forwarder.addresses (pair.members 1).peers =
      [⟨⟨.https, "a:80"⟩, "/api/v1/cluster/invalidate"⟩] := by
    decide +kernel
  have hself : ¬ pair.ListsItself pairHost 1 := by
    rintro ⟨address, haddress, hhost, -⟩
    rw [haddresses, List.mem_singleton] at haddress
    rw [haddress] at hhost
    exact absurd hhost (by decide)
  refine ⟨hfresh, (tellsOnce_iff_not_listsItself hfresh 1).2.1.2 hself steps, ?_⟩
  decide +kernel

/-- A member that is its own peer. -/
def alone : Cluster 1 where
  members _ := starting ⟨1⟩ ["http://a:1"]

/-- **Not every load is told once.** The message of a load comes back to
the member that sent it, and is sent again. -/
theorem not_always_tellsOnce :
    ¬ ∀ (n : Nat) (host : Url.Endpoint → Option (Fin n)) (c : Cluster n), c.Fresh →
      ∀ (steps : List (Step n)) (i : Fin n), ((c.run host steps).members i).TellsOnce := by
  intro h
  have hfresh : alone.Fresh :=
    ⟨fun i j _ => Subsingleton.elim i j, fun _ => starts_starting _ _, rfl⟩
  let steps : List (Step 1) :=
    [.load 0 10 Manager.Trace.emptySite, .forward 0, .deliver 0 11 Manager.Trace.emptySite,
      .forward 0]
  have hle := (h 1 (fun _ => some 0) alone hfresh steps 0).loads.length_le
  have hlt : ((alone.run (fun _ => some 0) steps).members 0).loads.length <
      ((alone.run (fun _ => some 0) steps).members 0).passed.length := by
    decide +kernel
  exact absurd hle (Nat.not_le_of_lt hlt)

end Cluster

end AttributeCache
