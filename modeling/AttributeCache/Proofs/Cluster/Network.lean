import AttributeCache.Proofs.Cluster.Member
import Mathlib.Logic.Function.Basic
/-!
# Clusters

Members, and the requests on their way between them. The network is given
by the host that each endpoint leads to, over one scheme or the other; a
request arrives there or is lost, and requests overtake one another. What
holds throughout a run is where things come from: a request on its way tells
of a load, and what a member took in over its route was loaded at a member
that has an address leading here.
-/

namespace AttributeCache

/-- The members of a cluster, and the requests on their way. -/
structure Cluster (n : Nat) where
  members : Fin n → Member
  flying : List Forwarder.Post := []

namespace Cluster

variable {n : Nat}

/-! ## Steps -/

/-- A step of a cluster. A member that takes part reads the wall clock, and
finds the documents as they are then. -/
inductive Step (n : Nat) where
  /-- A load is asked for at a member. -/
  | load (i : Fin n) (now : UInt64) (site : Site)
  /-- The listener of a member takes the next delivery. -/
  | listen (i : Fin n) (now : UInt64) (site : Site)
  /-- The forwarder of a member takes the next delivery. -/
  | forward (i : Fin n)
  /-- A request on its way arrives. -/
  | deliver (k : Nat) (now : UInt64) (site : Site)
  /-- A request on its way is lost. -/
  | lose (k : Nat)

/-- The cluster with one member as given. -/
def put (c : Cluster n) (i : Fin n) (m : Member) : Cluster n :=
  { c with members := Function.update c.members i m }

/-- The cluster once a request has come to where it leads. -/
def arrive (host : Url.Endpoint → Option (Fin n)) (now : UInt64) (site : Site) (p : Forwarder.Post)
    (c : Cluster n) : Cluster n :=
  match host p.endpoint with
  | some i => c.put i ((c.members i).answer now site p.request)
  | none => c

/-- The cluster after a step. -/
def step (host : Url.Endpoint → Option (Fin n)) (c : Cluster n) : Step n → Cluster n
  | .load i now site => c.put i ((c.members i).load now site)
  | .listen i now site => c.put i ((c.members i).listen now site)
  | .forward i =>
    let (m, posts) := (c.members i).forward
    { c.put i m with flying := c.flying ++ posts }
  | .deliver k now site =>
    let rest := { c with flying := c.flying.eraseIdx k }
    match c.flying[k]? with
    | some p => rest.arrive host now site p
    | none => rest
  | .lose k => { c with flying := c.flying.eraseIdx k }

/-- The cluster after a run. -/
def run (host : Url.Endpoint → Option (Fin n)) (c : Cluster n) (steps : List (Step n)) :
    Cluster n :=
  steps.foldl (step host) c

/-- A cluster that has done nothing yet. Its members have different
names. -/
structure Fresh (c : Cluster n) : Prop where
  distinct : Function.Injective fun i => (c.members i).node.id
  starts : ∀ i, (c.members i).Starts
  flying : c.flying = []

end Cluster

/-! ## What a member's step adds -/

namespace Member

variable {m m' : Member} {now : UInt64} {site : Site} {r : Http.Request}
  {new : List (Source × Invalidation)}

/-- A member that went on to another state, its name and its peers left as
they were, with entries added to its history. -/
structure Goes (m m' : Member) (new : List (Source × Invalidation)) : Prop where
  faithful : m'.Faithful
  id : m'.node.id = m.node.id
  peers : m'.peers = m.peers
  history : m'.history = m.history ++ new

theorem goes_load (h : m.Faithful) :
    m.Goes (m.load now site) (announced now { m.node with site }) where
  faithful := h.load
  id := (puts_load (n := { m.node with site }) h.attached).id
  peers := rfl
  history := rfl

theorem goes_answer (h : m.Faithful) :
    m.Goes (m.answer now site r) (arrivals now { m.node with site } r) where
  faithful := h.answer
  id := (puts_handle (n := { m.node with site }) h.attached).id
  peers := rfl
  history := rfl

theorem goes_listen (h : m.Faithful) : m.Goes (m.listen now site) [] := by
  refine ⟨h.listen, ?_, ?_, ?_⟩
  all_goals
    unfold listen
    split <;> simp only [List.append_nil]

theorem goes_forward (h : m.Faithful) : m.Goes m.forward.1 [] := by
  refine ⟨h.forward, ?_, ?_, ?_⟩
  all_goals
    unfold forward
    split <;> simp only [List.append_nil]

/-- What the forwarder sends is an entry in the node's name. -/
theorem mem_history_of_mem_posts {p : Forwarder.Post} (h : m.Faithful) (hp : p ∈ m.forward.2) :
    ∃ x ∈ m.history, x.2.origin = m.node.id ∧
      ∃ address ∈ Forwarder.addresses m.peers, p = Forwarder.post x.2 address := by
  have hforwards := forwards_forward h
  revert hforwards hp
  generalize m.forward = after
  rintro hp (_ | _ | _ | ⟨hx, hown⟩)
  · exact absurd hp List.not_mem_nil
  · exact absurd hp List.not_mem_nil
  · exact absurd hp List.not_mem_nil
  · obtain ⟨address, haddress, hpost⟩ := List.mem_map.1 hp
    exact ⟨_, List.mem_of_getElem? hx, hown, address, haddress, hpost.symm⟩

/-- What a load on request announces is a load. -/
theorem source_of_mem_announced {n : Node} {x : Source × Invalidation}
    (h : x ∈ announced now n) : x.1 = .load := by
  unfold announced at h
  split at h
  · rw [List.mem_singleton.1 h]
  · exact absurd h List.not_mem_nil

/-- What a request adds without a load was the request's body. -/
theorem readBody_of_mem_arrivals {n : Node} {message : Invalidation}
    (h : (.route, message) ∈ arrivals now n r) :
    Http.Route.ofPath? r.path = some .invalidate ∧
      Http.readBody Invalidation.ofTree r = .ok message := by
  unfold arrivals at h
  split at h
  · exact nomatch source_of_mem_announced h
  · rename_i hroute _
    refine ⟨hroute, ?_⟩
    split at h
    · rename_i hbody
      injection List.mem_singleton.1 h with _ hmessage
      rw [hbody, hmessage]
    · exact absurd h List.not_mem_nil
  · exact absurd h List.not_mem_nil

/-- What a post announces is what is read from it. -/
theorem readBody_post (message : Invalidation) (address : Url.Address) :
    Http.readBody Invalidation.ofTree (Forwarder.post message address).request = .ok message := by
  have hjson : (some "application/json").any Http.isJson = true := by decide +kernel
  unfold Http.readBody Forwarder.post
  simp only [hjson, Bool.not_true, Bool.false_eq_true, if_false,
    Invalidation.decodeBytes_text]

/-- And it is what the invalidate route takes in. -/
theorem arrivals_post {n : Node} {message : Invalidation} {address : Url.Address}
    (hroute : Http.Route.ofPath? (Forwarder.post message address).request.path =
      some .invalidate) :
    arrivals now n (Forwarder.post message address).request = [(.route, message)] := by
  have hmethod : (Forwarder.post message address).request.method = "POST" := rfl
  unfold arrivals
  simp only [hroute, hmethod, readBody_post]

end Member

/-! ## Where things come from -/

namespace Cluster

variable {n : Nat} {host : Url.Endpoint → Option (Fin n)} {c c₀ : Cluster n} {i j : Fin n}
  {m' : Member} {new : List (Source × Invalidation)} {message : Invalidation}
  {address : Url.Address} {flying : List Forwarder.Post}

/-- A request to this address comes to the invalidate route of a member. -/
def Leads (host : Url.Endpoint → Option (Fin n)) (address : Url.Address) (i : Fin n) : Prop :=
  host address.toEndpoint = some i ∧
    Http.Route.ofPath? { method := "POST", target := address.target : Http.Request }.path =
      some .invalidate

/-- A message of a load at a member, and an address of that member's
peers. -/
structure Tells (c : Cluster n) (j : Fin n) (message : Invalidation) (address : Url.Address) :
    Prop where
  load : (.load, message) ∈ (c.members j).history
  address : address ∈ Forwarder.addresses (c.members j).peers

/-- **The invariant of a run**: the members are those it began with and
their records faithful, and all that is on its way or was taken in tells of
a load. -/
structure Traced (host : Url.Endpoint → Option (Fin n)) (c₀ c : Cluster n) : Prop where
  faithful : ∀ i, (c.members i).Faithful
  id : ∀ i, (c.members i).node.id = (c₀.members i).node.id
  peers : ∀ i, (c.members i).peers = (c₀.members i).peers
  flying : ∀ p ∈ c.flying, ∃ j message address, c.Tells j message address ∧
    p = Forwarder.post message address
  arrived : ∀ i message, (.route, message) ∈ (c.members i).history →
    ∃ j address, c.Tells j message address ∧ Leads host address i

/-- A member's step takes nothing out of any history. -/
theorem Tells.put (h : c.Tells j message address) (hgoes : (c.members i).Goes m' new) :
    (c.put i m').Tells j message address := by
  by_cases hj : j = i
  · subst hj
    refine ⟨?_, ?_⟩ <;> simp only [Cluster.put, Function.update_self]
    · rw [hgoes.history]
      exact List.mem_append_left _ h.load
    · rw [hgoes.peers]
      exact h.address
  · refine ⟨?_, ?_⟩ <;> simp only [Cluster.put, Function.update_of_ne hj]
    · exact h.load
    · exact h.address

theorem members_put (c : Cluster n) (i : Fin n) (m' : Member) (k : Fin n) :
    ((c.put i m').members k = m' ∧ k = i) ∨ (c.put i m').members k = c.members k := by
  by_cases hk : k = i
  · subst hk
    exact .inl ⟨Function.update_self .., rfl⟩
  · exact .inr (Function.update_of_ne hk ..)

namespace Traced

/-- A member's step keeps the invariant if what it took in tells of a
load. -/
theorem put (h : Traced host c₀ c) (hgoes : (c.members i).Goes m' new)
    (hnew : ∀ message, (.route, message) ∈ new →
      ∃ j address, c.Tells j message address ∧ Leads host address i) :
    Traced host c₀ (c.put i m') := by
  refine ⟨fun k => ?_, fun k => ?_, fun k => ?_, fun p hp => ?_, fun k message hk => ?_⟩
  · rcases members_put c i m' k with ⟨heq, -⟩ | heq <;> rw [heq]
    · exact hgoes.faithful
    · exact h.faithful k
  · rcases members_put c i m' k with ⟨heq, rfl⟩ | heq <;> rw [heq]
    · exact hgoes.id.trans (h.id k)
    · exact h.id k
  · rcases members_put c i m' k with ⟨heq, rfl⟩ | heq <;> rw [heq]
    · exact hgoes.peers.trans (h.peers k)
    · exact h.peers k
  · obtain ⟨j, message, address, htells, hp⟩ := h.flying p hp
    exact ⟨j, message, address, htells.put hgoes, hp⟩
  -- what a history holds it held before, or it is new to the member of the step
  · have hcame : ∃ j address, c.Tells j message address ∧ Leads host address k := by
      rcases members_put c i m' k with ⟨heq, rfl⟩ | heq
      · rw [heq, hgoes.history] at hk
        rcases List.mem_append.1 hk with hk | hk
        · exact h.arrived k message hk
        · exact hnew message hk
      · rw [heq] at hk
        exact h.arrived k message hk
    obtain ⟨j, address, htells, hleads⟩ := hcame
    exact ⟨j, address, htells.put hgoes, hleads⟩

/-- And so does a change of what is on its way, if that tells of loads. -/
theorem fly (h : Traced host c₀ c)
    (hflying : ∀ p ∈ flying, ∃ j message address, c.Tells j message address ∧
      p = Forwarder.post message address) :
    Traced host c₀ { c with flying } where
  faithful := h.faithful
  id := h.id
  peers := h.peers
  flying p hp := by
    obtain ⟨j, message, address, htells, hp⟩ := hflying p hp
    exact ⟨j, message, address, ⟨htells.load, htells.address⟩, hp⟩
  arrived k message hk := by
    obtain ⟨j, address, htells, hleads⟩ := h.arrived k message hk
    exact ⟨j, address, ⟨htells.load, htells.address⟩, hleads⟩

/-- **What a member takes in in its own name it told itself.** No other
member loads in its name. -/
theorem leads_back (h : Traced host c₀ c)
    (hdistinct : Function.Injective fun i => (c₀.members i).node.id)
    (hmessage : (.route, message) ∈ (c.members i).history)
    (hown : message.origin = (c.members i).node.id) :
    ∃ address, c.Tells i message address ∧ Leads host address i := by
  obtain ⟨j, address, htells, hleads⟩ := h.arrived i message hmessage
  have horigin : message.origin = (c.members j).node.id :=
    (h.faithful j).own _ htells.load rfl
  -- the origin is that of the member that loaded, and no two members share one
  have hj : j = i := hdistinct (by
    change (c₀.members j).node.id = (c₀.members i).node.id
    rw [← h.id j, ← h.id i, ← horigin, hown])
  exact ⟨address, hj ▸ htells, hleads⟩

/-- So what it has in its own name was loaded there. -/
theorem loaded_of_origin (h : Traced host c₀ c)
    (hdistinct : Function.Injective fun i => (c₀.members i).node.id)
    {x : Source × Invalidation} (hx : x ∈ (c.members i).history)
    (hown : x.2.origin = (c.members i).node.id) :
    (.load, x.2) ∈ (c.members i).history := by
  obtain ⟨source, message⟩ := x
  cases source with
  | load => exact hx
  | route =>
    obtain ⟨_, htells, _⟩ := h.leads_back hdistinct hx hown
    exact htells.load

theorem forward (h : Traced host c₀ c)
    (hdistinct : Function.Injective fun i => (c₀.members i).node.id) :
    Traced host c₀ (c.step host (.forward i)) := by
  have hgoes := Member.goes_forward (h.faithful i)
  refine (h.put hgoes fun _ hmessage => absurd hmessage List.not_mem_nil).fly fun p hp => ?_
  rcases List.mem_append.1 hp with hp | hp
  · obtain ⟨j, message, address, htells, hp⟩ := h.flying p hp
    exact ⟨j, message, address, htells.put hgoes, hp⟩
  · obtain ⟨x, hx, hown, address, haddress, hp⟩ :=
      Member.mem_history_of_mem_posts (h.faithful i) hp
    have htells : c.Tells i x.2 address := ⟨h.loaded_of_origin hdistinct hx hown, haddress⟩
    exact ⟨i, x.2, address, htells.put hgoes, hp⟩

/-- A request that arrives was told of by a load, and is taken for what
it tells. -/
theorem arrive {p : Forwarder.Post} {now : UInt64} {site : Site} (h : Traced host c₀ c)
    (hp : ∃ j message address, c.Tells j message address ∧ p = Forwarder.post message address) :
    Traced host c₀ (c.arrive host now site p) := by
  obtain ⟨j, message, address, htells, rfl⟩ := hp
  unfold Cluster.arrive
  split
  · rename_i i hhost
    refine h.put (Member.goes_answer (h.faithful i)) fun message' hmessage => ?_
    obtain ⟨hroute, hbody⟩ := Member.readBody_of_mem_arrivals hmessage
    rw [Member.readBody_post, Except.ok.injEq] at hbody
    exact ⟨j, address, hbody ▸ htells, hhost, hroute⟩
  · exact h

/-- **Every step keeps the invariant.** -/
theorem step (h : Traced host c₀ c)
    (hdistinct : Function.Injective fun i => (c₀.members i).node.id) (a : Step n) :
    Traced host c₀ (c.step host a) := by
  have hrest (k : Nat) : Traced host c₀ { c with flying := c.flying.eraseIdx k } :=
    h.fly fun p hp => h.flying p (List.mem_of_mem_eraseIdx hp)
  cases a with
  | load i now site =>
    refine h.put (Member.goes_load (h.faithful i)) fun _ hmessage => ?_
    exact nomatch Member.source_of_mem_announced hmessage
  | listen i now site =>
    exact h.put (Member.goes_listen (h.faithful i)) fun _ hmessage =>
      absurd hmessage List.not_mem_nil
  | forward i => exact h.forward hdistinct
  | deliver k now site =>
    simp only [Cluster.step]
    split
    · rename_i p hp
      obtain ⟨j, message, address, htells, hp⟩ := h.flying p (List.mem_of_getElem? hp)
      exact (hrest k).arrive ⟨j, message, address, ⟨htells.load, htells.address⟩, hp⟩
    · exact hrest k
  | lose k => exact hrest k

end Traced

/-- A cluster that has done nothing yet satisfies it. -/
theorem Fresh.traced (h : c.Fresh) : Traced host c c where
  faithful i := (h.starts i).faithful
  id _ := rfl
  peers _ := rfl
  flying p hp := by
    rw [h.flying] at hp
    exact absurd hp List.not_mem_nil
  arrived i message hmessage := by
    rw [(h.starts i).history] at hmessage
    exact absurd hmessage List.not_mem_nil

/-- And so does every cluster that comes of it. -/
theorem Fresh.traced_run (h : c.Fresh) (host : Url.Endpoint → Option (Fin n))
    (steps : List (Step n)) : Traced host c (c.run host steps) := by
  suffices hrun : ∀ c', Traced host c c' → Traced host c (steps.foldl (step host) c') from
    hrun c h.traced
  induction steps with
  | nil => exact fun c' hc' => hc'
  | cons a rest ih =>
    intro c' hc'
    exact ih _ (hc'.step h.distinct a)

end Cluster

end AttributeCache
