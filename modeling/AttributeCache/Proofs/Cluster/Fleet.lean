import AttributeCache.Lifecycle
import AttributeCache.Proofs.Cache.Succession
import AttributeCache.Proofs.Cluster.Delivery
import Mathlib.Algebra.Order.BigOperators.Group.Finset
import Mathlib.Logic.Function.Basic
/-!
# Nodes on one bus do not answer one another

Any number of nodes share a bus. A listener reloads at the word of another
node, and its reload must not be word for the next: else one load would go
round for ever. The record beside the state is of two kinds. What came onto
the bus is read off the bus itself after each step, whatever the step was;
the loads are those that were asked for and succeeded. `Sound` ties the one
to the other, and the attempts of each listener to its place in between.
-/

namespace AttributeCache

/-- A node on a shared bus, and what its listener did. -/
structure Runtime where
  node : Node
  /-- The receiver of its listener, once the node has started. -/
  receiver : Option Receiver := none
  /-- How many loads had succeeded when it subscribed. -/
  since : Nat := 0
  /-- What its listener was handed, in order. -/
  handed : List Delivery := []
  /-- How the reloads of its listener ended, in order. -/
  outcomes : List (Except CacheError Stamp) := []

namespace Runtime

variable {b : Bus} {history : List Invalidation} {r : Runtime} {d : Delivery}
variable {receiver receiver' : Receiver} {m : Invalidation}

/-- How many reloads its listener attempted. -/
def attempts (r : Runtime) : Nat := r.outcomes.length

/-- A runtime once its listener has dealt with a delivery, its node as it
acts then. -/
def listened (now : UInt64) (node : Node) (r : Runtime) (d : Delivery) (receiver : Receiver) :
    Runtime :=
  let (manager, outcome) :=
    Listener.act now node.site node.manager (Listener.reaction node.id d)
  { r with
    node := { node with manager }
    receiver := some receiver
    handed := r.handed ++ [d]
    outcomes := r.outcomes ++ outcome.toList }

/-- **A listener stands behind what it was handed** since it subscribed, and
it attempted one reload for each message of another node and for each
lag. -/
structure Stands (b : Bus) (history : List Invalidation) (r : Runtime) : Prop where
  attached : r.node.attached = true
  listeners : r.receiver.isSome → b.listeners ≠ 0
  unstarted : r.receiver = none → r.handed = []
  reads : ∀ receiver, r.receiver = some receiver →
    Bus.Reads history r.since receiver r.handed
  attempts : r.attempts =
    r.handed.countP (Delivery.isForeign r.node.id) + r.handed.countP Delivery.isLag

namespace Stands

theorem subscribe (h : Stands b history r) : Stands b.subscribe.1 history r :=
  { h with listeners := fun _ => Nat.succ_ne_zero _ }

theorem publish (h : Stands b history r) (m : Invalidation) :
    Stands (b.publish m).1 (history ++ [m]) r where
  attached := h.attached
  listeners := fun hsome => by
    rw [Bus.listeners_publish]
    exact h.listeners hsome
  unstarted := h.unstarted
  reads := fun receiver hreceiver => (h.reads receiver hreceiver).send m
  attempts := h.attempts

/-- The node of the runtime acted, as the node it is. -/
theorem act (h : Stands b history r) (node : Node) (hid : node.id = r.node.id)
    (hattached : node.attached = r.node.attached) : Stands b history { r with node } where
  attached := hattached.trans h.attached
  listeners := h.listeners
  unstarted := h.unstarted
  reads := h.reads
  attempts := by
    rw [hid]
    exact h.attempts

/-- The runtime's listener has just subscribed. -/
theorem start (h : Stands b history r) (hrecalls : b.Recalls history)
    (hnone : r.receiver = none) :
    Stands b.subscribe.1 history
      { r with receiver := some b.subscribe.2, since := history.length } where
  attached := h.attached
  listeners := fun _ => Nat.succ_ne_zero _
  unstarted := fun hnone' => nomatch hnone'
  reads := by
    rintro receiver ⟨⟩
    rw [h.unstarted hnone]
    exact .subscribe hrecalls
  attempts := h.attempts

/-- A listener reloads for a message of another node and for a lag, and not
otherwise. -/
theorem length_act (self : NodeId) (d : Delivery) (now : UInt64) (site : Site)
    (manager : Manager) :
    (Listener.act now site manager (Listener.reaction self d)).2.toList.length =
      [d].countP (Delivery.isForeign self) + [d].countP Delivery.isLag := by
  cases d with
  | message m =>
    by_cases hown : m.origin = self
    · simp [Listener.act, Listener.reaction, Delivery.isForeign, Delivery.isLag, hown]
    · simp [Listener.act, Listener.reaction, Delivery.isForeign, Delivery.isLag, hown]
  | lagged missed => simp [Listener.act, Listener.reaction, Delivery.isForeign, Delivery.isLag]

/-- The listener has dealt with the next delivery. -/
theorem listened (h : Stands b history r) (hrecalls : b.Recalls history)
    (hreceiver : r.receiver = some receiver) (hreceive : b.receive receiver = (some d, receiver'))
    (node : Node) (hid : node.id = r.node.id) (hattached : node.attached = r.node.attached)
    (now : UInt64) : Stands b history (r.listened now node d receiver') where
  attached := hattached.trans h.attached
  listeners := fun _ => h.listeners (by rw [hreceiver]; rfl)
  unstarted := fun hnone => nomatch hnone
  reads := by
    rintro receiver ⟨⟩
    exact ((h.reads _ hreceiver).handed hrecalls hreceive).1
  attempts := by
    have hmore := length_act node.id d now node.site node.manager
    have hbefore : r.outcomes.length = _ := h.attempts
    simp only [Runtime.attempts, Runtime.listened]
    rw [List.length_append, hmore, hbefore, hid, List.countP_append, List.countP_append]
    omega

end Stands

end Runtime

/-- Nodes on a shared bus, and what happened among them. -/
structure Fleet (n : Nat) where
  bus : Bus
  runtimes : Fin n → Runtime
  /-- The loads asked for at a node that succeeded, with what each
  published, in order. -/
  loads : List (Fin n × Snapshot) := []
  /-- What came onto the bus, in order. -/
  history : List Invalidation := []

namespace Fleet

variable {n : Nat} {f : Fleet n} {i j : Fin n} {now : UInt64} {site : Site}

/-! ## Steps -/

/-- A step of a fleet. The node that takes it reads the wall clock, and finds
the documents as they are then. -/
inductive Step (n : Nat) where
  | start (i : Fin n) (now : UInt64) (site : Site) (period : Option Nat)
  /-- A load is asked for at a node. -/
  | load (i : Fin n) (now : UInt64) (site : Site)
  /-- A scheduled reload of a node is due. -/
  | refresh (i : Fin n) (now : UInt64) (site : Site)
  /-- The listener of a node takes the next delivery. -/
  | listen (i : Fin n) (now : UInt64) (site : Site)

/-- Whether the step is a load that is asked for. -/
def Step.isLoad : Step n → Bool
  | .load .. => true
  | _ => false

/-- A node as it acts: on the bus that all share. -/
def node (f : Fleet n) (i : Fin n) (site : Site) : Node :=
  { (f.runtimes i).node with site, bus := f.bus }

/-- The fleet once a node has acted, the bus being as the node leaves it.
What is new on the bus is put on record. -/
def put (f : Fleet n) (i : Fin n) (r : Runtime) : Fleet n :=
  let bus := r.node.bus
  { f with
    bus
    runtimes := Function.update f.runtimes i r
    history := f.history ++ Bus.lastOf (bus.sent - f.bus.sent) bus.recent }

/-- What a load that was asked for published. -/
def loaded (i : Fin n) : Node × Except CacheError Stamp → List (Fin n × Snapshot)
  | (node, .ok _) => node.manager.current.toList.map fun snapshot => (i, snapshot)
  | (_, .error _) => []

/-- The fleet after a step. A node does nothing before it has started, and
starts once. -/
def step (f : Fleet n) : Step n → Fleet n
  | .start i now site period =>
    let r := f.runtimes i
    match r.receiver with
    | some _ => f
    | none =>
      match Lifecycle.start now (f.node i site) period with
      | .error (_, node) => f.put i { r with node }
      | .ok l => f.put i { r with node := l.node, receiver := l.receiver, since := f.loads.length }
  | .load i now site =>
    let r := f.runtimes i
    match r.receiver with
    | none => f
    | some _ =>
      let after := (f.node i site).load now
      { f.put i { r with node := after.1 } with loads := f.loads ++ loaded i after }
  | .refresh i now site =>
    let r := f.runtimes i
    match r.receiver with
    | none => f
    | some _ => f.put i { r with node := ((f.node i site).reload now).1 }
  | .listen i now site =>
    let r := f.runtimes i
    match r.receiver with
    | none => f
    | some receiver =>
      match f.bus.receive receiver with
      | (none, _) => f
      | (some d, receiver) => f.put i (r.listened now (f.node i site) d receiver)

/-- The fleet after a run. -/
def run (f : Fleet n) (steps : List (Step n)) : Fleet n := steps.foldl step f

/-- A fleet none of whose nodes has started. -/
def founded (capacity : Nat) (nodes : Fin n → Node) : Fleet n :=
  { bus := .ofCapacity capacity, runtimes := fun i => { node := nodes i } }

/-- No listener has anything ahead of it. -/
def Drained (f : Fleet n) : Prop :=
  ∀ i receiver, (f.runtimes i).receiver = some receiver → f.bus.pending receiver = []

/-! ## What a step puts on the bus -/

section Bus

variable {b : Bus} {m : Invalidation}

theorem lastOf_lastOf {α : Type} {k l : Nat} (hle : k ≤ l) (messages : List α) :
    Bus.lastOf k (Bus.lastOf l messages) = Bus.lastOf k messages := by
  rw [Bus.lastOf, Bus.lastOf, Bus.lastOf, List.drop_drop, List.length_drop]
  congr 1
  omega

/-- A message that is sent to somebody is what is new on the bus. -/
theorem new_publish (hcapacity : 0 < b.capacity) (hlisteners : b.listeners ≠ 0) :
    Bus.lastOf ((b.publish m).1.sent - b.sent) (b.publish m).1.recent = [m] := by
  rw [Bus.publish, if_neg hlisteners]
  simp only [Nat.add_sub_cancel_left]
  rw [lastOf_lastOf hcapacity, Bus.lastOf, List.length_append, List.length_singleton,
    Nat.add_sub_cancel, List.drop_left]

theorem new_of_sent_eq {b' : Bus} (h : b'.sent = b.sent) :
    Bus.lastOf (b'.sent - b.sent) b'.recent = [] := by
  rw [h, Nat.sub_self, Bus.lastOf, Nat.sub_zero, List.drop_length]

end Bus

/-- **What a load on request does**: it fails and nothing changes, or what
it published goes onto the bus in the node's name. -/
theorem load_cases (node : Node) (h : node.attached = true) (now : UInt64) :
    (∃ e, node.load now = (node, .error e)) ∨
      ∃ snapshot : Snapshot, node.load now =
        ({ node with
            manager := ⟨snapshot.timestamp, some snapshot⟩
            bus := (node.bus.publish ⟨node.id, snapshot.timestamp⟩).1 },
          .ok snapshot.timestamp) := by
  cases hbuild : node.site.build with
  | error e =>
    refine .inl ⟨e, ?_⟩
    rw [Node.load, Node.reload, Manager.load_of_error hbuild]
  | ok index =>
    refine .inr ⟨.ofIndex (node.manager.clock.tick now) index, ?_⟩
    rw [Node.load, Node.reload, Manager.load_of_ok hbuild]
    simp only [h, if_true]
    rfl

/-- **What a start does**: on failure the bus is as before, and on success
there is one receiver more, behind all that was sent. -/
theorem start_cases (now : UInt64) (node : Node) (period : Option Nat) :
    (∃ e manager, Lifecycle.start now node period = .error (e, { node with manager })) ∨
      ∃ l manager, Lifecycle.start now node period = .ok l ∧
        l.node = { node with manager, bus := node.bus.subscribe.1 } ∧
        l.receiver = some node.bus.subscribe.2 := by
  rcases hload : node.manager.load now node.site with ⟨manager, e | stamp⟩
  · refine .inl ⟨e, manager, ?_⟩
    simp [Lifecycle.start, Node.reload, hload, Bus.subscribe, Bus.unsubscribe]
  · refine .inr ⟨⟨{ node with manager, bus := node.bus.subscribe.1 }, some node.bus.subscribe.2,
      period.filter (0 < ·), 0⟩, manager, ?_, rfl, rfl⟩
    simp [Lifecycle.start, Node.reload, hload]

/-- A node that acted without the bus: its documents and its manager may be
others. -/
def acted (f : Fleet n) (i : Fin n) (site : Site) (manager : Manager) : Node :=
  { f.node i site with manager }

/-- **All that a step can do.** -/
inductive Goes (f : Fleet n) : Step n → Fleet n → Prop where
  | idle (a : Step n) : Goes f a f
  /-- A node used its manager: a start or a load that failed, or a scheduled
  reload. -/
  | keeps (a : Step n) (i : Fin n) (site : Site) (manager : Manager) : Goes f a
    { f with
      runtimes := Function.update f.runtimes i
        { f.runtimes i with node := f.acted i site manager } }
  | starts (i : Fin n) (now : UInt64) (site : Site) (period : Option Nat) (manager : Manager) :
    (f.runtimes i).receiver = none → Goes f (.start i now site period)
      { f with
        bus := f.bus.subscribe.1
        runtimes := Function.update f.runtimes i
          { f.runtimes i with
            node := { f.acted i site manager with bus := f.bus.subscribe.1 }
            receiver := some f.bus.subscribe.2
            since := f.loads.length } }
  | loads (i : Fin n) (now : UInt64) (site : Site) (manager : Manager) (snapshot : Snapshot)
    (bus : Bus) : (f.runtimes i).receiver.isSome →
    bus = (f.bus.publish ⟨(f.runtimes i).node.id, snapshot.timestamp⟩).1 → Goes f (.load i now site)
      { bus
        runtimes := Function.update f.runtimes i
          { f.runtimes i with node := { f.acted i site manager with bus } }
        loads := f.loads ++ [(i, snapshot)]
        history := f.history ++ [⟨(f.runtimes i).node.id, snapshot.timestamp⟩] }
  | hands (i : Fin n) (now : UInt64) (site : Site) (receiver receiver' : Receiver) (d : Delivery) :
    (f.runtimes i).receiver = some receiver → f.bus.receive receiver = (some d, receiver') →
    Goes f (.listen i now site)
      { f with
        runtimes := Function.update f.runtimes i
          ((f.runtimes i).listened now (f.node i site) d receiver') }

/-! ## What holds throughout -/

/-- What a load that was asked for has to say. -/
def word (f : Fleet n) (x : Fin n × Snapshot) : Invalidation :=
  ⟨(f.runtimes x.1).node.id, x.2.timestamp⟩

/-- **What ties the record together.** The bus recalls what came onto it, and
that is the word of each load, in order. -/
structure Sound (f : Fleet n) : Prop where
  capacity : 0 < f.bus.capacity
  recalls : f.bus.Recalls f.history
  announced : f.history = f.loads.map f.word
  stands : ∀ i, (f.runtimes i).Stands f.bus f.history

/-- A bus that nothing was sent on has nothing new. -/
theorem put_of_sent_eq {r : Runtime} (h : r.node.bus.sent = f.bus.sent) :
    f.put i r =
      { f with bus := r.node.bus, runtimes := Function.update f.runtimes i r } := by
  rw [put]
  simp only [new_of_sent_eq h, List.append_nil]

theorem goes_start (now : UInt64) (site : Site) (period : Option Nat) :
    f.Goes (.start i now site period) (f.step (.start i now site period)) := by
  simp only [step]
  split
  · exact .idle _
  · rename_i hreceiver
    rcases start_cases now (f.node i site) period with
      ⟨e, manager, hstart⟩ | ⟨l, manager, hstart, hnode, hl⟩
    · rw [hstart]
      simp only
      rw [put_of_sent_eq rfl]
      exact .keeps _ i site manager
    · rw [hstart]
      simp only
      rw [hnode, hl, put_of_sent_eq rfl]
      exact .starts i now site period manager hreceiver

theorem goes_load (h : Sound f) (now : UInt64) (site : Site) :
    f.Goes (.load i now site) (f.step (.load i now site)) := by
  simp only [step]
  split
  · exact .idle _
  · rename_i receiver hreceiver
    have hsome : (f.runtimes i).receiver.isSome := by rw [hreceiver]; rfl
    rcases load_cases (f.node i site) (h.stands i).attached now with
      ⟨e, hload⟩ | ⟨snapshot, hload⟩
    · rw [hload]
      simp only [loaded, List.append_nil]
      rw [put_of_sent_eq rfl]
      exact .keeps _ i site (f.runtimes i).node.manager
    · rw [hload]
      simp only [loaded, put, Option.toList_some, List.map_singleton]
      have hnew := new_publish (m := ⟨(f.runtimes i).node.id, snapshot.timestamp⟩) h.capacity
        ((h.stands i).listeners hsome)
      have hloads := Goes.loads (f := f) i now site ⟨snapshot.timestamp, some snapshot⟩ snapshot _
        hsome rfl
      rw [← hnew] at hloads
      exact hloads

theorem goes_refresh (now : UInt64) (site : Site) :
    f.Goes (.refresh i now site) (f.step (.refresh i now site)) := by
  simp only [step]
  split
  · exact .idle _
  · rw [put_of_sent_eq rfl]
    exact .keeps _ i site _

theorem goes_listen (now : UInt64) (site : Site) :
    f.Goes (.listen i now site) (f.step (.listen i now site)) := by
  simp only [step]
  split
  · exact .idle _
  · rename_i receiver hreceiver
    split
    · exact .idle _
    · rename_i d receiver' hreceive
      rw [put_of_sent_eq rfl]
      exact .hands i now site receiver receiver' d hreceiver hreceive

theorem goes_step (h : Sound f) (a : Step n) : f.Goes a (f.step a) := by
  cases a with
  | start i now site period => exact goes_start now site period
  | load i now site => exact goes_load h now site
  | refresh i now site => exact goes_refresh now site
  | listen i now site => exact goes_listen now site

/-- What is as it was in the one runtime that was put in is as it was in
all. -/
theorem field_update {α : Type} (field : Runtime → α) {r : Runtime}
    (h : field r = field (f.runtimes i)) (j : Fin n) :
    field (Function.update f.runtimes i r j) = field (f.runtimes j) := by
  by_cases hij : j = i
  · subst hij
    rw [Function.update_self, h]
  · rw [Function.update_of_ne hij]

/-- The names of the nodes stay, and so does what a load has to say. -/
theorem Goes.word_eq {a : Step n} {f' : Fleet n} (h : f.Goes a f') : f'.word = f.word := by
  have hid : ∀ j, (f'.runtimes j).node.id = (f.runtimes j).node.id := by
    cases h with
    | idle => exact fun _ => rfl
    | keeps => exact field_update (·.node.id) rfl
    | starts => exact field_update (·.node.id) rfl
    | loads => exact field_update (·.node.id) rfl
    | hands => exact field_update (·.node.id) rfl
  funext x
  rw [word, word, hid]

/-- One runtime is as given, and the others are as they were. -/
theorem stands_update {b : Bus} {history : List Invalidation} {r : Runtime}
    (hi : r.Stands b history) (hothers : ∀ j, (f.runtimes j).Stands b history) (j : Fin n) :
    (Function.update f.runtimes i r j).Stands b history := by
  by_cases hij : j = i
  · subst hij
    rwa [Function.update_self]
  · rw [Function.update_of_ne hij]
    exact hothers j

namespace Sound

/-- **A step keeps it.** -/
theorem goes {a : Step n} {f' : Fleet n} (h : Sound f) (hgoes : f.Goes a f') : Sound f' := by
  have hword := hgoes.word_eq
  cases hgoes with
  | idle => exact h
  | keeps _ i site manager =>
    have hi := (h.stands i).act (f.acted i site manager) rfl rfl
    exact ⟨h.capacity, h.recalls, hword ▸ h.announced, stands_update hi h.stands⟩
  | starts i now site period manager hnone =>
    have hlength : f.history.length = f.loads.length := by rw [h.announced, List.length_map]
    have hi := (h.stands i).start h.recalls hnone
    rw [hlength] at hi
    refine ⟨h.capacity, h.recalls.subscribe, hword ▸ h.announced,
      stands_update ?_ fun j => (h.stands j).subscribe⟩
    exact hi.act { f.acted i site manager with bus := f.bus.subscribe.1 } rfl rfl
  | loads i now site manager snapshot bus hsome hbus =>
    subst hbus
    refine ⟨?_, h.recalls.publish ((h.stands i).listeners hsome) _, ?_,
      stands_update ?_ fun j => (h.stands j).publish _⟩
    · rw [Bus.capacity_publish]
      exact h.capacity
    · rw [hword, List.map_append, ← h.announced]
      rfl
    · exact ((h.stands i).publish _).act _ rfl rfl
  | hands i now site receiver receiver' d hreceiver hreceive =>
    have hi := (h.stands i).listened h.recalls hreceiver hreceive
      (f.node i site) rfl rfl now
    exact ⟨h.capacity, h.recalls, hword ▸ h.announced, stands_update hi h.stands⟩

theorem step (h : Sound f) (a : Step n) : Sound (f.step a) := h.goes (goes_step h a)

theorem run (h : Sound f) (steps : List (Step n)) : Sound (f.run steps) := by
  induction steps generalizing f with
  | nil => exact h
  | cons a rest ih => exact ih (h.step a)

end Sound

theorem sound_founded (capacity : Nat) {nodes : Fin n → Node}
    (h : ∀ i, (nodes i).attached = true) : Sound (founded capacity nodes) where
  capacity := Bus.capacity_ofCapacity
  recalls := .empty
  announced := rfl
  stands := fun i =>
    ⟨h i, fun hsome => (nomatch hsome), fun _ => rfl, fun _ hsome => (nomatch hsome), rfl⟩

/-! ## Once all is taken in -/

/-- **The attempts of a listener that has taken in all there is** are the
loads of the others since it subscribed. -/
theorem attempts_of_pending (h : Sound f)
    (hdistinct : Function.Injective fun i => (f.runtimes i).node.id) {receiver : Receiver}
    (hreceiver : (f.runtimes i).receiver = some receiver) (hnone : f.bus.pending receiver = [])
    (hnolag : (f.runtimes i).handed.countP Delivery.isLag = 0) :
    (f.runtimes i).attempts =
      (f.loads.drop (f.runtimes i).since).countP (fun x => x.1 ≠ i) := by
  have hreads := (h.stands i).reads receiver hreceiver
  have hend := (hreads.pending_eq_nil_iff h.recalls).1 hnone
  have hcovers := hreads.covers
  rw [hend, List.take_length] at hcovers
  have hhanded := hcovers.eq_of_no_lag hnolag
  rw [(h.stands i).attempts, hnolag, hhanded, h.announced, ← List.map_drop, List.countP_map,
    List.countP_map]
  refine List.countP_congr fun x _ => ?_
  -- a message is of another node exactly if another node loaded, for names are distinct
  simp only [Function.comp_apply, Delivery.isForeign, word, bne_iff_ne, ne_eq,
    decide_eq_true_eq]
  exact not_congr ⟨fun heq => hdistinct heq, fun heq => by rw [heq]⟩

/-- A listener with nothing ahead of it has nothing to do. -/
theorem Drained.listen_eq (h : f.Drained) (i : Fin n) (now : UInt64) (site : Site) :
    f.step (.listen i now site) = f := by
  simp only [Fleet.step]
  split
  · rfl
  · rename_i receiver hreceiver
    rw [Bus.receive, h i receiver hreceiver]

/-- Each receiver then stands at the end of the history. -/
theorem drained_iff (h : Sound f) :
    f.Drained ↔ ∀ i r, (f.runtimes i).receiver = some r → r.next = f.history.length := by
  refine forall₃_congr fun i r hreceiver => ?_
  exact ((h.stands i).reads r hreceiver).pending_eq_nil_iff h.recalls

/-- **Where no load is asked for, nothing comes onto the bus**, and so
nothing comes up for a listener. -/
theorem Drained.goes {a : Step n} {f' : Fleet n} (h : f.Drained) (hsound : Sound f)
    (hgoes : f.Goes a f') (hload : a.isLoad = false) :
    f'.Drained ∧ f'.history = f.history ∧
      ∀ i, (f'.runtimes i).attempts = (f.runtimes i).attempts := by
  have hends := (drained_iff hsound).1 h
  have hsound' := hsound.goes hgoes
  cases hgoes with
  | idle => exact ⟨h, rfl, fun _ => rfl⟩
  | keeps _ i site manager =>
    refine ⟨fun j r hreceiver => h j r (Eq.trans ?_ hreceiver), rfl,
      field_update Runtime.attempts rfl⟩
    exact (field_update Runtime.receiver (by rfl) j).symm
  | starts i now site period manager hnone =>
    refine ⟨(drained_iff hsound').2 fun j r hreceiver => ?_, rfl,
      field_update Runtime.attempts rfl⟩
    by_cases hij : j = i
    · subst hij
      simp only [Function.update_self] at hreceiver
      obtain rfl : f.bus.subscribe.2 = r := Option.some.inj hreceiver
      exact hsound.recalls.sent
    · simp only [Function.update_of_ne hij] at hreceiver
      exact hends j r hreceiver
  | loads => cases hload
  | hands i now site receiver receiver' d hreceiver hreceive =>
    rw [Bus.receive, h i receiver hreceiver] at hreceive
    cases hreceive

theorem Drained.run (h : f.Drained) (hsound : Sound f) {later : List (Step n)}
    (hloads : ∀ a ∈ later, a.isLoad = false) :
    (f.run later).Drained ∧ (f.run later).history = f.history ∧
      ∀ i, ((f.run later).runtimes i).attempts = (f.runtimes i).attempts := by
  induction later generalizing f with
  | nil => exact ⟨h, rfl, fun _ => rfl⟩
  | cons a rest ih =>
    obtain ⟨hdrained, hhistory, hattempts⟩ :=
      h.goes hsound (goes_step hsound a) (hloads a List.mem_cons_self)
    obtain ⟨hend, hsame, hnone⟩ :=
      ih hdrained (hsound.step a) fun a ha => hloads a (List.mem_cons_of_mem _ ha)
    exact ⟨hend, hsame.trans hhistory, fun i => (hnone i).trans (hattempts i)⟩

/-- How much of the history lies ahead of a node's listener. -/
def ahead (f : Fleet n) (i : Fin n) : Nat :=
  match (f.runtimes i).receiver with
  | some r => f.history.length - r.next
  | none => 0

/-- A listener that is handed something has less ahead of it then, and the
others as much as before. -/
theorem ahead_listen_lt (h : Sound f) {receiver : Receiver}
    (hreceiver : (f.runtimes i).receiver = some receiver)
    (hpending : f.bus.pending receiver ≠ []) (now : UInt64) (site : Site) :
    ∑ j, (f.step (.listen i now site)).ahead j < ∑ j, f.ahead j := by
  have hreads := (h.stands i).reads receiver hreceiver
  obtain ⟨d, receiver', hreceive⟩ :
      ∃ d receiver', f.bus.receive receiver = (some d, receiver') := by
    obtain ⟨d, rest, hcons⟩ := List.exists_cons_of_ne_nil hpending
    rw [Bus.receive, hcons]
    cases d <;> exact ⟨_, _, rfl⟩
  obtain ⟨hreads', hd⟩ := hreads.handed h.recalls hreceive
  have hmoves : receiver.next < receiver'.next := by
    rcases hd with ⟨m, -, -, hnext⟩ | ⟨missed, -, hlt⟩ <;> omega
  have hstep : f.step (.listen i now site) =
      { f with
        runtimes := Function.update f.runtimes i
          ((f.runtimes i).listened now (f.node i site) d receiver') } := by
    simp only [Fleet.step, hreceiver, hreceive]
    exact put_of_sent_eq rfl
  have hle := hreads'.next_le
  have hi : (f.step (.listen i now site)).ahead i < f.ahead i := by
    rw [hstep]
    simp only [ahead, Function.update_self, Runtime.listened, hreceiver]
    omega
  refine Finset.sum_lt_sum (fun j _ => ?_) ⟨i, Finset.mem_univ i, hi⟩
  by_cases hij : j = i
  · subst hij
    exact Nat.le_of_lt hi
  · rw [hstep]
    simp only [ahead, Function.update_of_ne hij, Nat.le_refl]

/-- **The listeners by themselves come to an end.** -/
theorem exists_drained (h : Sound f) (now : UInt64) (site : Site) :
    ∃ order : List (Fin n), (f.run (order.map fun i => .listen i now site)).Drained := by
  induction hleft : ∑ j, f.ahead j using Nat.strong_induction_on generalizing f with
  | _ left ih =>
    by_cases hdrained : f.Drained
    · exact ⟨[], hdrained⟩
    · simp only [Drained, not_forall] at hdrained
      obtain ⟨i, receiver, hreceiver, hpending⟩ := hdrained
      have hless := ahead_listen_lt h hreceiver hpending now site
      obtain ⟨order, hend⟩ := ih _ (hleft ▸ hless) (h.step (.listen i now site)) rfl
      exact ⟨i :: order, hend⟩

/-- The names of the nodes stay throughout a run. -/
theorem word_run (h : Sound f) (steps : List (Step n)) : (f.run steps).word = f.word := by
  induction steps generalizing f with
  | nil => rfl
  | cons a rest ih => exact (ih (h.step a)).trans (goes_step h a).word_eq

/-- **What goes around among nodes of these names.** -/
structure Orderly (name : Fin n → NodeId) (f : Fleet n) : Prop where
  /-- What came onto the bus is one message for each load that was asked for
  and succeeded, with the node and the stamp of what it published. -/
  announced : f.history = f.loads.map fun x => ⟨name x.1, x.2.timestamp⟩
  /-- A listener that has taken in all there is, and never lagged, attempted
  a reload for each load of another node since it subscribed. -/
  attempts : ∀ i receiver, (f.runtimes i).receiver = some receiver → f.bus.pending receiver = [] →
    (f.runtimes i).handed.countP Delivery.isLag = 0 →
    (f.runtimes i).attempts = (f.loads.drop (f.runtimes i).since).countP (fun x => x.1 ≠ i)
  /-- Once all have taken in all there is, no listener has anything to do. -/
  resting : f.Drained → ∀ (i : Fin n) (now : UInt64) (site : Site),
    f.step (.listen i now site) = f
  /-- And so it stays until a load is asked for. -/
  quiet : f.Drained → ∀ later : List (Step n), (∀ a ∈ later, a.isLoad = false) →
    (f.run later).Drained ∧ (f.run later).history = f.history ∧
      ∀ i, ((f.run later).runtimes i).attempts = (f.runtimes i).attempts
  /-- The listeners by themselves come to that. -/
  drains : ∀ (now : UInt64) (site : Site), ∃ order : List (Fin n),
    (f.run (order.map fun i => .listen i now site)).Drained

/-- **One load, one message, and no echo.** Nodes of different names share a
bus of any capacity. Whatever is asked of them and in whatever order they
act, only loads that are asked for and succeed are announced, and no
listener's reload calls for another. -/
theorem orderly_run (capacity : Nat) (nodes : Fin n → Node)
    (hattached : ∀ i, (nodes i).attached = true)
    (hdistinct : Function.Injective fun i => (nodes i).id) (steps : List (Step n)) :
    Orderly (fun i => (nodes i).id) ((founded capacity nodes).run steps) := by
  have hfounded := sound_founded capacity hattached
  have hsound := hfounded.run steps
  have hword := word_run hfounded steps
  have hnames : ∀ i, (((founded capacity nodes).run steps).runtimes i).node.id = (nodes i).id :=
    fun i => congrArg Invalidation.origin (congrFun hword (i, ⟨Stamp.epoch, []⟩))
  refine ⟨?_, fun i receiver hreceiver hnone hnolag => ?_, fun hdrained => hdrained.listen_eq,
    fun hdrained later hloads => hdrained.run hsound hloads, exists_drained hsound⟩
  · rw [hsound.announced, hword]
    rfl
  · refine attempts_of_pending hsound ?_ hreceiver hnone hnolag
    simp only [hnames]
    exact hdistinct

/-- Two nodes without documents. -/
def twoNodes : Fin 2 → Node := fun i =>
  { id := ⟨BitVec.ofNat 128 (i + 1)⟩, attached := true, site := Manager.Trace.emptySite }

/-- A site whose definitions cannot be had. -/
def brokenSite : Site := ⟨⟨.memory [], {}⟩, .unavailable "down"⟩

/-- The second node follows the first. Its own load fails, so the first has
nothing to follow, and the scheduled reload of the first is nobody's
concern. -/
theorem orderly_twoNodes :
    let steps : List (Step 2) :=
      [.start 0 10 Manager.Trace.emptySite none, .start 1 11 Manager.Trace.emptySite none,
        .load 0 12 Manager.Trace.emptySite, .load 1 13 brokenSite,
        .listen 1 14 brokenSite, .refresh 0 15 Manager.Trace.emptySite,
        .listen 0 16 Manager.Trace.emptySite]
    let f := (founded 2 twoNodes).run steps
    Orderly (fun i => (twoNodes i).id) f ∧ f.history = [⟨⟨1⟩, ⟨12, 0⟩⟩] ∧
      (f.runtimes 0).attempts = 0 ∧ (f.runtimes 1).attempts = 1 := by
  intro steps f
  have hdistinct : Function.Injective fun i => (twoNodes i).id := by
    intro i j
    revert i j
    decide
  refine ⟨orderly_run 2 twoNodes (fun _ => rfl) hdistinct steps, ?_⟩
  decide +kernel

end Fleet

end AttributeCache
