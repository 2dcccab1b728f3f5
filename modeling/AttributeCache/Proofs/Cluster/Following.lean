import AttributeCache.Lifecycle
import AttributeCache.Proofs.Cluster.Delivery
/-!
# A listener misses no message

A listener works on its own time: while it starts, while a reload of its
own goes on and between its steps, anyone may use the bus and the manager. A
`Course` is the listener amid all this, with the list of what happened. The
hard place is a listener so slow that messages are gone when it comes to
them. It is told of the gap, not of the messages, and `Course.Answering` has
to say of each of these that an attempt to reload came behind it; what
carries this is the place of the receiver in the history of the bus.
-/

namespace AttributeCache

namespace Listener

variable {now : UInt64} {site : Site} {manager : Manager} {self : NodeId} {d : Delivery}
variable {m : Invalidation}

/-! ## A course -/

/-- What the listener is at. -/
inductive Stage where
  /-- It has subscribed, and the first load is going on. -/
  | starting
  | waiting
  | reloading
  /-- The first load failed. -/
  | stopped
deriving DecidableEq

/-- What happened. -/
inductive Event where
  | published (m : Invalidation)
  | handed (d : Delivery)
  /-- The listener had its manager observe a stamp. -/
  | observed (stamp : Stamp)
  /-- The listener began a reload. -/
  | attempted
deriving DecidableEq

namespace Event

def message? : Event → Option Invalidation
  | .published m => some m
  | _ => none

def delivery? : Event → Option Delivery
  | .handed d => some d
  | _ => none

/-- Whether the listener did something to its manager. -/
def isWork : Event → Bool
  | .observed _ | .attempted => true
  | _ => false

end Event

/-- The manager when a reload begins: the stamp of the message, if it is one
message that asks for the reload, has been observed. -/
def prepared (now : UInt64) (manager : Manager) : Option Stamp → Manager
  | some stamp => manager.observe now stamp
  | none => manager

theorem perform_reload {observed : Option Stamp} :
    perform now site manager (.reload observed) =
      ((prepared now manager observed).load now site).1 := by
  cases observed <;> rfl

/-- What a delivery asks of the listener of a node. -/
def asked (self : NodeId) (d : Delivery) : List Event :=
  match reaction self d with
  | .ignore => []
  | .reload observed => observed.toList.map .observed ++ [.attempted]

/-- A listener, its bus and its manager, and what happened. -/
structure Course where
  self : NodeId
  bus : Bus
  receiver : Receiver
  manager : Manager
  stage : Stage := .starting
  events : List Event := []

namespace Course

/-- What can happen next, with the reading of the wall clock and the
documents at that moment. -/
inductive Step where
  | send (m : Invalidation)
  /-- Somebody else subscribes. -/
  | join
  /-- Somebody else is gone. -/
  | leave
  /-- Somebody else uses the manager, and leaves it like this. -/
  | manage (manager : Manager)
  /-- The first load ends. -/
  | start (now : UInt64) (site : Site)
  /-- The listener takes the next delivery off the bus. -/
  | take (now : UInt64)
  /-- The reload of the listener ends. -/
  | finish (now : UInt64) (site : Site)

variable {c : Course}

/-- What was published, in order. -/
def published (c : Course) : List Invalidation := c.events.filterMap Event.message?

/-- What the listener was handed, in order. -/
def handed (c : Course) : List Delivery := c.events.filterMap Event.delivery?

/-- What the listener did, in order. -/
def work (c : Course) : List Event := c.events.filter Event.isWork

/-- A listener that has just subscribed. -/
def subscribed (self : NodeId) (bus : Bus) (manager : Manager) : Course :=
  { self, bus := bus.subscribe.1, receiver := bus.subscribe.2, manager }

/-- The first load ends. The receiver goes with a load that fails. -/
def launch (now : UInt64) (site : Site) (c : Course) : Course :=
  match c.manager.load now site with
  | (_, .error _) => { c with stage := .stopped, bus := c.bus.unsubscribe }
  | (manager, .ok _) => { c with stage := .waiting, manager }

/-- The listener takes the next delivery, if there is one, and observes the
stamp where it is going to reload. -/
def take (now : UInt64) (c : Course) : Course :=
  match c.bus.receive c.receiver with
  | (none, _) => c
  | (some d, receiver) =>
    let events := c.events ++ .handed d :: asked c.self d
    match reaction c.self d with
    | .ignore => { c with receiver, events }
    | .reload observed =>
      { c with receiver, events, stage := .reloading, manager := prepared now c.manager observed }

/-- The course with one more step. A step that is not the listener's turn
does nothing. -/
def step (c : Course) : Step → Course
  | .send m => { c with bus := (c.bus.publish m).1, events := c.events ++ [.published m] }
  | .join => { c with bus := c.bus.subscribe.1 }
  | .leave => if 1 < c.bus.listeners then { c with bus := c.bus.unsubscribe } else c
  | .manage manager => { c with manager }
  | .start now site => if c.stage = .starting then c.launch now site else c
  | .take now => if c.stage = .waiting then c.take now else c
  | .finish now site =>
    if c.stage = .reloading then
      { c with manager := (c.manager.load now site).1, stage := .waiting }
    else c

/-- The course of a run. -/
def run (c : Course) (steps : List Step) : Course := steps.foldl step c

/-- The listener deals with the next delivery undisturbed. -/
def alone (reading : UInt64 × Site) : List Step :=
  [.take reading.1, .finish reading.1 reading.2]

/-- A node that is started is a listener that subscribes, with the node's
own load as the first. -/
theorem start_eq (node : Node) (period : Option Nat) :
    let c := (subscribed node.id node.bus node.manager).step (.start now node.site)
    match Lifecycle.start now node period with
    | .ok l => c.stage = .waiting ∧ l.node.manager = c.manager ∧ l.node.bus = c.bus ∧
        l.receiver = some c.receiver
    | .error (_, node) => c.stage = .stopped ∧ node.manager = c.manager ∧ node.bus = c.bus := by
  cases hbuild : node.site.build with
  | error e =>
    simp [subscribed, step, launch, Lifecycle.start, Node.reload, Manager.load, hbuild]
  | ok index =>
    simp [subscribed, step, launch, Lifecycle.start, Node.reload, Manager.load, hbuild]

/-! ## What a step leaves -/

theorem isWork_of_mem_asked : ∀ x ∈ asked self d, x.isWork = true := by
  intro x hx
  unfold asked at hx
  split at hx
  · exact absurd hx List.not_mem_nil
  · rename_i observed _
    rcases List.mem_append.1 hx with hx | hx
    · obtain ⟨stamp, -, rfl⟩ := List.mem_map.1 hx
      rfl
    · rw [List.mem_singleton.1 hx]
      rfl

theorem message?_of_isWork {x : Event} (h : x.isWork = true) : x.message? = none := by
  cases x <;> first | rfl | exact nomatch h

theorem delivery?_of_isWork {x : Event} (h : x.isWork = true) : x.delivery? = none := by
  cases x <;> first | rfl | exact nomatch h

theorem filterMap_delivery?_handed :
    (Event.handed d :: asked self d).filterMap Event.delivery? = [d] := by
  have hnone : (asked self d).filterMap Event.delivery? = [] :=
    List.filterMap_eq_nil_iff.2 fun x hx => delivery?_of_isWork (isWork_of_mem_asked x hx)
  rw [List.filterMap_cons, hnone]
  rfl

theorem filter_isWork_handed :
    (Event.handed d :: asked self d).filter Event.isWork = asked self d := by
  rw [List.filter_cons_of_neg (by simp [Event.isWork])]
  exact List.filter_eq_self.2 isWork_of_mem_asked

/-- What is left of a split when something is added that is no message. -/
theorem split_of_append {events new past rest : List Event}
    (hnew : ∀ x ∈ new, x.message? = none)
    (h : events ++ new = past ++ .published m :: rest) :
    ∃ rest', events = past ++ .published m :: rest' ∧ rest = rest' ++ new := by
  rcases List.append_eq_append_iff.1 h with ⟨between, -, hsplit⟩ | ⟨between, hevents, hsplit⟩
  · have hmem : Event.published m ∈ new := by
      rw [hsplit]
      exact List.mem_append_right _ List.mem_cons_self
    exact nomatch hnew _ hmem
  · cases between with
    | nil =>
      have hmem : Event.published m ∈ new := by
        rw [List.nil_append] at hsplit
        exact hsplit ▸ List.mem_cons_self
      exact nomatch hnew _ hmem
    | cons x rest' =>
      obtain ⟨rfl, hrest⟩ := List.cons.inj hsplit
      exact ⟨rest', hevents, hrest⟩

/-- **What taking the next delivery does**: nothing if there is none; else
the delivery is handed out, and either it is ignored or a reload begins. -/
theorem take_cases (now : UInt64) (c : Course) :
    ((c.bus.receive c.receiver).1 = none ∧ c.take now = c) ∨
      ∃ d receiver, c.bus.receive c.receiver = (some d, receiver) ∧
        (reaction c.self d = .ignore ∧
            c.take now =
              { c with receiver, events := c.events ++ .handed d :: asked c.self d } ∨
          ∃ observed, reaction c.self d = .reload observed ∧
            c.take now =
              { c with
                receiver
                events := c.events ++ .handed d :: asked c.self d
                stage := .reloading
                manager := prepared now c.manager observed }) := by
  unfold take
  split
  · rename_i hreceive
    exact .inl ⟨congrArg Prod.fst hreceive, rfl⟩
  · rename_i d receiver hreceive
    refine .inr ⟨d, receiver, hreceive, ?_⟩
    cases hreaction : reaction c.self d with
    | ignore => exact .inl ⟨rfl, rfl⟩
    | reload observed => exact .inr ⟨observed, rfl, rfl⟩

/-! ## What holds throughout -/

/-- **The listener keeps up with its place in the history.** What was
published since it subscribed is the end of the history of its bus, and what
it has been handed makes up the stretch behind its receiver. Of each message
of another node in that stretch an attempt to reload came behind it. -/
structure Answering (log : List Invalidation) (start : Nat) (c : Course) : Prop where
  listeners : c.bus.listeners ≠ 0
  recalls : c.bus.Recalls log
  published : log.drop start = c.published
  reads : Bus.Reads log start c.receiver c.handed
  answered : ∀ past m rest, c.events = past ++ .published m :: rest → m.origin ≠ c.self →
    start + (past.filterMap Event.message?).length < c.receiver.next → .attempted ∈ rest

variable {log : List Invalidation} {start : Nat}

theorem answering_subscribed {bus : Bus} (h : bus.Recalls log) :
    Answering log log.length (subscribed self bus manager) where
  listeners := Nat.succ_ne_zero _
  recalls := h.subscribe
  published := by
    rw [List.drop_length]
    rfl
  reads := .subscribe h
  answered := fun past m rest hevents => by simp [subscribed] at hevents

namespace Answering

/-- The place of an event in the history. -/
theorem getElem?_log (h : Answering log start c) {past rest : List Event}
    (hevents : c.events = past ++ .published m :: rest) :
    log[start + (past.filterMap Event.message?).length]? = some m := by
  have hpublished : log.drop start =
      past.filterMap Event.message? ++ m :: rest.filterMap Event.message? := by
    rw [h.published, Course.published, hevents, List.filterMap_append]
    rfl
  rw [← List.getElem?_drop, hpublished, List.getElem?_append_right (Nat.le_refl _), Nat.sub_self]
  rfl

theorem send (h : Answering log start c) (m : Invalidation) :
    Answering (log ++ [m]) start (c.step (.send m)) where
  listeners := by
    rw [step, Bus.listeners_publish]
    exact h.listeners
  recalls := h.recalls.publish h.listeners m
  published := by
    have hle := Nat.le_trans h.reads.start_le h.reads.next_le
    rw [List.drop_append_of_le_length hle, h.published, Course.published, Course.published, step,
      List.filterMap_append]
    rfl
  reads := by
    have hhanded : (c.step (.send m)).handed = c.handed := by
      rw [handed, step, List.filterMap_append]
      exact List.append_nil _
    rw [hhanded]
    exact h.reads.send m
  answered := by
    intro past m' rest hevents hother hlt
    rcases List.eq_nil_or_concat rest with rfl | ⟨rest', x, rfl⟩
    · -- the message lies ahead of the receiver, behind all that was published before
      obtain ⟨hpast, -⟩ := List.append_inj' hevents rfl
      have hlength : start + (past.filterMap Event.message?).length = log.length := by
        have hle := Nat.le_trans h.reads.start_le h.reads.next_le
        rw [← hpast, ← Course.published, ← h.published, List.length_drop]
        omega
      have hnext : c.receiver.next ≤ log.length := h.reads.next_le
      have hlt' : start + (past.filterMap Event.message?).length < c.receiver.next := hlt
      omega
    · rw [List.concat_eq_append] at hevents ⊢
      have hold : c.events = past ++ .published m' :: rest' := by
        have hassoc : past ++ Event.published m' :: (rest' ++ [x]) =
            (past ++ Event.published m' :: rest') ++ [x] := by
          rw [List.append_assoc, List.cons_append]
        exact (List.append_inj' (hevents.trans hassoc) rfl).1
      exact List.mem_append_left _ (h.answered past m' rest' hold hother hlt)

/-- **A delivery that is taken is answered**: an entry of another node by
an attempt of its own, and what is gone by the one attempt the lag asks
for. -/
theorem hand {receiver : Receiver} (h : Answering log start c)
    (hreceive : c.bus.receive c.receiver = (some d, receiver)) (stage : Stage)
    (manager : Manager) :
    Answering log start
      { c with
        receiver, stage, manager, events := c.events ++ .handed d :: asked c.self d } := by
  obtain ⟨hreads, hd⟩ := h.reads.handed h.recalls hreceive
  have hnone : ∀ x ∈ Event.handed d :: asked c.self d, x.message? = none := by
    intro x hx
    rcases List.mem_cons.1 hx with rfl | hx
    · rfl
    · exact message?_of_isWork (isWork_of_mem_asked x hx)
  refine ⟨h.listeners, h.recalls, ?_, ?_, ?_⟩
  · rw [h.published, Course.published, Course.published, List.filterMap_append,
      List.filterMap_eq_nil_iff.2 hnone, List.append_nil]
  · rw [Course.handed, List.filterMap_append, filterMap_delivery?_handed]
    exact hreads
  · intro past m rest hevents hother hlt
    obtain ⟨rest', hold, rfl⟩ := split_of_append hnone hevents
    by_cases hbehind : start + (past.filterMap Event.message?).length < c.receiver.next
    · exact List.mem_append_left _ (h.answered past m rest' hold hother hbehind)
    refine List.mem_append_right _ (List.mem_cons_of_mem _ ?_)
    rcases hd with ⟨m', rfl, hm', hnext⟩ | ⟨missed, rfl, -⟩
    · have hplace : start + (past.filterMap Event.message?).length = c.receiver.next := by
        simp only [hnext] at hlt
        omega
      have hm := h.getElem?_log hold
      rw [hplace, hm', Option.some.injEq] at hm
      simp [asked, reaction, hm, hother]
    · simp [asked, reaction]

/-- What others do beside the bus's messages leaves the listener where it
is. -/
theorem of_eq {c' : Course} (h : Answering log start c) (hself : c'.self = c.self)
    (hlisteners : c'.bus.listeners ≠ 0) (hsent : c'.bus.Recalls log)
    (hreceiver : c'.receiver = c.receiver) (hevents : c'.events = c.events) :
    Answering log start c' where
  listeners := hlisteners
  recalls := hsent
  published := by
    rw [Course.published, hevents]
    exact h.published
  reads := by
    rw [hreceiver, Course.handed, hevents]
    exact h.reads
  answered := by
    rw [hevents, hreceiver, hself]
    exact h.answered

end Answering

/-- **What holds of a listener throughout**: it did what it was asked to,
and while it has not stopped it keeps up. -/
structure Sound (c : Course) : Prop where
  work : c.work = c.handed.flatMap (asked c.self)
  answering : c.stage ≠ .stopped → ∃ log start, Answering log start c

theorem sound_subscribed {bus : Bus} (h : bus.Recalls log) :
    Sound (subscribed self bus manager) :=
  ⟨rfl, fun _ => ⟨log, log.length, answering_subscribed h⟩⟩

namespace Sound

/-- A step that leaves the events, the receiver and the history as they
are. -/
theorem of_eq {c' : Course} (h : Sound c) (hself : c'.self = c.self)
    (hstage : c'.stage ≠ .stopped → c.stage ≠ .stopped)
    (hlisteners : c'.stage ≠ .stopped → c.bus.listeners ≠ 0 → c'.bus.listeners ≠ 0)
    (hrecalls : ∀ log, c.bus.Recalls log → c'.bus.Recalls log)
    (hreceiver : c'.receiver = c.receiver) (hevents : c'.events = c.events) : Sound c' where
  work := by
    rw [Course.work, Course.handed, hevents, hself]
    exact h.work
  answering := by
    intro hnot
    obtain ⟨log, start, hanswering⟩ := h.answering (hstage hnot)
    exact ⟨log, start, hanswering.of_eq hself (hlisteners hnot hanswering.listeners)
      (hrecalls log hanswering.recalls) hreceiver hevents⟩

theorem send (h : Sound c) (m : Invalidation) : Sound (c.step (.send m)) where
  work := by
    have hwork : (c.step (.send m)).work = c.work := by
      rw [Course.work, step, List.filter_append]
      exact List.append_nil _
    have hhanded : (c.step (.send m)).handed = c.handed := by
      rw [Course.handed, step, List.filterMap_append]
      exact List.append_nil _
    rw [hwork, hhanded]
    exact h.work
  answering := fun hnot => by
    obtain ⟨log, start, hanswering⟩ := h.answering hnot
    exact ⟨_, start, hanswering.send m⟩

theorem hand {receiver : Receiver} (h : Sound c)
    (hreceive : c.bus.receive c.receiver = (some d, receiver)) (hnot : c.stage ≠ .stopped)
    (stage : Stage) (manager : Manager) :
    Sound
      { c with
        receiver, stage, manager, events := c.events ++ .handed d :: asked c.self d } where
  work := by
    rw [Course.work, Course.handed, List.filter_append, List.filterMap_append,
      filter_isWork_handed, filterMap_delivery?_handed, List.flatMap_append,
      List.flatMap_singleton]
    exact congrArg (· ++ asked c.self d) h.work
  answering := fun _ => by
    obtain ⟨log, start, hanswering⟩ := h.answering hnot
    exact ⟨log, start, hanswering.hand hreceive stage manager⟩

theorem take (h : Sound c) (hnot : c.stage ≠ .stopped) (now : UInt64) : Sound (c.take now) := by
  rcases take_cases now c with
    ⟨-, hidle⟩ | ⟨d, receiver, hreceive, ⟨-, htake⟩ | ⟨observed, -, htake⟩⟩
  · rw [hidle]
    exact h
  · rw [htake]
    exact h.hand hreceive hnot c.stage c.manager
  · rw [htake]
    exact h.hand hreceive hnot .reloading _

theorem launch (h : Sound c) (hstarting : c.stage = .starting) (now : UInt64) (site : Site) :
    Sound (c.launch now site) := by
  unfold Course.launch
  split
  · exact h.of_eq rfl (fun hnot => absurd rfl hnot) (fun hnot => absurd rfl hnot)
      (fun _ => Bus.Recalls.unsubscribe) rfl rfl
  · exact h.of_eq rfl (fun _ => by rw [hstarting]; decide) (fun _ => id) (fun _ => id) rfl rfl

/-- **A step keeps it.** -/
theorem step (h : Sound c) (a : Step) : Sound (c.step a) := by
  cases a with
  | send m => exact h.send m
  | join =>
    exact h.of_eq rfl id (fun _ _ => Nat.succ_ne_zero _) (fun _ => Bus.Recalls.subscribe) rfl rfl
  | leave =>
    rw [Course.step]
    split
    · rename_i hothers
      refine h.of_eq rfl id (fun _ _ => ?_) (fun _ => Bus.Recalls.unsubscribe) rfl rfl
      exact Nat.sub_ne_zero_of_lt hothers
    · exact h
  | manage manager => exact h.of_eq rfl id (fun _ => id) (fun _ => id) rfl rfl
  | start now site =>
    rw [Course.step]
    split
    · rename_i hstarting
      exact h.launch hstarting now site
    · exact h
  | take now =>
    rw [Course.step]
    split
    · rename_i hwaiting
      exact h.take (by rw [hwaiting]; decide) now
    · exact h
  | finish now site =>
    rw [Course.step]
    split
    · rename_i hreloading
      exact h.of_eq rfl (fun _ => by rw [hreloading]; decide) (fun _ => id) (fun _ => id) rfl rfl
    · exact h

end Sound

theorem sound_run (h : Sound c) (steps : List Step) : Sound (c.run steps) := by
  induction steps generalizing c with
  | nil => exact h
  | cons a rest ih => exact ih (h.step a)

/-! ## The listener by itself -/

/-- What it adds to the events to deal with deliveries. -/
def dealings (self : NodeId) (deliveries : List Delivery) : List Event :=
  deliveries.flatMap fun d => .handed d :: asked self d

/-- The listener deals with one delivery: it waits again behind it, and the
manager is as the reaction leaves it. -/
theorem run_alone {rest : List Delivery} (h : Answering log start c)
    (hwaiting : c.stage = .waiting) (hpending : c.bus.pending c.receiver = d :: rest)
    (reading : UInt64 × Site) :
    ∃ receiver,
      c.run (alone reading) =
          { c with
            receiver
            events := c.events ++ .handed d :: asked c.self d
            manager := perform reading.1 reading.2 c.manager (reaction c.self d) } ∧
        c.bus.pending receiver = rest ∧ Answering log start (c.run (alone reading)) := by
  obtain ⟨receiver, hreceive⟩ : ∃ receiver, c.bus.receive c.receiver = (some d, receiver) := by
    rw [Bus.receive, hpending]
    cases d <;> exact ⟨_, rfl⟩
  have hnext : c.bus.pending receiver = rest := by
    have hfront := h.reads.pending_of_receive h.recalls hreceive
    rw [hpending] at hfront
    exact (List.cons.inj hfront).2.symm
  have hrun : c.run (alone reading) =
      { c with
        receiver
        events := c.events ++ .handed d :: asked c.self d
        manager := perform reading.1 reading.2 c.manager (reaction c.self d) } := by
    cases hreaction : reaction c.self d with
    | ignore => simp [run, alone, Course.step, hwaiting, take, hreceive, hreaction, perform, act]
    | reload observed =>
      simp [run, alone, Course.step, hwaiting, take, hreceive, hreaction, perform_reload]
  refine ⟨receiver, hrun, hnext, ?_⟩
  rw [hrun]
  exact h.hand hreceive _ _

/-- **Left to itself, the listener deals with all that is pending**, in
order, whatever comes of the reloads. -/
theorem run_alone_all (h : Answering log start c) (hwaiting : c.stage = .waiting)
    (readings : List (UInt64 × Site))
    (hlength : readings.length = (c.bus.pending c.receiver).length) :
    ∃ receiver,
      c.run (readings.flatMap alone) =
          { c with
            receiver
            events := c.events ++ dealings c.self (c.bus.pending c.receiver)
            manager := ((c.bus.pending c.receiver).zip readings).foldl
              (fun manager x => perform x.2.1 x.2.2 manager (reaction c.self x.1)) c.manager } ∧
        c.bus.pending receiver = [] ∧ Answering log start (c.run (readings.flatMap alone)) := by
  induction readings generalizing c with
  | nil =>
    have hnone : c.bus.pending c.receiver = [] := List.length_eq_zero_iff.1 hlength.symm
    have hevents : c.events ++ dealings c.self [] = c.events := List.append_nil _
    refine ⟨c.receiver, ?_, hnone, h⟩
    rw [hnone, hevents]
    rfl
  | cons reading readings ih =>
    obtain ⟨d, rest, hpending⟩ : ∃ d rest, c.bus.pending c.receiver = d :: rest := by
      refine List.exists_cons_of_length_pos ?_
      rw [← hlength]
      exact Nat.succ_pos _
    obtain ⟨receiver, hone, hrest, hafter⟩ := run_alone h hwaiting hpending reading
    have hsplit : c.run ((reading :: readings).flatMap alone) =
        (c.run (alone reading)).run (readings.flatMap alone) := by
      rw [run, run, run, List.flatMap_cons, List.foldl_append]
    have hshorter : readings.length = (c.bus.pending receiver).length := by
      rw [hpending, List.length_cons, List.length_cons] at hlength
      rw [hrest]
      omega
    rw [hsplit]
    rw [hone] at hafter ⊢
    obtain ⟨receiver', hall, hnone, hend⟩ := ih hafter hwaiting hshorter
    refine ⟨receiver', hall.trans ?_, hnone, hend⟩
    simp only [hrest, hpending, dealings, List.flatMap_cons, List.append_assoc, List.cons_append,
      List.zip_cons_cons, List.foldl_cons]

/-- With one reading of the clock and the same documents throughout, that is
what a node's listener does when it takes in all it is handed. -/
theorem run_alone_eq_drain (h : Answering log start c) (hwaiting : c.stage = .waiting)
    (now : UInt64) (site : Site) :
    let readings := List.replicate (c.bus.pending c.receiver).length (now, site)
    let after := c.run (readings.flatMap alone)
    (after.manager, after.receiver) = drain c.self now site c.bus c.receiver c.manager := by
  intro readings after
  obtain ⟨receiver, hrun, hnone, hafter⟩ := run_alone_all h hwaiting readings List.length_replicate
  have hreceiver : receiver = ⟨c.bus.sent⟩ := by
    have hend := (hafter.reads.pending_eq_nil_iff hafter.recalls).1 (by rw [hrun]; exact hnone)
    rw [hrun] at hend
    rw [h.recalls.sent, ← hend]
  have hzip : ∀ pending : List Delivery,
      pending.zip (List.replicate pending.length (now, site)) =
        pending.map fun d => (d, now, site) := by
    intro pending
    induction pending with
    | nil => rfl
    | cons d rest ih => rw [List.length_cons, List.replicate_succ, List.zip_cons_cons, ih]; rfl
  simp only [after, hrun, hreceiver, drain, List.foldl_map, readings, hzip]

/-! ## No message is missed -/

/-- The attempts that deliveries ask for. -/
theorem count_attempted_asked (deliveries : List Delivery) :
    (deliveries.flatMap (asked self)).count .attempted =
      deliveries.countP (Delivery.isForeign self) + deliveries.countP Delivery.isLag := by
  induction deliveries with
  | nil => rfl
  | cons d rest ih =>
    rw [List.flatMap_cons, List.count_append, ih, List.countP_cons, List.countP_cons]
    cases d with
    | message m =>
      by_cases hown : m.origin = self
      · simp [asked, reaction, Delivery.isForeign, Delivery.isLag, hown]
      · simp [asked, reaction, Delivery.isForeign, Delivery.isLag, hown]
        omega
    | lagged missed =>
      simp [asked, reaction, Delivery.isForeign, Delivery.isLag]
      omega

/-- **How a listener attends to its bus.** -/
structure Attentive (c : Course) : Prop where
  /-- Once the bus holds nothing more for the listener, an attempt to reload
  came behind every message of another node. -/
  answered : c.stage ≠ .stopped → c.bus.pending c.receiver = [] →
    ∀ past m rest, c.events = past ++ .published m :: rest → m.origin ≠ c.self →
      .attempted ∈ rest
  /-- What it was handed makes up what was published: a message by itself,
  or one word of a lag for all that were gone. -/
  covers : c.stage ≠ .stopped → c.bus.pending c.receiver = [] →
    Bus.Covers c.published c.handed
  /-- A message of another node asks for one attempt, one of its own for
  none, and a lag for one. -/
  attempts : c.events.count .attempted =
    c.handed.countP (Delivery.isForeign c.self) + c.handed.countP Delivery.isLag
  /-- Where nothing lagged, the listener observed the stamp of each message
  of another node and then tried to reload, in their order, and did nothing
  else. -/
  unlagged : c.stage ≠ .stopped → c.bus.pending c.receiver = [] →
    c.handed.countP Delivery.isLag = 0 →
    c.work = c.published.flatMap (fun m =>
        if m.origin = c.self then [] else [.observed m.timestamp, .attempted]) ∧
      c.events.count .attempted = c.published.countP (·.origin != c.self)
  /-- Nothing stops it but a first load that fails. -/
  stops : ∀ a, (c.step a).stage = .stopped → c.stage = .stopped ∨
    c.stage = .starting ∧ ∃ now site e, a = .start now site ∧ site.build = .error e
  /-- A reload that ends leaves it waiting, and one that fails leaves the
  manager as it was. -/
  returns : c.stage = .reloading → ∀ now site, (c.step (.finish now site)).stage = .waiting ∧
    ∀ e, site.build = .error e → (c.step (.finish now site)).manager = c.manager
  /-- From there it deals with all that is pending, whatever comes of each
  of the reloads. -/
  goesOn : c.stage = .waiting → ∀ readings : List (UInt64 × Site),
    readings.length = (c.bus.pending c.receiver).length →
    let after := c.run (readings.flatMap alone)
    after.stage = .waiting ∧ after.bus.pending after.receiver = [] ∧
      after.manager = ((c.bus.pending c.receiver).zip readings).foldl
        (fun manager x => perform x.2.1 x.2.2 manager (reaction c.self x.1)) c.manager

theorem stage_step {a : Step} (h : (c.step a).stage = .stopped) :
    c.stage = .stopped ∨
      c.stage = .starting ∧ ∃ now site e, a = .start now site ∧ site.build = .error e := by
  cases a with
  | send m => exact .inl h
  | join => exact .inl h
  | leave =>
    rw [step] at h
    split at h <;> exact .inl h
  | manage manager => exact .inl h
  | start now site =>
    rw [step] at h
    split at h
    · rename_i hstarting
      cases hbuild : site.build with
      | error e => exact .inr ⟨hstarting, now, site, e, rfl, hbuild⟩
      | ok index =>
        rw [launch, Manager.load, hbuild] at h
        exact nomatch h
    · exact .inl h
  | take now =>
    rw [step] at h
    split at h
    · rename_i hwaiting
      rcases take_cases now c with ⟨-, hidle⟩ | ⟨d, receiver, -, ⟨-, htake⟩ | ⟨observed, -, htake⟩⟩
      · exact .inl (hidle ▸ h)
      · rw [htake] at h
        exact .inl h
      · rw [htake] at h
        exact nomatch h
    · exact .inl h
  | finish now site =>
    rw [step] at h
    split at h
    · exact nomatch h
    · exact .inl h

theorem count_attempted (h : Sound c) :
    c.events.count .attempted =
      c.handed.countP (Delivery.isForeign c.self) + c.handed.countP Delivery.isLag := by
  rw [← count_attempted_asked, ← h.work, work, List.count_filter rfl]

/-- A receiver with nothing ahead of it has been handed all that was
published. -/
theorem Answering.covers_of_pending (h : Answering log start c)
    (hnone : c.bus.pending c.receiver = []) : Bus.Covers c.published c.handed := by
  have hend := (h.reads.pending_eq_nil_iff h.recalls).1 hnone
  have hcovers := h.reads.covers
  rwa [hend, List.take_length, h.published] at hcovers

/-- Its place is then behind every message. -/
theorem Answering.attempted_of_pending (h : Answering log start c)
    (hnone : c.bus.pending c.receiver = []) {past rest : List Event}
    (hevents : c.events = past ++ .published m :: rest) (hother : m.origin ≠ c.self) :
    .attempted ∈ rest := by
  refine h.answered past m rest hevents hother ?_
  rw [(h.reads.pending_eq_nil_iff h.recalls).1 hnone]
  exact (List.getElem?_eq_some_iff.1 (h.getElem?_log hevents)).1

/-- Without a lag the work is that of the messages. -/
theorem work_of_handed_eq (h : Sound c) (hhanded : c.handed = c.published.map .message) :
    c.work = c.published.flatMap (fun m =>
        if m.origin = c.self then [] else [.observed m.timestamp, .attempted]) ∧
      c.events.count .attempted = c.published.countP (·.origin != c.self) := by
  constructor
  · rw [h.work, hhanded, List.flatMap_map]
    congr 1
    funext m
    by_cases hown : m.origin = c.self
    · simp [asked, reaction, hown]
    · simp [asked, reaction, hown]
  · have hnolag : (c.published.map Delivery.message).countP Delivery.isLag = 0 := by
      rw [List.countP_map]
      exact List.countP_eq_zero.2 fun m _ => Bool.false_ne_true
    rw [count_attempted h, hhanded, hnolag, List.countP_map]
    rfl

theorem Sound.attentive (h : Sound c) : Attentive c where
  answered := fun hnot hnone past m rest hevents hother => by
    obtain ⟨log, start, hanswering⟩ := h.answering hnot
    exact hanswering.attempted_of_pending hnone hevents hother
  covers := fun hnot hnone => by
    obtain ⟨log, start, hanswering⟩ := h.answering hnot
    exact hanswering.covers_of_pending hnone
  attempts := count_attempted h
  unlagged := fun hnot hnone hnolag => by
    obtain ⟨log, start, hanswering⟩ := h.answering hnot
    exact work_of_handed_eq h ((hanswering.covers_of_pending hnone).eq_of_no_lag hnolag)
  stops := fun _ => stage_step
  returns := fun hreloading now site => by
    rw [Course.step, if_pos hreloading]
    refine ⟨rfl, fun e herror => ?_⟩
    simp only [Manager.load, herror]
  goesOn := fun hwaiting readings hlength => by
    obtain ⟨log, start, hanswering⟩ := h.answering (by rw [hwaiting]; decide)
    obtain ⟨receiver, hrun, hnone, -⟩ := run_alone_all hanswering hwaiting readings hlength
    rw [hrun]
    exact ⟨hwaiting, hnone, rfl⟩

/-- **No invalidation is lost.** On a bus of any capacity that was used
before in any way, a listener that subscribes attends to it ever after,
whatever is published and when, whatever becomes of the bus and the manager
in between, and whatever comes of its reloads. -/
theorem attentive_run (capacity : Nat) (uses : List Bus.Use) (self : NodeId) (manager : Manager)
    (steps : List Step) :
    Attentive
      ((subscribed self (uses.foldl Bus.use (Bus.ofCapacity capacity)) manager).run steps) := by
  obtain ⟨log, hlog⟩ := Bus.exists_recalls_uses capacity uses
  exact (sound_run (sound_subscribed hlog) steps).attentive

end Course

end Listener

end AttributeCache
