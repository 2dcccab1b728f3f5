import AttributeCache.Proofs.Cache.Overlap
import AttributeCache.Proofs.Cluster.Invalidation
import AttributeCache.Proofs.Http.Since
/-!
# A client that keeps up

A client asks for the snapshot over and over, and names the stamp of the one
it received last. In between loads overlap, fail and publish, and stamps are
observed. What the client has been handed is at every moment a choice of
the generations published so far, in their order, and the last one of the
choice is what it holds. So it is enough to say what one more request does
(`standing_run`): if the client lags, it is handed what is current, and
else it holds it.

What this rests on is that stamps increase, which they do until a counter
comes to its greatest value.
-/

namespace AttributeCache

open Manager (Course Publication)

namespace Snapshot

/-- The stamp of a snapshot. No other field is looked at. -/
def stampField? : Json.Tree → Option Stamp
  | .object fields => do
    let t ← (fields.find? (·.1 == some "timestamp")).map (·.2)
    (Stamp.ofTree Json.maxDepth t).toOption
  | _ => none

/-- The stamp of the snapshot in a body. -/
def stampIn? (body : String) : Option Stamp :=
  stampField? (Json.Tree.read (Json.Input.ofText body)).1

theorem stampField?_cons (stamp : Stamp) (fields : List (Option String × Json.Tree)) :
    stampField? (.object ((some "timestamp", stamp.json.tree) :: fields)) = some stamp := by
  have hfind : ((some "timestamp", stamp.json.tree) :: fields).find? (·.1 == some "timestamp") =
      some (some "timestamp", stamp.json.tree) :=
    List.find?_cons_of_pos (beq_self_eq_true _)
  have hdepth : Json.maxDepth = 126 + 1 := rfl
  rw [stampField?, hfind, Option.map_some, Option.bind_eq_bind, Option.bind_some, hdepth,
    Stamp.ofTree_tree]
  rfl

/-- **The stamp comes back from the body** of a snapshot. -/
theorem stampIn?_text (s : Snapshot) : stampIn? s.json.text = some s.timestamp := by
  obtain ⟨fields, hread⟩ := Json.read_first s.timestamp.readsBack_json
  rw [stampIn?, json, hread, stampField?_cons]

end Snapshot

namespace Http

/-- A manager's course, and a client that asks for its snapshot. -/
structure Polling where
  course : Course
  /-- The bodies the client was handed, in order. -/
  received : List String := []

/-- What may happen: something at the server, or the client asks, and a node
answers. Of that node only the manager is the one of the course. -/
inductive Polling.Step where
  | server (a : Course.Step)
  | poll (now : UInt64) (rest : Node)

namespace Polling

variable {s : Polling} {site : Site} {steps : List Step} {p : Publication}
variable {generations : List Publication}

/-- The snapshot the client holds: what it was handed last. -/
def held (s : Polling) : Option String := s.received.getLast?

/-- It names the stamp of what it holds. -/
def request (s : Polling) : Request := .newerThan (s.held.bind Snapshot.stampIn?)

/-- What it is answered. -/
def answer (s : Polling) (now : UInt64) (rest : Node) : Response :=
  (handle now { rest with manager := s.course.manager } s.request).2

/-- One more step. The client keeps what it is handed. -/
def step (s : Polling) : Step → Polling
  | .server a => { s with course := s.course.step a }
  | .poll now rest =>
    match s.answer now rest with
    | ⟨200, some body⟩ => { s with received := s.received ++ [body] }
    | _ => s

/-- A run, from a site where nothing is loaded and a client that has
nothing. -/
def run (site : Site) (steps : List Step) : Polling :=
  steps.foldl step { course := { site } }

theorem answer_eq (s : Polling) (now : UInt64) (rest : Node) :
    s.answer now rest = .ofNewer (s.course.manager.newerThan?
      ((s.held.bind Snapshot.stampIn?).getD Stamp.epoch)) := by
  rw [answer, request, handle_newerThan]

/-- The body a publication is handed out in. -/
def body (p : Publication) : String := p.snapshot.json.text

theorem stampIn?_body (p : Publication) : Snapshot.stampIn? (body p) = some p.stamp := by
  rw [body, Snapshot.stampIn?_text, p.timestamp_snapshot]

/-- The client was handed these generations. -/
structure Follows (s : Polling) (generations : List Publication) : Prop where
  sublist : generations.Sublist s.course.publications
  received : s.received = generations.map body

/-- It names the stamp of the last of them. -/
theorem Follows.since (h : s.Follows generations) :
    s.held.bind Snapshot.stampIn? = generations.getLast?.map (·.stamp) := by
  rw [held, h.received, List.getLast?_map]
  cases generations.getLast? with
  | none => rfl
  | some p =>
    rw [Option.map_some, Option.bind_some, stampIn?_body]
    rfl

/-! ## One more request -/

/-- How a client that was handed some generations stands to what is current,
and what is new to it. -/
inductive Standing (course : Course) (generations : List Publication) : Option Snapshot → Prop
  /-- Nothing is published. -/
  | nothing : course.publications = [] → generations = [] → Standing course generations none
  /-- The client holds what is current. -/
  | current {p : Publication} : course.manager.current = some p.snapshot →
      generations.getLast? = some p → Standing course generations none
  /-- The client lags. -/
  | behind {p : Publication} : course.manager.current = some p.snapshot →
      (generations ++ [p]).Sublist course.publications →
      Standing course generations (some p.snapshot)

/-- **What is later than what the client holds is what is new to it.** -/
theorem standing_run {steps : List Course.Step} (hlast : (Course.run site steps).CountersLast)
    (h : generations.Sublist (Course.run site steps).publications) :
    Standing (Course.run site steps) generations ((Course.run site steps).manager.newerThan?
      ((generations.getLast?.map (·.stamp)).getD Stamp.epoch)) := by
  obtain ⟨hpairs, hepoch⟩ := Course.pairwise_stamps hlast
  have hlatest := Course.current_run site steps
  rcases List.eq_nil_or_concat' (Course.run site steps).publications with hnil | ⟨before, p, hp⟩
  · rw [hnil] at h hlatest
    rw [Manager.newerThan?, hlatest]
    exact .nothing hnil (List.sublist_nil.1 h)
  have hcurrent : (Course.run site steps).manager.current = some p.snapshot := by
    rw [hlatest, hp, List.getLast?_concat]
    rfl
  rw [Manager.newerThan?_of_current hcurrent, p.timestamp_snapshot]
  rw [hp] at h hpairs hepoch
  obtain ⟨front, back, rfl, hfront, hback⟩ := List.sublist_append_iff.1 h
  rcases List.sublist_singleton.1 hback with rfl | rfl
  · -- what the client holds was published before the last generation
    rw [List.append_nil]
    have hlater : (front.getLast?.map (·.stamp)).getD Stamp.epoch < p.stamp := by
      cases hheld : front.getLast? with
      | none => exact hepoch p (List.mem_append_right _ List.mem_cons_self)
      | some g =>
        have hg : g ∈ before := hfront.subset (List.mem_of_getLast? hheld)
        exact (List.pairwise_append.1 hpairs).2.2 g hg p List.mem_cons_self
    rw [if_pos hlater]
    refine .behind hcurrent ?_
    rw [hp]
    exact hfront.append_right [p]
  · rw [List.getLast?_concat, Option.map_some, Option.getD_some, if_neg (lt_irrefl p.stamp)]
    exact .current hcurrent List.getLast?_concat

/-! ## Runs -/

/-- What happens at the server. -/
def Step.server? : Step → Option Course.Step
  | .server a => some a
  | .poll _ _ => none

theorem run_concat (a : Step) : run site (steps ++ [a]) = (run site steps).step a := by
  rw [run, List.foldl_append, List.foldl_cons, List.foldl_nil, run]

/-- Asking changes nothing at the server. -/
theorem course_poll (s : Polling) (now : UInt64) (rest : Node) :
    (s.step (.poll now rest)).course = s.course := by
  rw [step]
  split <;> rfl

theorem course_run (site : Site) (steps : List Step) :
    (run site steps).course = Course.run site (steps.filterMap Step.server?) := by
  induction steps using List.reverseRecOn with
  | nil => rfl
  | append_singleton steps a ih =>
    rw [run_concat, List.filterMap_append]
    cases a with
    | server a => exact (congrArg (·.step a) ih).trans Course.run_concat.symm
    | poll now rest => rw [course_poll, ih, List.filterMap_cons_none rfl, List.filterMap_nil,
        List.append_nil]

/-- **What a client that follows is answered** is what is new to it. -/
theorem Follows.answer (h : (run site steps).Follows generations)
    (hlast : (run site steps).course.CountersLast) :
    ∃ new, Standing (run site steps).course generations new ∧
      ∀ now rest, (run site steps).answer now rest = .ofNewer new := by
  have hsublist := h.sublist
  have hanswer := (run site steps).answer_eq
  rw [h.since] at hanswer
  rw [course_run] at hlast hsublist hanswer ⊢
  exact ⟨_, standing_run hlast hsublist, hanswer⟩

/-- **A client follows**, whatever happens. -/
theorem exists_follows (hlast : (run site steps).course.CountersLast) :
    ∃ generations, (run site steps).Follows generations := by
  induction steps using List.reverseRecOn with
  | nil => exact ⟨[], List.nil_sublist _, rfl⟩
  | append_singleton steps a ih =>
    rw [run_concat] at hlast ⊢
    have hbefore : (run site steps).course.publications.Sublist
        ((run site steps).step a).course.publications := by
      cases a with
      | server a => exact Course.publications_step _ a
      | poll now rest => rw [course_poll]
    have hlast' : (run site steps).course.CountersLast := fun p hp => hlast p (hbefore.subset hp)
    obtain ⟨generations, h⟩ := ih hlast'
    cases a with
    | server a => exact ⟨generations, h.sublist.trans hbefore, h.received⟩
    | poll now rest =>
      obtain ⟨new, hstanding, hanswer⟩ := h.answer hlast'
      rw [step, hanswer]
      cases hstanding with
      | nothing => exact ⟨generations, h⟩
      | current => exact ⟨generations, h⟩
      | @behind p _ hbehind =>
        refine ⟨generations ++ [p], hbehind, ?_⟩
        rw [List.map_append, ← h.received]
        rfl

/-- **What a client can rely on.** -/
structure KeepsUp (s : Polling) : Prop where
  /-- It was handed generations in the order of their publication, each under
  a later stamp than the one before. -/
  received : ∃ generations : List Publication, generations.Sublist s.course.publications ∧
    s.received = generations.map body ∧
    s.received.map Snapshot.stampIn? = generations.map (fun p => some p.stamp) ∧
    generations.Pairwise (·.stamp < ·.stamp)
  /-- No body came twice. -/
  once : s.received.Nodup
  /-- If nothing is new to it, nothing was published yet, or it holds what is
  current. -/
  unchanged : ∀ now rest, (s.answer now rest).status = 304 →
    s.course.publications = [] ∧ s.held = none ∨
      ∃ snapshot, s.course.manager.current = some snapshot ∧ s.held = some snapshot.json.text
  /-- If it is handed something, that is what is current. -/
  handed : ∀ now rest, (s.answer now rest).status = 200 →
    ∃ snapshot, s.course.manager.current = some snapshot ∧
      s.answer now rest = .ofValue snapshot.json
  /-- Nothing else is answered; its request is never a bad one. -/
  accepted : ∀ now rest, (s.answer now rest).status = 200 ∨ (s.answer now rest).status = 304

/-- **A client that names the stamp of what it holds keeps up**, as long as
no counter comes to its greatest value. -/
theorem keepsUp_run (site : Site) (steps : List Step)
    (hlast : (run site steps).course.CountersLast) : KeepsUp (run site steps) := by
  obtain ⟨generations, h⟩ := exists_follows hlast
  obtain ⟨new, hstanding, hanswer⟩ := h.answer hlast
  have hstamps : (run site steps).received.map Snapshot.stampIn? =
      generations.map (fun p => some p.stamp) := by
    rw [h.received, List.map_map]
    refine List.map_congr_left fun p _ => ?_
    rw [Function.comp_apply, stampIn?_body]
  have hincreasing : generations.Pairwise (·.stamp < ·.stamp) := by
    have hsublist := h.sublist
    rw [course_run] at hlast hsublist
    exact (Course.pairwise_stamps hlast).1.sublist hsublist
  have honce : (run site steps).received.Nodup := by
    refine List.Nodup.of_map Snapshot.stampIn? ?_
    rw [hstamps, List.Nodup, List.pairwise_map]
    exact hincreasing.imp fun hlt heq => ne_of_lt hlt (Option.some.inj heq)
  refine ⟨⟨generations, h.sublist, h.received, hstamps, hincreasing⟩, honce, ?_, ?_, ?_⟩
  all_goals
    intro now rest
    rw [hanswer]
  · intro hstatus
    cases hstanding with
    | nothing hnone hnil =>
      refine .inl ⟨hnone, ?_⟩
      rw [held, h.received, hnil]
      rfl
    | current hcurrent hheld =>
      refine .inr ⟨_, hcurrent, ?_⟩
      rw [held, h.received, List.getLast?_map, hheld]
      rfl
    | behind => exact absurd hstatus (by simp [Response.ofNewer, Response.ofValue])
  · intro hstatus
    cases hstanding with
    | nothing => exact absurd hstatus (by simp [Response.ofNewer, Response.ofStatus])
    | current => exact absurd hstatus (by simp [Response.ofNewer, Response.ofStatus])
    | behind hcurrent => exact ⟨_, hcurrent, rfl⟩
  · cases new with
    | none => exact .inr rfl
    | some snapshot => exact .inl rfl

/-- The steps of a load that nothing comes in between of. -/
def loading (k : Nat) (now : UInt64) : List Step :=
  .server .begin :: List.replicate 5 (.server (.advance k now))

/-- A client asks before anything is loaded, after a first load, and twice
after a second one, in front of which a later stamp was observed. -/
def asking (rest : Node) : List Step :=
  .poll 1 rest :: loading 0 4 ++ [.poll 5 rest, .server (.observe 5 ⟨9, 3⟩)] ++ loading 1 6 ++
    [.poll 7 rest, .poll 7 rest]

/-- It is handed the two generations, and the last time nothing. -/
theorem keepsUp_asking :
    let rest : Node := { id := ⟨0⟩, attached := false, site := Manager.Trace.emptySite }
    let s := run Manager.Trace.emptySite (asking rest)
    s.course.CountersLast ∧ KeepsUp s ∧
      s.received.map Snapshot.stampIn? = [some ⟨4, 0⟩, some ⟨9, 5⟩] := by
  intro rest s
  have hlast : s.course.CountersLast := by
    rw [course_run]
    decide
  exact ⟨hlast, keepsUp_run Manager.Trace.emptySite (asking rest) hlast, by decide +kernel⟩

end Polling

end Http

end AttributeCache
