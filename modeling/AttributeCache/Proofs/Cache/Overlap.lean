import AttributeCache.Proofs.Cache.Loading
import AttributeCache.Proofs.Cache.Succession
import Mathlib.Data.List.Induction
import Mathlib.Data.List.Nodup
/-!
# Loads that overlap

A load takes one step after the other and keeps all it has to itself until
it publishes the whole at one stroke. Between any two of its steps the site
may be edited, other loads may begin, fail and publish, and stamps may be
observed. A `Course` is a manager among such loads, and a run any order of
such steps. Where nothing comes in between, the steps of a load make up the
load of the manager (`load_alone`).

What is current is at every moment the whole of what was published last
(`current_run`). Nothing but the one stroke touches it, so all that has to
be told of the steps before is whose they are and what the site was like
then (`stands_run`).
-/

namespace AttributeCache

namespace Manager

/-- How a load ends, by its outcome. -/
def Load.ended : Except CacheError Stamp → Load
  | .ok stamp => .published stamp
  | .error e => .failed e

/-- Why a load failed, if it did. -/
def Load.failure? : Load → Option CacheError
  | .failed e => some e
  | _ => none

/-- What was published: by which load, under which stamp, and what. -/
structure Publication where
  load : Nat
  stamp : Stamp
  index : AttributeIndex

/-- The snapshot that was published. -/
def Publication.snapshot (p : Publication) : Snapshot :=
  .ofIndex p.stamp p.index

theorem Publication.timestamp_snapshot (p : Publication) : p.snapshot.timestamp = p.stamp := rfl

/-- A manager among the loads it has begun. -/
structure Course where
  /-- The site as it is now. -/
  site : Site
  manager : Manager := {}
  /-- The loads in the order they were begun in. -/
  loads : List Load := []
  /-- What was published, in order. -/
  publications : List Publication := []

/-- What may happen. -/
inductive Course.Step where
  /-- The documents or the definitions are edited. -/
  | edit (site : Site)
  | begin
  /-- A load goes one step further. -/
  | advance (load : Nat) (now : UInt64)
  | observe (now : UInt64) (remote : Stamp)

namespace Course

variable {s : Course} {site : Site} {steps more : List Step} {a : Step} {now : UInt64} {k : Nat}
variable {load : Load} {index : AttributeIndex} {stamp : Stamp} {p : Publication}

/-- The course with one more step. -/
def step (s : Course) : Step → Course
  | .edit site => { s with site }
  | .begin => { s with loads := s.loads ++ [.begun s.site.configuration.sources] }
  | .advance k now =>
    match s.loads[k]? with
    | none => s
    | some (.built index) =>
      let manager := s.manager.publish now index
      { s with
        manager
        loads := s.loads.set k (.published manager.clock)
        publications := s.publications ++ [⟨k, manager.clock, index⟩] }
    | some load => { s with loads := s.loads.set k (load.next s.site) }
  | .observe now remote => { s with manager := s.manager.observe now remote }

/-- The course of a run that starts at a site. -/
def run (site : Site) (steps : List Step) : Course :=
  steps.foldl step { site }

/-! ## Single steps -/

/-- **What a step does.** A load that is built publishes; any other goes on
by itself, and nobody notices. -/
inductive Takes (s : Course) : Step → Course → Prop
  | edit {site : Site} : Takes s (.edit site) { s with site }
  | begin : Takes s .begin { s with loads := s.loads ++ [.begun s.site.configuration.sources] }
  | idle {k : Nat} {now : UInt64} : s.loads[k]? = none → Takes s (.advance k now) s
  | work {k : Nat} {now : UInt64} {load : Load} : s.loads[k]? = some load →
      (∀ index, load ≠ .built index) →
      Takes s (.advance k now) { s with loads := s.loads.set k (load.next s.site) }
  | publish {k : Nat} {now : UInt64} {index : AttributeIndex} {stamp : Stamp} :
      s.loads[k]? = some (.built index) → stamp = s.manager.clock.tick now →
      Takes s (.advance k now)
        { s with
          manager := ⟨stamp, some (.ofIndex stamp index)⟩
          loads := s.loads.set k (.published stamp)
          publications := s.publications ++ [⟨k, stamp, index⟩] }
  | observe {now : UInt64} {remote : Stamp} :
      Takes s (.observe now remote) { s with manager := s.manager.observe now remote }

theorem takes_step (s : Course) (a : Step) : s.Takes a (s.step a) := by
  cases a with
  | edit site => exact .edit
  | begin => exact .begin
  | observe now remote => exact .observe
  | advance k now =>
    rw [step]
    split
    · exact .idle ‹_›
    · exact .publish ‹_› rfl
    · rename_i load hbuilt hload
      exact .work hload hbuilt

theorem run_concat : run site (steps ++ [a]) = (run site steps).step a := by
  rw [run, List.foldl_append]
  rfl

/-- A step and the last step of a run, each by what it does. -/
theorem exists_step (s : Course) (a : Step) : ∃ after, s.step a = after ∧ s.Takes a after :=
  ⟨_, rfl, takes_step s a⟩

theorem exists_takes (site : Site) (steps : List Step) (a : Step) :
    ∃ after, run site (steps ++ [a]) = after ∧ (run site steps).Takes a after := by
  rw [run_concat]
  exact exists_step _ a

theorem getElem?_set_loads {j : Nat} (h : s.loads[k]? = some load) (next : Load) :
    (s.loads.set k next)[j]? = if k = j then some next else s.loads[j]? := by
  obtain ⟨hlt, -⟩ := List.getElem?_eq_some_iff.1 h
  rw [List.getElem?_set]
  simp only [hlt, if_true]

/-- A load that is there after another is begun was there before, or is
that other. -/
theorem getElem?_begin {other : Load} (h : (s.loads ++ [other])[k]? = some load) :
    s.loads[k]? = some load ∨ k = s.loads.length ∧ load = other := by
  rcases Nat.lt_or_ge k s.loads.length with hlt | hge
  · exact .inl (List.getElem?_append_left hlt ▸ h)
  · rw [List.getElem?_append_right hge, List.getElem?_singleton] at h
    split at h
    · exact .inr ⟨by omega, (Option.some.inj h).symm⟩
    · exact nomatch h

/-- What was published stays so. -/
theorem Takes.published {after : Course} (htakes : s.Takes a after)
    (h : s.loads[k]? = some (.published stamp)) :
    after.loads[k]? = some (.published stamp) := by
  rcases htakes with _ | _ | _ | ⟨hload, -⟩ | ⟨hload, -⟩ | _
  · exact h
  · exact List.getElem?_append_left (List.getElem?_eq_some_iff.1 h).1 ▸ h
  · exact h
  · rw [getElem?_set_loads hload]
    split
    · rename_i hk
      subst hk
      rw [h, Option.some.injEq] at hload
      rw [← hload]
      rfl
    · exact h
  · rw [getElem?_set_loads hload]
    split
    · rename_i hk
      subst hk
      exact absurd (hload.symm.trans h) (by simp)
    · exact h
  · exact h

theorem published_run (h : (run site steps).loads[k]? = some (.published stamp)) :
    (run site (steps ++ more)).loads[k]? = some (.published stamp) := by
  induction more using List.reverseRecOn with
  | nil => rwa [List.append_nil]
  | append_singleton more a ih =>
    obtain ⟨after, hafter, htakes⟩ := exists_takes site (steps ++ more) a
    rw [← List.append_assoc, hafter]
    exact htakes.published ih

/-! ## What is current -/

/-- **What is current is what was published last**, and all of it. -/
theorem current_run (site : Site) (steps : List Step) : (run site steps).manager.current =
    (run site steps).publications.getLast?.map Publication.snapshot := by
  induction steps using List.reverseRecOn with
  | nil => rfl
  | append_singleton steps a ih =>
    obtain ⟨after, hafter, htakes⟩ := exists_takes site steps a
    rw [hafter]
    rcases htakes with _ | _ | _ | _ | _ | _
    all_goals try exact ih
    rw [List.getLast?_concat]
    rfl

/-- What is published is published by a load that has just built it. -/
theorem mem_publications_concat (hp : p ∈ (run site (steps ++ [a])).publications) :
    p ∈ (run site steps).publications ∨
      (run site steps).loads[p.load]? = some (.built p.index) ∧
        (run site (steps ++ [a])).loads[p.load]? = some (.published p.stamp) := by
  obtain ⟨after, hafter, htakes⟩ := exists_takes site steps a
  rw [hafter] at hp ⊢
  rcases htakes with _ | _ | _ | _ | ⟨hload, -⟩ | _
  all_goals try exact .inl hp
  rw [List.mem_append, List.mem_singleton] at hp
  rcases hp with hold | rfl
  · exact .inl hold
  · exact .inr ⟨hload, by rw [getElem?_set_loads hload, if_pos rfl]⟩

/-- Whose number a publication has, that load has published it. -/
theorem published_of_mem (hp : p ∈ (run site steps).publications) :
    (run site steps).loads[p.load]? = some (.published p.stamp) := by
  induction steps using List.reverseRecOn with
  | nil => exact absurd hp List.not_mem_nil
  | append_singleton steps a ih =>
    rcases mem_publications_concat hp with hold | ⟨-, hpublished⟩
    · exact published_run (ih hold)
    · exact hpublished

/-- And the other way round. -/
theorem exists_publication (h : (run site steps).loads[k]? = some (.published stamp)) :
    ∃ p ∈ (run site steps).publications, p.load = k ∧ p.stamp = stamp := by
  induction steps using List.reverseRecOn with
  | nil => exact absurd h (by simp [run])
  | append_singleton steps a ih =>
    obtain ⟨after, hafter, htakes⟩ := exists_takes site steps a
    rw [hafter] at h ⊢
    rcases htakes with
      _ | _ | _ | @⟨j, now, load, hload, -⟩ | @⟨j, now, index, stamp', hload, -⟩ | _
    · exact ih h
    · rcases getElem?_begin h with h | ⟨-, h⟩
      · exact ih h
      · exact nomatch h
    · exact ih h
    · rw [getElem?_set_loads hload] at h
      split at h
      · rename_i hk
        subst hk
        exact ih (hload.trans (congrArg some (Load.next_eq_published (Option.some.inj h))))
      · exact ih h
    · rw [getElem?_set_loads hload] at h
      split at h
      · rename_i hk
        cases h
        exact ⟨_, List.mem_append_right _ List.mem_cons_self, hk, rfl⟩
      · obtain ⟨p, hp, hk⟩ := ih h
        exact ⟨p, List.mem_append_left _ hp, hk⟩
    · exact ih h

/-- What was published is published. -/
theorem publications_step (s : Course) (a : Step) :
    s.publications.Sublist (s.step a).publications := by
  obtain ⟨after, hafter, htakes⟩ := exists_step s a
  rw [hafter]
  rcases htakes with _ | _ | _ | _ | _ | _
  all_goals try exact List.Sublist.refl _
  exact List.sublist_append_left _ _

/-- No load publishes twice. -/
theorem nodup_publications (site : Site) (steps : List Step) :
    ((run site steps).publications.map (·.load)).Nodup := by
  induction steps using List.reverseRecOn with
  | nil => exact List.nodup_nil
  | append_singleton steps a ih =>
    obtain ⟨after, hafter, htakes⟩ := exists_takes site steps a
    rw [hafter]
    rcases htakes with _ | _ | _ | _ | ⟨hload, -⟩ | _
    all_goals try exact ih
    rw [List.map_append, List.map_singleton, ← List.concat_eq_append]
    refine ih.concat fun hmem => ?_
    -- the load that publishes has only just been built
    obtain ⟨p, hp, hk⟩ := List.mem_map.1 hmem
    have hpublished := published_of_mem hp
    rw [hk, hload] at hpublished
    exact absurd hpublished (by simp)

/-! ## The stamps -/

/-- The clock does not lie before a stamp that was published. -/
theorem stamp_le_clock (hp : p ∈ (run site steps).publications) :
    p.stamp ≤ (run site steps).manager.clock := by
  induction steps using List.reverseRecOn with
  | nil => exact absurd hp List.not_mem_nil
  | append_singleton steps a ih =>
    obtain ⟨after, hafter, htakes⟩ := exists_takes site steps a
    rw [hafter] at hp ⊢
    rcases htakes with _ | _ | _ | _ | ⟨-, rfl⟩ | _
    · exact ih hp
    · exact ih hp
    · exact ih hp
    · exact ih hp
    · rw [List.mem_append, List.mem_singleton] at hp
      rcases hp with hp | rfl
      · exact le_trans (ih hp) Stamp.le_tick
      · exact le_refl _
    · exact le_trans (ih hp) Stamp.le_receive_left

/-- No published stamp has come to the greatest counter. -/
def CountersLast (s : Course) : Prop :=
  ∀ p ∈ s.publications, p.stamp.logical ≠ Stamp.lastLogical

instance : Decidable s.CountersLast :=
  inferInstanceAs (Decidable (∀ p ∈ s.publications, p.stamp.logical ≠ Stamp.lastLogical))

/-- **Then what is published later is stamped later**, and nothing is
stamped with the epoch. -/
theorem pairwise_stamps (h : (run site steps).CountersLast) :
    (run site steps).publications.Pairwise (·.stamp < ·.stamp) ∧
      ∀ p ∈ (run site steps).publications, Stamp.epoch < p.stamp := by
  induction steps using List.reverseRecOn with
  | nil => exact ⟨List.Pairwise.nil, fun p hp => absurd hp List.not_mem_nil⟩
  | append_singleton steps a ih =>
    obtain ⟨after, hafter, htakes⟩ := exists_takes site steps a
    rw [hafter] at h ⊢
    rcases htakes with _ | _ | _ | _ | @⟨k, now, index, stamp, -, rfl⟩ | _
    all_goals try exact ih h
    obtain ⟨hpairs, hepoch⟩ := ih fun p hp => h p (List.mem_append_left _ hp)
    have hlt := Stamp.lt_tick_of_logical (h _ (List.mem_append_right _ List.mem_cons_self))
    refine ⟨List.pairwise_append.2 ⟨hpairs, List.pairwise_singleton _ _, fun p hp q hq => ?_⟩,
      fun p hp => ?_⟩
    · rw [List.mem_singleton.1 hq]
      exact lt_of_le_of_lt (stamp_le_clock hp) hlt
    · rcases List.mem_append.1 hp with hp | hp
      · exact hepoch p hp
      · rw [List.mem_singleton.1 hp]
        exact lt_of_le_of_lt (Stamp.epoch_le _) hlt

/-! ## What is published -/

/-- The site at the time of a step. -/
def siteAt (site : Site) (steps : List Step) (i : Nat) : Site :=
  (run site (steps.take i)).site

theorem siteAt_append {i : Nat} (h : i ≤ steps.length) :
    siteAt site (steps ++ more) i = siteAt site steps i := by
  rw [siteAt, siteAt, List.take_append_of_le_length h]

theorem siteAt_last : siteAt site (steps ++ [a]) steps.length = (run site steps).site := by
  rw [siteAt, List.take_left]

/-- A load is begun by a step. -/
def Begins (site : Site) (steps : List Step) (k b : Nat) : Prop :=
  steps[b]? = some .begin ∧ (run site (steps.take b)).loads.length = k

/-- Whether a step is one of a load. -/
def Step.advances (k : Nat) : Step → Bool
  | .advance j _ => j == k
  | _ => false

/-- The site at each step of a load that was begun by a step, in order. -/
def ownSites (site : Site) (steps : List Step) (k b : Nat) : List Site :=
  ((List.range steps.length).filter fun i =>
    decide (b < i) && steps[i]?.any (Step.advances k)).map (siteAt site steps)

variable {b : Nat}

theorem Begins.lt (h : Begins site steps k b) : b < steps.length :=
  (List.getElem?_eq_some_iff.1 h.1).1

theorem Begins.append (h : Begins site steps k b) : Begins site (steps ++ more) k b :=
  ⟨List.getElem?_append_left h.lt ▸ h.1,
    (List.take_append_of_le_length (Nat.le_of_lt h.lt)).symm ▸ h.2⟩

theorem ownSites_of_le (h : steps.length ≤ b + 1) : ownSites site steps k b = [] := by
  rw [ownSites, List.map_eq_nil_iff, List.filter_eq_nil_iff]
  intro i hi
  have hnot : ¬ b < i := by
    rw [List.mem_range] at hi
    omega
  simp [hnot]

/-- A step of the load adds the site as it is then, and no other step adds
anything. -/
theorem ownSites_concat (hb : b < steps.length) : ownSites site (steps ++ [a]) k b =
    ownSites site steps k b ++ if a.advances k then [(run site steps).site] else [] := by
  have hbefore : ∀ i ∈ List.range steps.length, (steps ++ [a])[i]? = steps[i]? := fun i hi =>
    List.getElem?_append_left (List.mem_range.1 hi)
  have hsites : ∀ l : List Nat, l ⊆ List.range steps.length →
      l.map (siteAt site (steps ++ [a])) = l.map (siteAt site steps) := fun l hl =>
    List.map_congr_left fun i hi => siteAt_append (Nat.le_of_lt (List.mem_range.1 (hl hi)))
  rw [ownSites, ownSites, List.length_append, List.length_singleton, List.range_succ,
    List.filter_append, List.map_append]
  congr 1
  · rw [List.filter_congr fun i hi => by rw [hbefore i hi]]
    exact hsites _ List.filter_sublist.subset
  · rw [List.filter_singleton, List.getElem?_concat_length]
    cases hown : a.advances k
    · simp [hown]
    · simp [hown, hb, siteAt_last]

/-- **An index is what one load built**, of the files it was begun with and
of readings at its own steps. -/
def BuiltBy (site : Site) (steps : List Step) (k : Nat) (index : AttributeIndex) : Prop :=
  ∃ b, Begins site steps k b ∧ ∃ r : Readings,
    r.sources = (siteAt site steps b).configuration.sources ∧
      r.From (ownSites site steps k b) ∧ r.Builds index

theorem BuiltBy.concat (h : BuiltBy site steps k index) :
    BuiltBy site (steps ++ [a]) k index := by
  obtain ⟨b, hb, r, hsources, hfrom, hbuilds⟩ := h
  refine ⟨b, hb.append, r, ?_, fun path => (hfrom path).trans ?_, hbuilds⟩
  · rw [siteAt_append (Nat.le_of_lt hb.lt), hsources]
  · rw [ownSites_concat hb.lt]
    exact List.sublist_append_left _ _

/-- **If the site was the same from its beginning on**, that is the build of
the site. -/
theorem BuiltBy.build (h : BuiltBy site steps k index) {same : Site}
    (hsame : ∀ b, Begins site steps k b →
      siteAt site steps b = same ∧ ∀ s ∈ ownSites site steps k b, s = same) :
    same.build = .ok index := by
  obtain ⟨b, hb, r, hsources, hfrom, hbuilds⟩ := h
  obtain ⟨hbegun, hown⟩ := hsame b hb
  refine hbuilds.build (hbegun ▸ hsources) (fun path => hown _ ?_) fun s hs => hown s ?_
  · exact (hfrom path).subset List.mem_cons_self
  · exact (hfrom ⟨[]⟩).subset (List.mem_cons_of_mem _ hs)

/-- A load stands where it has come to by its own steps. -/
def Stands (site : Site) (steps : List Step) (k : Nat) (load : Load) : Prop :=
  ∃ b, Begins site steps k b ∧
    load.Stands (siteAt site steps b).configuration.sources (ownSites site steps k b)

/-- The steps of others are nothing to it. -/
theorem Stands.concat (h : Stands site steps k load) (hother : a.advances k = false) :
    Stands site (steps ++ [a]) k load := by
  obtain ⟨b, hb, hstands⟩ := h
  refine ⟨b, hb.append, ?_⟩
  rw [siteAt_append (Nat.le_of_lt hb.lt), ownSites_concat hb.lt, hother,
    if_neg Bool.false_ne_true, List.append_nil]
  exact hstands

/-- It goes on by reading the site at its own step. -/
theorem Stands.advance (h : Stands site steps k load) (now : UInt64) :
    Stands site (steps ++ [.advance k now]) k (load.next (run site steps).site) := by
  obtain ⟨b, hb, hstands⟩ := h
  refine ⟨b, hb.append, ?_⟩
  rw [siteAt_append (Nat.le_of_lt hb.lt), ownSites_concat hb.lt,
    if_pos (show Step.advances k (.advance k now) = true from beq_self_eq_true k)]
  exact hstands.next _

/-- A load that has only just begun has read nothing. -/
theorem stands_begun : Stands site (steps ++ [.begin]) (run site steps).loads.length
    (.begun (run site steps).site.configuration.sources) := by
  refine ⟨steps.length, ⟨List.getElem?_concat_length, by rw [List.take_left]⟩, ?_⟩
  rw [siteAt_last, ownSites_of_le (by rw [List.length_append, List.length_singleton])]
  exact Load.stands_begun _

/-- **Every load of a run stands where it has come to by itself.** -/
theorem stands_run (hload : (run site steps).loads[k]? = some load) :
    Stands site steps k load := by
  induction steps using List.reverseRecOn generalizing k load with
  | nil => exact absurd hload (by simp [run])
  | append_singleton steps a ih =>
    obtain ⟨after, hafter, htakes⟩ := exists_takes site steps a
    rw [hafter] at hload
    rcases htakes with
      _ | _ | hnone | @⟨j, now, before, hbefore, -⟩ | @⟨j, now, index, stamp, hbefore, -⟩ | _
    · exact (ih hload).concat rfl
    · rcases getElem?_begin hload with hload | ⟨rfl, rfl⟩
      · exact (ih hload).concat rfl
      · exact stands_begun
    · refine (ih hload).concat (beq_eq_false_iff_ne.2 ?_)
      rintro rfl
      exact nomatch hnone.symm.trans hload
    · rw [getElem?_set_loads hbefore] at hload
      split at hload
      · rename_i hk
        subst hk
        rw [← Option.some.inj hload]
        exact (ih hbefore).advance now
      · rename_i hk
        exact (ih hload).concat (beq_eq_false_iff_ne.2 hk)
    · rw [getElem?_set_loads hbefore] at hload
      split at hload
      · rename_i hk
        subst hk
        obtain ⟨b, hb, -⟩ := ih hbefore
        rw [← Option.some.inj hload]
        exact ⟨b, hb.append, trivial⟩
      · rename_i hk
        exact (ih hload).concat (beq_eq_false_iff_ne.2 hk)
    · exact (ih hload).concat rfl

/-- What a load has built, it has built of its own readings. -/
theorem builtBy_of_built (h : (run site steps).loads[k]? = some (.built index)) :
    BuiltBy site steps k index := by
  obtain ⟨b, hb, r, hsources, hfrom, hbuilds⟩ := stands_run h
  exact ⟨b, hb, r, hsources, hfrom, hbuilds⟩

theorem builtBy_of_mem (hp : p ∈ (run site steps).publications) :
    BuiltBy site steps p.load p.index := by
  induction steps using List.reverseRecOn with
  | nil => exact absurd hp List.not_mem_nil
  | append_singleton steps a ih =>
    rcases mem_publications_concat hp with hold | ⟨hbuilt, -⟩
    · exact (ih hold).concat
    · exact (builtBy_of_built hbuilt).concat

/-! ## What changes nothing -/

/-- Only a load that publishes changes the manager by a step of its own. -/
theorem manager_advance (s : Course) (k : Nat) (now : UInt64) :
    (s.step (.advance k now)).manager = s.manager ∨
      ∃ stamp, (s.step (.advance k now)).loads[k]? = some (.published stamp) := by
  obtain ⟨after, hafter, htakes⟩ := exists_step s (.advance k now)
  rw [hafter]
  rcases htakes with _ | _ | _ | _ | ⟨hload, -⟩ | _
  · exact .inl rfl
  · exact .inl rfl
  · exact .inr ⟨_, by rw [getElem?_set_loads hload, if_pos rfl]⟩

/-- **A load that fails has changed nothing**, at none of its steps. -/
theorem manager_of_failed {before after : List Step} {e : CacheError}
    (h : (run site (before ++ .advance k now :: after)).loads[k]? = some (.failed e)) :
    (run site (before ++ [.advance k now])).manager = (run site before).manager := by
  rw [run_concat]
  rcases manager_advance (run site before) k now with hsame | ⟨stamp, hpublished⟩
  · exact hsame
  · -- what it had published would still be so at the end
    rw [← run_concat] at hpublished
    have hend : (run site (before ++ [.advance k now] ++ after)).loads[k]? =
        some (.published stamp) := published_run hpublished
    rw [List.append_assoc, List.singleton_append, h] at hend
    exact absurd hend (by simp)

/-! ## A load by itself -/

/-- The course with one more load. -/
def withLoad (s : Course) (load : Load) : Course :=
  { s with loads := s.loads ++ [load] }

/-- A load that is not yet built goes on by itself. -/
theorem step_withLoad (h : ∀ index, load ≠ .built index) :
    (s.withLoad load).step (.advance s.loads.length now) = s.withLoad (load.next s.site) := by
  rw [step, withLoad, List.getElem?_concat_length]
  split
  · exact absurd ‹some load = none› (by simp)
  · rename_i index hbuilt
    exact absurd (Option.some.inj hbuilt) (h index)
  · rename_i hload
    rw [← Option.some.inj hload, List.set_append_right _ _ (Nat.le_refl _), Nat.sub_self]
    rfl

/-- One that is built publishes. -/
theorem step_withLoad_built :
    (s.withLoad (.built index)).step (.advance s.loads.length now) =
      withLoad { s with
        manager := s.manager.publish now index
        publications := s.publications ++
          [⟨s.loads.length, (s.manager.publish now index).clock, index⟩] }
        (.published (s.manager.publish now index).clock) := by
  rw [step, withLoad, List.getElem?_concat_length]
  dsimp only
  rw [List.set_append_right _ _ (Nat.le_refl _), Nat.sub_self]
  rfl

/-- One that has ended stays as it is. -/
theorem steps_withLoad_ended (outcome : Except CacheError Stamp) (count : Nat) :
    (List.replicate count (.advance s.loads.length now)).foldl step (s.withLoad (.ended outcome)) =
      s.withLoad (.ended outcome) := by
  induction count with
  | zero => rfl
  | succ count ih =>
    rw [List.replicate_succ, List.foldl_cons, step_withLoad (by cases outcome <;> exact nofun)]
    cases outcome <;> exact ih

/-- Where a load comes to in a course is where it comes to by itself. -/
theorem exists_steps_withLoad {after : Load} (h : load.Proceeds s.site after) (now : UInt64) :
    ∃ count, (List.replicate count (.advance s.loads.length now)).foldl step (s.withLoad load) =
      s.withLoad after := by
  induction h using Relation.ReflTransGen.head_induction_on with
  | refl => exact ⟨0, rfl⟩
  | head hnext _ ih =>
    obtain ⟨hbuilt, rfl⟩ := hnext
    obtain ⟨count, hcount⟩ := ih
    refine ⟨count + 1, ?_⟩
    rw [List.replicate_succ, List.foldl_cons, step_withLoad hbuilt, hcount]

/-- **A load that nothing comes in between of is the load of the manager**,
once it is given as many steps as it takes. -/
theorem load_alone (s : Course) (now : UInt64) : ∃ least, ∀ more : Nat,
    let steps := Step.begin :: List.replicate (least + more) (.advance s.loads.length now)
    (steps.foldl step s).manager = (s.manager.load now s.site).1 ∧
      (steps.foldl step s).loads = s.loads ++ [.ended (s.manager.load now s.site).2] := by
  obtain ⟨count, hcount⟩ := exists_steps_withLoad (Load.proceeds_prepared s.site) now
  have hbegin : s.step .begin = s.withLoad (.begun s.site.configuration.sources) := rfl
  cases hindex : s.site.build with
  | error e =>
    refine ⟨count, fun more => ?_⟩
    rw [Load.prepared, hindex] at hcount
    have hend : (List.replicate more (.advance s.loads.length now)).foldl step
        (s.withLoad (.ended (.error e))) = _ := steps_withLoad_ended (.error e) more
    simp only [List.foldl_cons, hbegin, List.replicate_add, List.foldl_append, hcount,
      load_of_error hindex]
    rw [show Load.resume Load.built (.error e) = .ended (.error e) from rfl, hend]
    exact ⟨rfl, rfl⟩
  | ok index =>
    refine ⟨count + 1, fun more => ?_⟩
    rw [Load.prepared, hindex] at hcount
    have hbuilt : Load.resume Load.built (.ok index) = .built index := rfl
    -- the course with the publication, and the load not yet in it
    let after : Course :=
      { s with
        manager := s.manager.publish now index
        publications := s.publications ++
          [⟨s.loads.length, (s.manager.publish now index).clock, index⟩] }
    have hend : (List.replicate more (.advance s.loads.length now)).foldl step
        (after.withLoad (.ended (.ok (s.manager.publish now index).clock))) = _ :=
      steps_withLoad_ended (s := after) _ more
    rw [hbuilt] at hcount
    simp only [List.foldl_cons, hbegin, List.replicate_add, List.foldl_append, hcount,
      List.replicate_one, List.foldl_nil, step_withLoad_built, load_of_ok hindex]
    rw [Load.ended] at hend
    rw [hend]
    exact ⟨rfl, rfl⟩

/-! ## The whole run -/

/-- **What holds at every moment of a run.** -/
structure Consistent (site : Site) (steps : List Step) : Prop where
  /-- What is current is what was published last, and nothing if nothing was. -/
  current : (run site steps).manager.current =
    (run site steps).publications.getLast?.map Publication.snapshot
  /-- What was published is the whole of what one load built. -/
  built : ∀ p ∈ (run site steps).publications, BuiltBy site steps p.load p.index
  /-- If the site was the same at the beginning of that load and at each of
  its steps, that is the build of the site. -/
  whole : ∀ p ∈ (run site steps).publications, ∀ same : Site,
    (∀ b, Begins site steps p.load b →
      siteAt site steps b = same ∧ ∀ s ∈ ownSites site steps p.load b, s = same) →
    same.build = .ok p.index
  /-- The publications are those of the loads that succeeded, -/
  published : ∀ k stamp, (run site steps).loads[k]? = some (.published stamp) ↔
    ∃ p ∈ (run site steps).publications, p.load = k ∧ p.stamp = stamp
  /-- one of each. -/
  once : ((run site steps).publications.map (·.load)).Nodup
  /-- The current snapshot is handed out to those whose stamp is earlier. -/
  newer : ∀ since snapshot, (run site steps).manager.newerThan? since = some snapshot ↔
    (run site steps).manager.current = some snapshot ∧ since < snapshot.timestamp
  /-- A load that fails in the end changes nothing by any of its steps. -/
  failed : ∀ before k now after e, steps = before ++ .advance k now :: after →
    (run site steps).loads[k]? = some (.failed e) →
    (run site (before ++ [.advance k now])).manager = (run site before).manager
  /-- Observing a stamp changes nothing of what is handed out. -/
  observed : ∀ now remote since,
    (run site (steps ++ [.observe now remote])).manager.newerThan? since =
      (run site steps).manager.newerThan? since

/-- **Loads that overlap do not mix.** However they and the edits and the
observed stamps come one after the other, what is served is at every moment
nothing or the whole of what one load built. -/
theorem consistent_run (site : Site) (steps : List Step) : Consistent site steps where
  current := current_run site steps
  built p hp := builtBy_of_mem hp
  whole p hp same hsame := (builtBy_of_mem hp).build hsame
  published k stamp := by
    refine ⟨exists_publication, ?_⟩
    rintro ⟨p, hp, rfl, rfl⟩
    exact published_of_mem hp
  once := nodup_publications site steps
  newer since snapshot := by
    rw [newerThan?, Option.filter_eq_some_iff, Stamp.isAfter_iff]
  failed before k now after e hsteps hfailed := manager_of_failed (hsteps ▸ hfailed)
  observed now remote since := by
    rw [run_concat]
    rfl

/-- A root, a class below it, and what else there is. -/
def shelf (attributes : List (String × Text.Bytes)) : Site where
  configuration :=
    ⟨.memory (("app.json", Text.encode ("\x7b\"metadata_models\":[\x7b\"root_package\":\"app\"," ++
      "\"classes\":[\"app.Order\"]\x7d]\x7d")) :: attributes), ⟨["app.json"], []⟩⟩
  introspector := .declared ["attributes.json"]

/-- An attribute of the class is declared. -/
def declaring (code : String) : Site :=
  shelf [("attributes.json", Text.encode ("\x7b\"attributes\":[\x7b\"code\":\"" ++ code ++
    "\",\"entity_type\":\"app.Order\",\"value_type\":\"string\"\x7d]\x7d"))]

/-- A load has read all there is when the attribute is replaced. Another load
begins and publishes, and then the first one does. The document with the
attribute is gone when a third load comes to read it, and a stamp is
observed. -/
def overlapping : List Step :=
  .begin :: List.replicate 8 (.advance 0 1) ++ .edit (declaring "score") :: .begin ::
    List.replicate 10 (.advance 1 2) ++ List.replicate 2 (.advance 0 3) ++
    .edit (shelf []) :: .begin :: List.replicate 7 (.advance 2 4) ++ [.observe 5 ⟨9, 0⟩]

/-- What is served in the end is all of what the first load built, although
it was published last. -/
theorem consistent_overlapping :
    let s := run (declaring "rating") overlapping
    Consistent (declaring "rating") overlapping ∧
      s.publications.map (fun p => (p.load, p.stamp)) = [(1, ⟨2, 0⟩), (0, ⟨3, 0⟩)] ∧
      s.loads[2]?.any (fun load => load.failure? = some (.metadata (.notFound "attributes.json"))) ∧
      s.manager.current.map (fun c => (c.timestamp, (c.attributes.flatMap (·.2)).map (·.code))) =
        some (⟨3, 0⟩, ["rating"]) := by
  exact ⟨consistent_run _ _, by decide +kernel⟩

end Course

end Manager

end AttributeCache
