import AttributeCache.Cache.Manager
import AttributeCache.Proofs.Stamp.Order
/-!
# Later snapshots are stamped later

A manager's run is any sequence of loads and observed stamps, at any
readings of the wall clock, and a `Trace` keeps what has gone through it.
The clock never lies before a stamp of the trace (`Trace.Bounding.seen_le`),
so what is published next is not stamped before it. Whether it is stamped
*after* it hangs on the counter alone: `Bounding.lt_tick_iff` gives the exact
place where a reload carries a stamp that is already out, and a caller who
holds that stamp is told that nothing is newer.
-/

namespace AttributeCache

namespace Manager

variable {m m' : Manager} {now : UInt64} {site : Site} {stamp remote s : Stamp}

/-! ## Single steps -/

/-- A load that fails changes nothing. -/
theorem load_of_error {e : CacheError} (h : site.build = .error e) :
    m.load now site = (m, .error e) := by
  rw [load, h]

/-- A load that succeeds publishes what was built, under the next stamp. -/
theorem load_of_ok {index : AttributeIndex} (h : site.build = .ok index) :
    m.load now site = (m.publish now index, .ok (m.clock.tick now)) := by
  rw [load, h]
  rfl

/-- What a stamp as the outcome says of the load. -/
theorem load_eq_ok (h : m.load now site = (m', .ok stamp)) :
    ∃ index, site.build = .ok index ∧ stamp = m.clock.tick now ∧
      m' = ⟨stamp, some (.ofIndex stamp index)⟩ := by
  cases hb : site.build with
  | error e =>
    rw [load_of_error hb] at h
    exact absurd (congrArg Prod.snd h) (by simp)
  | ok index =>
    rw [load_of_ok hb] at h
    injection h with hm hs
    injection hs with hs
    refine ⟨index, rfl, hs.symm, ?_⟩
    rw [← hm, ← hs]
    rfl

/-- A snapshot is handed out to those whose stamp is earlier. -/
theorem newerThan?_of_current {snapshot : Snapshot} (h : m.current = some snapshot) :
    m.newerThan? s = if s < snapshot.timestamp then some snapshot else none := by
  rw [newerThan?, h, Option.filter_some]
  simp only [Stamp.isAfter_iff]

/-! ## Runs -/

/-- What can be asked of a manager, with the reading of the wall clock at
that moment. -/
inductive Step where
  | load (now : UInt64) (site : Site)
  | observe (now : UInt64) (remote : Stamp)

/-- A manager, and what has gone through it. -/
structure Trace where
  manager : Manager := {}
  /-- The stamps it published, in order. -/
  published : List Stamp := []
  /-- The stamps of other nodes it observed, in order. -/
  observed : List Stamp := []
  /-- The readings its clock took. A load that fails takes none. -/
  readings : List UInt64 := []

namespace Trace

variable {t : Trace}

/-- The stamps that are out: those published and those observed. -/
def seen (t : Trace) : List Stamp := t.published ++ t.observed

/-- The trace with one more step. -/
def step (t : Trace) : Step → Trace
  | .load now site =>
    match t.manager.load now site with
    | (_, .error _) => t
    | (m, .ok stamp) =>
      { t with manager := m, published := t.published ++ [stamp], readings := t.readings ++ [now] }
  | .observe now remote =>
    { t with
      manager := t.manager.observe now remote
      observed := t.observed ++ [remote]
      readings := t.readings ++ [now] }

/-- The trace of a run. -/
def run (steps : List Step) : Trace := steps.foldl step {}

/-! ## The clock bounds what is out -/

/-- **The invariant of a run**: the clock lies at or after every stamp that
is out and every reading it took, and its wall time is the least such. -/
structure Bounding (t : Trace) : Prop where
  seen_le : ∀ s ∈ t.seen, s ≤ t.manager.clock
  reading_le : ∀ r ∈ t.readings, r ≤ t.manager.clock.wall
  wall_least : ∀ w, (∀ s ∈ t.seen, s.wall ≤ w) → (∀ r ∈ t.readings, r ≤ w) →
    t.manager.clock.wall ≤ w

theorem bounding_start : Bounding {} where
  seen_le s hs := by simp [seen] at hs
  reading_le r hr := by simp at hr
  wall_least w _ _ := by
    rw [UInt64.le_iff_toNat_le]
    exact Nat.zero_le _

/-- A step that moves the clock on to the latest of what there was and
what comes in keeps the invariant: the two kinds of step that do so differ
only in which stamp comes in. -/
theorem Bounding.advance {t' : Trace} (h : t.Bounding) (now : UInt64) (s : Stamp)
    (hseen : ∀ x, x ∈ t'.seen ↔ x ∈ t.seen ∨ x = s)
    (hreadings : ∀ r, r ∈ t'.readings ↔ r ∈ t.readings ∨ r = now)
    (hclock : t.manager.clock ≤ t'.manager.clock) (hs : s ≤ t'.manager.clock)
    (hwall : t'.manager.clock.wall = max now (max t.manager.clock.wall s.wall)) :
    t'.Bounding where
  seen_le x hx := by
    rcases (hseen x).1 hx with hx | rfl
    · exact le_trans (h.seen_le x hx) hclock
    · exact hs
  reading_le r hr := by
    have hle := Stamp.wall_le_of_le hclock
    rcases (hreadings r).1 hr with hr | rfl
    · exact UInt64.le_trans (h.reading_le r hr) hle
    · rw [hwall, UInt64.le_iff_toNat_le, Stamp.toNat_max]
      exact Nat.le_max_left _ _
  wall_least w hws hwr := by
    have hold : t.manager.clock.wall ≤ w :=
      h.wall_least w (fun x hx => hws x ((hseen x).2 (.inl hx)))
        (fun r hr => hwr r ((hreadings r).2 (.inl hr)))
    have hnew : s.wall ≤ w := hws s ((hseen s).2 (.inr rfl))
    have hnow : now ≤ w := hwr now ((hreadings now).2 (.inr rfl))
    rw [UInt64.le_iff_toNat_le] at hold hnew hnow ⊢
    rw [hwall, Stamp.toNat_max, Stamp.toNat_max]
    omega

/-- A load keeps the invariant, whatever comes of it. -/
theorem Bounding.load (h : t.Bounding) : (t.step (.load now site)).Bounding := by
  rcases hload : t.manager.load now site with ⟨m, e | stamp⟩
  · simpa only [step, hload] using h
  · obtain ⟨index, -, hstamp, hm⟩ := load_eq_ok hload
    have hwall : stamp.wall = max now (max t.manager.clock.wall stamp.wall) := by
      have hle := Stamp.wall_le_of_le (hstamp ▸ Stamp.le_tick : t.manager.clock ≤ stamp)
      have heq : stamp.wall = max now t.manager.clock.wall := hstamp ▸ Stamp.tick_wall
      have heq := congrArg UInt64.toNat heq
      rw [UInt64.le_iff_toNat_le] at hle
      apply UInt64.toNat_inj.1
      rw [Stamp.toNat_max] at heq ⊢
      rw [Stamp.toNat_max]
      omega
    simp only [step, hload]
    refine h.advance now stamp (fun x => ?_) (fun r => ?_) ?_ ?_ ?_
    · simp only [seen, List.mem_append, List.mem_singleton]
      grind
    · simp only [List.mem_append, List.mem_singleton]
    · rw [hm]
      exact hstamp ▸ Stamp.le_tick
    · rw [hm]
    · rw [hm]
      exact hwall

/-- So does observing a stamp. -/
theorem Bounding.observe (h : t.Bounding) : (t.step (.observe now remote)).Bounding := by
  refine h.advance now remote (fun x => ?_) (fun r => ?_) ?_ ?_ ?_
  · simp only [step, seen, List.mem_append, List.mem_singleton]
    grind
  · simp only [step, List.mem_append, List.mem_singleton]
  · exact Stamp.le_receive_left
  · exact Stamp.le_receive_right
  · exact Stamp.receive_wall

/-- And so it holds throughout a run. -/
theorem bounding_run (steps : List Step) : (run steps).Bounding := by
  suffices h : ∀ t : Trace, t.Bounding → (steps.foldl step t).Bounding from h {} bounding_start
  induction steps with
  | nil => exact fun t ht => ht
  | cons a rest ih =>
    intro t ht
    rw [List.foldl_cons]
    cases a with
    | load now site => exact ih _ ht.load
    | observe now remote => exact ih _ ht.observe

/-! ## What the next load is stamped -/

/-- No later stamp can be issued than `s`: its counter stands at the
greatest value, and no wall time goes past it, neither of a stamp that is
out nor of a reading, the one at hand included. -/
def Exhausts (t : Trace) (now : UInt64) (s : Stamp) : Prop :=
  s.logical = Stamp.lastLogical ∧ now ≤ s.wall ∧ (∀ r ∈ t.readings, r ≤ s.wall) ∧
    ∀ x ∈ t.seen, x.wall ≤ s.wall

/-- Such a stamp is where the clock stands. -/
theorem Bounding.clock_eq_of_exhausts (h : t.Bounding) (hs : s ∈ t.seen)
    (he : t.Exhausts now s) : t.manager.clock = s := by
  obtain ⟨hlast, -, hreadings, hwalls⟩ := he
  have hle := h.seen_le s hs
  have hwall : t.manager.clock.wall = s.wall :=
    UInt64.le_antisymm (h.wall_least s.wall hwalls hreadings) (Stamp.wall_le_of_le hle)
  refine le_antisymm (Stamp.le_iff.2 (.inr ⟨hwall, ?_⟩)) hle
  rw [hlast]
  exact Stamp.le_lastLogical

/-- **The next stamp is later, or the stamps are exhausted.** The tick
fails to move the clock only at the greatest counter, and then the only
stamp it does not go past is the clock's own. -/
theorem Bounding.lt_tick_iff (h : t.Bounding) (now : UInt64) (hs : s ∈ t.seen) :
    s < t.manager.clock.tick now ↔ ¬ t.Exhausts now s := by
  have hle := h.seen_le s hs
  constructor
  · intro hlt he
    have hclock := h.clock_eq_of_exhausts hs he
    rw [hclock, Stamp.lt_tick_iff] at hlt
    obtain ⟨hlast, hnow, -⟩ := he
    rcases hlt with hlt | hne
    · exact UInt64.not_lt.2 hnow hlt
    · exact hne hlast
  · intro hne
    -- a clock that moves goes past all; one that stays has reached the greatest counter
    by_cases hmoves : t.manager.clock < t.manager.clock.tick now
    · exact lt_of_le_of_lt hle hmoves
    · have hstays := hmoves
      rw [Stamp.lt_tick_iff, not_or, Classical.not_not] at hstays
      refine lt_of_lt_of_le (lt_of_le_of_ne hle fun heq => hne ?_) Stamp.le_tick
      exact ⟨heq ▸ hstays.2, heq ▸ UInt64.not_lt.1 hstays.1, fun r hr => heq ▸ h.reading_le r hr,
        fun x hx => heq ▸ Stamp.wall_le_of_le (h.seen_le x hx)⟩

/-- **What a reload does about the stamps that are out.** A load that
succeeds publishes what it built. Its stamp is later than every stamp that
was published or observed before, and whoever holds one of these is handed
the new snapshot. The one exception is a stamp that exhausts the counter:
that stamp is issued again, and whoever holds it is handed nothing. -/
theorem load_later_unless_exhausted (steps : List Step) (now : UInt64) (site : Site) (m : Manager)
    (stamp : Stamp) (h : (run steps).manager.load now site = (m, .ok stamp)) :
    (∃ index, site.build = .ok index ∧ m.current = some (.ofIndex stamp index)) ∧
      ∀ s ∈ (run steps).seen,
        (¬ (run steps).Exhausts now s → s < stamp ∧ m.newerThan? s = m.current) ∧
        ((run steps).Exhausts now s → stamp = s ∧ m.newerThan? s = none) := by
  have hb := bounding_run steps
  obtain ⟨index, hbuild, hstamp, hm⟩ := load_eq_ok h
  have hcurrent : m.current = some (.ofIndex stamp index) := by rw [hm]
  refine ⟨⟨index, hbuild, hcurrent⟩, fun s hs => ?_⟩
  have hlt := hb.lt_tick_iff now hs
  rw [← hstamp] at hlt
  rw [newerThan?_of_current hcurrent, hcurrent]
  constructor
  · intro hne
    exact ⟨hlt.2 hne, if_pos (hlt.2 hne)⟩
  · intro he
    have hge : ¬ s < stamp := fun hl => hlt.1 hl he
    have hle : s ≤ stamp := hstamp ▸ le_trans (hb.seen_le s hs) Stamp.le_tick
    exact ⟨le_antisymm (le_of_not_gt hge) hle, if_neg hge⟩

/-- A site that builds: no documents and no definitions. -/
def emptySite : Site := ⟨⟨.memory [], {}⟩, .listed []⟩

/-- A clock that has stood still since it observed a stamp of the far
future: the next load is stamped after that stamp and after the one it
published itself. -/
theorem load_later_at_standing_clock :
    let steps : List Step :=
      [.load 10 emptySite, .observe 10 ⟨9000000000000000000, 3⟩]
    let stamp : Stamp := ⟨9000000000000000000, 5⟩
    ((run steps).manager.load 10 emptySite).2 = .ok stamp ∧
      ∀ s ∈ [⟨10, 0⟩, ⟨9000000000000000000, 3⟩], s < stamp := by
  intro steps stamp
  have h := load_later_unless_exhausted steps 10 emptySite _ stamp rfl
  refine ⟨rfl, fun s hs => ((h.2 s hs).1 ?_).1⟩
  rintro ⟨hlast, -⟩
  rw [List.mem_cons, List.mem_singleton] at hs
  rcases hs with rfl | rfl
  · exact absurd hlast (by decide)
  · exact absurd hlast (by decide)

/-- **Not every reload is stamped later.** Once a stamp with the greatest
counter has been observed, a load behind its wall time issues that very
stamp, and whoever holds it never sees the reload. -/
theorem not_load_always_later :
    ¬ ∀ (steps : List Step) (now : UInt64) (site : Site) (m : Manager) (stamp : Stamp),
      (run steps).manager.load now site = (m, .ok stamp) →
        ∀ s ∈ (run steps).seen, s < stamp ∧ m.newerThan? s = m.current := by
  intro h
  let last : Stamp := ⟨9000000000000000000, Stamp.lastLogical⟩
  have hlast := h [.observe 10 last] 10 emptySite _ last rfl last (List.mem_singleton.2 rfl)
  exact absurd hlast.1 (lt_irrefl last)

end Trace

end Manager

end AttributeCache
