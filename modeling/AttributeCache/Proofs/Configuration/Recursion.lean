import AttributeCache.Proofs.Configuration.DepthFirst
import AttributeCache.Proofs.Resources.Confinement
/-!
# The walk ends

`expand` is handed a depth it does not go below. Here the walk is taken one
step after the other and has no such bound: a `Moment` holds the documents
being expanded, each with the targets that are left of it, and `step` makes
a call, goes on to the next target, or is done with a document. How
documents are had is anything that has no more than so many of them
(`HasAtMost`); what they hold, and what leads to them, is left open.

What carries over a step is that a document asked for is being expanded or
visited (`Sound`). So none is asked for twice, none is being expanded twice,
and no more are being expanded than there are. That the steps come to an end
is read off the same fact: each of them asks for one more document, of which
there are only so many, or leaves less to do with those it has
(`Steps.work_lt`).

Over a store the steps end as the walk with its bound does (`ends_run`), so
the bound cuts nothing off.
-/

namespace AttributeCache

namespace IncludeWalk

open IncludeGraph

variable {r : Resources} {files names : List String} {p q : NormalPath} {n : Nat}

/-! ## The walk step by step -/

/-- How documents are had by path. -/
abbrev Reader := NormalPath → Except MetadataError MetadataDocument

/-- The documents of a store. -/
def reader (r : Resources) : Reader := fun path =>
  r.document MetadataDocument.ofTree path.text

/-- A document being expanded, and the targets not gone to yet. -/
structure Expansion where
  path : NormalPath
  document : MetadataDocument
  targets : List String
deriving DecidableEq

/-- The walk between two steps. -/
structure Moment where
  /-- The document to be expanded next, if one is at hand. -/
  calling : Option NormalPath := none
  /-- The documents being expanded, innermost first. -/
  expanding : List Expansion := []
  /-- The configured files not gone to yet. -/
  files : List String
  progress : Progress := {}
deriving DecidableEq

/-- A step leads to the next moment, or it is the last one. -/
inductive Turn where
  | goesOn (next : Moment)
  | ends (outcome : Outcome)
deriving DecidableEq

namespace Moment

/-- The paths being expanded, innermost first. -/
def paths (m : Moment) : List NormalPath :=
  m.expanding.map (·.path)

/-- The paths being expanded, outermost first. -/
def active (m : Moment) : List NormalPath :=
  m.paths.reverse

/-- How many calls there are within each other. -/
def depth (m : Moment) : Nat :=
  m.expanding.length + m.calling.toList.length

/-- The beginning of a walk. -/
def start (files : List String) : Moment := { files }

/-- A call for a document: it is on the trail already, or it is done, or it
is asked for. -/
def enter (read : Reader) (m : Moment) (path : NormalPath) : Turn :=
  if m.active.contains path then
    let chain := (m.active ++ [path]).map NormalPath.text
    .ends (m.progress, some (.configuration (.cyclicInclude path.text chain)))
  else if m.progress.isDone path then .goesOn { m with calling := none }
  else
    let p := { m.progress with opened := m.progress.opened ++ [path] }
    match read path with
    | .error e => .ends (p, some e)
    | .ok d =>
      .goesOn { m with calling := none, expanding := ⟨path, d, d.targets⟩ :: m.expanding,
                       progress := p }

/-- Goes on to where a name leads, if it leads anywhere. -/
def goTo (m : Moment) : Except MetadataError NormalPath → Turn
  | .error e => .ends (m.progress, some e)
  | .ok path => .goesOn { m with calling := some path }

/-- One step. -/
def step (read : Reader) (m : Moment) : Turn :=
  match m.calling, m.expanding, m.files with
  | some path, _, _ => m.enter read path
  | none, [], [] => .ends (m.progress, none)
  | none, [], file :: files => goTo { m with files } (configuredTarget file)
  | none, ⟨path, d, []⟩ :: outer, _ =>
    .goesOn { m with expanding := outer,
                     progress := { m.progress with visited := m.progress.visited ++ [(path, d)] } }
  | none, ⟨path, d, name :: targets⟩ :: outer, _ =>
    goTo { m with expanding := ⟨path, d, targets⟩ :: outer } (includeTarget path name)

/-- The moment some steps later, if there are as many. -/
def after? (read : Reader) : Nat → Moment → Option Moment
  | 0, m => some m
  | k + 1, m =>
    match m.step read with
    | .goesOn next => next.after? read k
    | .ends _ => none

end Moment

open Moment

/-- One moment comes to another. -/
def Reaches (read : Reader) : Moment → Moment → Prop :=
  Relation.ReflTransGen fun m next => m.step read = .goesOn next

/-- From a moment on there are only so many steps, and this is how they
end. -/
inductive Ends (read : Reader) : Moment → Outcome → Prop
  | now {m : Moment} {o : Outcome} : m.step read = .ends o → Ends read m o
  | later {m next : Moment} {o : Outcome} : m.step read = .goesOn next → Ends read next o →
      Ends read m o

/-- No more than so many documents can be had: so many normal paths lead to
one at most. -/
def HasAtMost (read : Reader) (n : Nat) : Prop :=
  ∀ paths : List NormalPath, paths.Nodup → (∀ p ∈ paths, p.Normal ∧ ∃ d, read p = .ok d) →
    paths.length ≤ n

variable {read : Reader} {m next : Moment} {o o' : Outcome}

theorem reaches_of_after? {k : Nat} (h : m.after? read k = some next) : Reaches read m next := by
  induction k generalizing m with
  | zero =>
    cases h
    exact .refl
  | succ k ih =>
    rw [after?] at h
    split at h
    · rename_i between hstep
      exact .head hstep (ih h)
    · cases h

/-- There is one end at most. -/
theorem Ends.unique (h : Ends read m o) (h' : Ends read m o') : o = o' := by
  induction h with
  | now hstep =>
    cases h' with
    | now hstep' =>
      cases hstep.symm.trans hstep'
      rfl
    | later hstep' _ => cases hstep.symm.trans hstep'
  | later hstep _ ih =>
    cases h' with
    | now hstep' => cases hstep.symm.trans hstep'
    | later hstep' hnext =>
      cases hstep.symm.trans hstep'
      exact ih hnext

/-- **All that a step may do** before the last one. -/
inductive Steps (read : Reader) : Moment → Moment → Prop
  /-- The document was visited before. -/
  | pass {path : NormalPath} {expanding : List Expansion} {files : List String}
      {progress : Progress} :
      Steps read ⟨some path, expanding, files, progress⟩ ⟨none, expanding, files, progress⟩
  /-- The document is new, and can be had. -/
  | ask {path : NormalPath} {d : MetadataDocument} {expanding : List Expansion}
      {files : List String} {progress : Progress} :
      path ∉ expanding.map (·.path) → progress.isDone path = false → read path = .ok d →
      Steps read ⟨some path, expanding, files, progress⟩
        ⟨none, ⟨path, d, d.targets⟩ :: expanding, files,
          { progress with opened := progress.opened ++ [path] }⟩
  | configured {file : String} {target : NormalPath} {files : List String} {progress : Progress} :
      configuredTarget file = .ok target →
      Steps read ⟨none, [], file :: files, progress⟩ ⟨some target, [], files, progress⟩
  | included {path target : NormalPath} {d : MetadataDocument} {name : String}
      {targets files : List String} {outer : List Expansion} {progress : Progress} :
      includeTarget path name = .ok target →
      Steps read ⟨none, ⟨path, d, name :: targets⟩ :: outer, files, progress⟩
        ⟨some target, ⟨path, d, targets⟩ :: outer, files, progress⟩
  /-- All the document includes has been gone to. -/
  | visit {path : NormalPath} {d : MetadataDocument} {outer : List Expansion}
      {files : List String} {progress : Progress} :
      Steps read ⟨none, ⟨path, d, []⟩ :: outer, files, progress⟩
        ⟨none, outer, files, { progress with visited := progress.visited ++ [(path, d)] }⟩

/-- **All that a call comes to.** -/
theorem enter_cases (read : Reader) (m : Moment) (path : NormalPath) :
    (path ∈ m.paths ∧ ∃ e, m.enter read path = .ends (m.progress, some e)) ∨
      (path ∉ m.paths ∧ m.progress.isDone path = true ∧
        m.enter read path = .goesOn { m with calling := none }) ∨
      path ∉ m.paths ∧ m.progress.isDone path = false ∧
        ((∃ e, read path = .error e ∧ m.enter read path =
            .ends ({ m.progress with opened := m.progress.opened ++ [path] }, some e)) ∨
          ∃ d, read path = .ok d ∧ m.enter read path =
            .goesOn { m with calling := none, expanding := ⟨path, d, d.targets⟩ :: m.expanding,
                             progress := { m.progress with
                               opened := m.progress.opened ++ [path] } }) := by
  have hactive : m.active.contains path = true ↔ path ∈ m.paths :=
    List.contains_iff_mem.trans List.mem_reverse
  rw [enter]
  by_cases hin : path ∈ m.paths
  · rw [if_pos (hactive.2 hin)]
    exact .inl ⟨hin, _, rfl⟩
  · rw [if_neg (mt hactive.1 hin)]
    cases hdone : m.progress.isDone path with
    | true => exact .inr (.inl ⟨hin, rfl, if_pos rfl⟩)
    | false =>
      refine .inr (.inr ⟨hin, rfl, ?_⟩)
      rw [if_neg Bool.false_ne_true]
      cases read path with
      | error e => exact .inl ⟨e, rfl, rfl⟩
      | ok d => exact .inr ⟨d, rfl, rfl⟩

theorem goTo_cases (m : Moment) (target : Except MetadataError NormalPath) :
    (∃ path, target = .ok path ∧ m.goTo target = .goesOn { m with calling := some path }) ∨
      ∃ e, m.goTo target = .ends (m.progress, some e) := by
  cases target with
  | ok path => exact .inl ⟨path, rfl, rfl⟩
  | error e => exact .inr ⟨e, rfl⟩

/-- **All that a step comes to.** The last one has asked for nothing, or for
a document that is new and cannot be had. -/
theorem step_cases (read : Reader) (m : Moment) :
    (∃ next, m.step read = .goesOn next ∧ Steps read m next) ∨
      ∃ o, m.step read = .ends o ∧ (o.1.opened = m.progress.opened ∨
        ∃ path, m.calling = some path ∧ path ∉ m.paths ∧ m.progress.isDone path = false ∧
          o.1.opened = m.progress.opened ++ [path]) := by
  obtain ⟨calling, expanding, files, progress⟩ := m
  cases calling with
  | some path =>
    rcases enter_cases read ⟨some path, expanding, files, progress⟩ path with
      ⟨-, e, hcall⟩ | ⟨-, -, hcall⟩ | ⟨hnew, hdone, ⟨e, -, hcall⟩ | ⟨d, hd, hcall⟩⟩
    · exact .inr ⟨_, hcall, .inl rfl⟩
    · exact .inl ⟨_, hcall, .pass⟩
    · exact .inr ⟨_, hcall, .inr ⟨path, rfl, hnew, hdone, rfl⟩⟩
    · exact .inl ⟨_, hcall, .ask hnew hdone hd⟩
  | none =>
    rcases expanding with _ | ⟨⟨path, d, _ | ⟨name, targets⟩⟩, outer⟩
    · rcases files with _ | ⟨file, files⟩
      · exact .inr ⟨_, rfl, .inl rfl⟩
      · rcases goTo_cases ⟨none, [], files, progress⟩ (configuredTarget file) with
          ⟨target, htarget, hgo⟩ | ⟨e, hgo⟩
        · exact .inl ⟨_, hgo, .configured htarget⟩
        · exact .inr ⟨_, hgo, .inl rfl⟩
    · exact .inl ⟨_, rfl, .visit⟩
    · rcases goTo_cases ⟨none, ⟨path, d, targets⟩ :: outer, files, progress⟩
          (includeTarget path name) with ⟨target, htarget, hgo⟩ | ⟨e, hgo⟩
      · exact .inl ⟨_, hgo, .included htarget⟩
      · exact .inr ⟨_, hgo, .inl rfl⟩

theorem steps_of_step (h : m.step read = .goesOn next) : Steps read m next := by
  rcases step_cases read m with ⟨next', hstep, hsteps⟩ | ⟨o, hstep, -⟩
  · cases hstep.symm.trans h
    exact hsteps
  · cases hstep.symm.trans h

theorem opened_of_ends (h : m.step read = .ends o) : o.1.opened = m.progress.opened ∨
    ∃ path, m.calling = some path ∧ path ∉ m.paths ∧ m.progress.isDone path = false ∧
      o.1.opened = m.progress.opened ++ [path] := by
  rcases step_cases read m with ⟨next, hstep, -⟩ | ⟨o', hstep, hopened⟩
  · cases hstep.symm.trans h
  · cases hstep.symm.trans h
    exact hopened

/-! ## What holds at every moment -/

/-- **What a step keeps.** -/
structure Sound (read : Reader) (m : Moment) : Prop where
  /-- No path is being expanded twice. -/
  nodup : m.paths.Nodup
  /-- What is being expanded was asked for. -/
  asked : ∀ p ∈ m.paths, p ∈ m.progress.opened
  /-- What was asked for is being expanded, or it is done. -/
  settled : ∀ p ∈ m.progress.opened, p ∈ m.paths ∨ m.progress.isDone p = true
  opened_nodup : m.progress.opened.Nodup
  /-- It was had. -/
  reads : ∀ p ∈ m.progress.opened, p.Normal ∧ ∃ d, read p = .ok d
  calling : ∀ p ∈ m.calling, p.Normal

namespace Sound

theorem start (files : List String) : Sound read (start files) where
  nodup := List.nodup_nil
  asked _ hp := absurd hp List.not_mem_nil
  settled _ hp := absurd hp List.not_mem_nil
  opened_nodup := List.nodup_nil
  reads _ hp := absurd hp List.not_mem_nil
  calling _ hp := nomatch hp

/-- What is at hand and neither being expanded nor done was not asked for
yet. -/
theorem not_mem_opened (h : Sound read m) (hnew : p ∉ m.paths)
    (hdone : m.progress.isDone p = false) : p ∉ m.progress.opened := by
  intro hp
  rcases h.settled p hp with hactive | hvisited
  · exact hnew hactive
  · rw [hdone] at hvisited
    exact Bool.noConfusion hvisited

theorem steps (h : Sound read m) (hstep : Steps read m next) : Sound read next := by
  cases hstep with
  | pass => exact { h with calling := fun _ hp => nomatch hp }
  | @ask path d expanding files progress hnew hdone hd =>
    have hfresh := h.not_mem_opened hnew hdone
    refine ⟨List.nodup_cons.2 ⟨hnew, h.nodup⟩, fun p hp => ?_, fun p hp => ?_, ?_, fun p hp => ?_,
      fun _ hp => nomatch hp⟩
    · rcases List.mem_cons.1 hp with rfl | hp
      · exact List.mem_append_right _ List.mem_cons_self
      · exact List.mem_append_left _ (h.asked p hp)
    · rcases List.mem_append.1 hp with hp | hp
      · exact (h.settled p hp).imp_left (List.mem_cons_of_mem _)
      · exact .inl (List.mem_singleton.1 hp ▸ List.mem_cons_self)
    · show (progress.opened ++ [path]).Nodup
      rw [← List.concat_eq_append]
      exact h.opened_nodup.concat hfresh
    · rcases List.mem_append.1 hp with hp | hp
      · exact h.reads p hp
      · rw [List.mem_singleton.1 hp]
        exact ⟨h.calling path rfl, d, hd⟩
  | @configured file target files progress htarget =>
    refine { h with calling := fun p hp => ?_ }
    cases hp
    exact NormalPath.normal_of_ofText? (configuredTarget_eq_ok.1 htarget)
  | @included path target d name targets files outer progress htarget =>
    have hpath : path.Normal := (h.reads path (h.asked path List.mem_cons_self)).1
    refine { h with calling := fun p hp => ?_ }
    cases hp
    exact NormalPath.normal_of_resolve? hpath (includeTarget_eq_ok.1 htarget)
  | @visit path d outer files progress =>
    refine ⟨(List.nodup_cons.1 h.nodup).2, fun p hp => h.asked p (List.mem_cons_of_mem _ hp),
      fun p hp => ?_, h.opened_nodup, h.reads, h.calling⟩
    have hdone : ∀ p, Progress.isDone { progress with visited := progress.visited ++ [(path, d)] } p
        = true ↔ progress.isDone p = true ∨ p = path := by
      intro p
      rw [isDone_iff, isDone_iff, List.map_append, List.mem_append, List.map_singleton,
        List.mem_singleton]
    rw [hdone]
    rcases h.settled p hp with hactive | hvisited
    · rcases List.mem_cons.1 hactive with rfl | houter
      · exact .inr (.inr rfl)
      · exact .inl houter
    · exact .inr (.inl hvisited)

/-- **It holds at every moment** that is come to. -/
theorem reaches (h : Sound read m) (hreach : Reaches read m next) : Sound read next := by
  induction hreach with
  | refl => exact h
  | tail _ hstep ih => exact ih.steps (steps_of_step hstep)

/-- No more were asked for than there are. -/
theorem length_opened_le (h : Sound read m) (hread : HasAtMost read n) :
    m.progress.opened.length ≤ n :=
  hread _ h.opened_nodup h.reads

/-- **No more calls are within each other than there are documents**, but for
the one that is just made. -/
theorem depth_le (h : Sound read m) (hread : HasAtMost read n) : m.depth ≤ n + 1 := by
  have hexpanding : m.expanding.length ≤ n := by
    have hpaths := hread m.paths h.nodup fun p hp => h.reads p (h.asked p hp)
    rwa [paths, List.length_map] at hpaths
  have hcalling : m.calling.toList.length ≤ 1 := by
    cases m.calling <;> simp
  rw [depth]
  omega

/-- The last step may ask for one more. -/
theorem nodup_of_ends (h : Sound read m) (hstep : m.step read = .ends o) :
    o.1.opened.Nodup ∧ ∀ p ∈ o.1.opened, p.Normal := by
  have hnormal : ∀ p ∈ m.progress.opened, p.Normal := fun p hp => (h.reads p hp).1
  rcases opened_of_ends hstep with hsame | ⟨path, hcalling, hnew, hdone, hmore⟩
  · rw [hsame]
    exact ⟨h.opened_nodup, hnormal⟩
  · rw [hmore, ← List.concat_eq_append]
    refine ⟨h.opened_nodup.concat (h.not_mem_opened hnew hdone), fun p hp => ?_⟩
    rw [List.concat_eq_append] at hp
    rcases List.mem_append.1 hp with hp | hp
    · exact hnormal p hp
    · rw [List.mem_singleton.1 hp]
      exact h.calling path hcalling

theorem nodup_opened (h : Sound read m) (hends : Ends read m o) :
    o.1.opened.Nodup ∧ ∀ p ∈ o.1.opened, p.Normal := by
  induction hends with
  | now hstep => exact h.nodup_of_ends hstep
  | later hstep _ ih => exact ih (h.steps (steps_of_step hstep))

end Sound

/-! ## The steps come to an end -/

/-- What is left to do as long as no document is asked for. A target takes
two steps, one to go on to it and one to call, and being done takes one. -/
def Moment.work (m : Moment) : Nat :=
  m.calling.toList.length + 2 * (m.files ++ m.expanding.flatMap (·.targets)).length +
    m.expanding.length

/-- **Every step asks for one more document, or leaves less to do.** -/
theorem Steps.work_lt (h : Steps read m next) :
    next.progress.opened.length = m.progress.opened.length + 1 ∨
      next.progress.opened = m.progress.opened ∧ next.work < m.work := by
  cases h with
  | ask => exact .inl List.length_append
  | pass =>
    refine .inr ⟨rfl, ?_⟩
    simp only [work, Option.toList_none, Option.toList_some, List.length_nil,
      List.length_singleton]
    omega
  | configured =>
    refine .inr ⟨rfl, ?_⟩
    simp only [work, Option.toList_none, Option.toList_some, List.length_nil, List.length_cons,
      List.length_append]
    omega
  | included =>
    refine .inr ⟨rfl, ?_⟩
    simp only [work, Option.toList_none, Option.toList_some, List.length_nil, List.length_cons,
      List.flatMap_cons, List.length_append]
    omega
  | visit =>
    refine .inr ⟨rfl, ?_⟩
    simp only [work, List.length_cons, List.flatMap_cons, List.nil_append]
    omega

/-- **There is an end**, since there are only so many documents to ask for. -/
theorem Sound.exists_ends {m : Moment} (h : Sound read m) (hread : HasAtMost read n) :
    ∃ o, Ends read m o := by
  cases hstep : m.step read with
  | ends o => exact ⟨o, .now hstep⟩
  | goesOn next =>
    have hnext := h.steps (steps_of_step hstep)
    have hopened := hnext.length_opened_le hread
    have hless := (steps_of_step hstep).work_lt
    obtain ⟨o, ho⟩ := hnext.exists_ends hread
    exact ⟨o, .later hstep ho⟩
termination_by (n - m.progress.opened.length, m.work)
decreasing_by
  rcases hless with hmore | ⟨hsame, hwork⟩
  · exact Prod.Lex.left _ _ (by omega)
  · rw [hsame]
    exact Prod.Lex.right _ hwork

/-! ## It is the walk -/

/-- How a walk ends that has come to an outcome on the way: there, if it has
failed, or as it goes on from there. -/
def Resumes (read : Reader) (onwards : Progress → Moment) : Outcome → Outcome → Prop
  | (progress, some e), o => o = (progress, some e)
  | (progress, none), o => Ends read (onwards progress) o

/-- **A loop over targets is taken step by step**, if each of the calls in it
is. -/
theorem ends_forEach {target? : String → Except MetadataError NormalPath}
    {go : NormalPath → Progress → Outcome} {progress : Progress}
    (loop : List String → Progress → Moment)
    (hprogress : ∀ names progress, (loop names progress).progress = progress)
    (hstep : ∀ name names progress, (loop (name :: names) progress).step read =
      (loop names progress).goTo (target? name))
    (hgo : ∀ name names q before o, target? name = .ok q →
      Resumes read (loop names) (go q before) o →
      Ends read { loop names before with calling := some q } o)
    (h : Resumes read (loop []) (forEach target? go names progress) o) :
    Ends read (loop names progress) o := by
  induction names generalizing progress with
  | nil => exact h
  | cons name rest ih =>
    rw [forEach] at h
    cases htarget : target? name with
    | error e =>
      rw [htarget] at h
      cases h
      refine .now ?_
      rw [hstep, htarget, goTo, hprogress]
    | ok q =>
      rw [htarget] at h
      refine .later (by rw [hstep, htarget, goTo]) (hgo name rest q progress o htarget ?_)
      simp only at h
      rcases hcall : go q progress with ⟨between, _ | e⟩
      · rw [hcall] at h
        exact ih h
      · rw [hcall] at h
        exact h

/-- **A call is taken step by step**, as long as there is room for it. -/
theorem ends_expand {depth : Nat} {active : List NormalPath} {progress : Progress}
    {expanding : List Expansion} (hroom : Room r depth active) (hp : p.Normal)
    (hactive : (expanding.map (·.path)).reverse = active)
    (h : Resumes (reader r) (fun progress => ⟨none, expanding, files, progress⟩)
      (expand r depth active p progress) o) :
    Ends (reader r) ⟨some p, expanding, files, progress⟩ o := by
  induction depth generalizing active p progress expanding o with
  | zero => exact absurd hroom.depth_pos (Nat.lt_irrefl 0)
  | succ depth ih =>
    have hm : Moment.active ⟨some p, expanding, files, progress⟩ = active := hactive
    have hstep : step (reader r) ⟨some p, expanding, files, progress⟩ =
        enter (reader r) ⟨some p, expanding, files, progress⟩ p := rfl
    rw [enter, hm] at hstep
    rw [expand] at h
    by_cases hin : active.contains p = true
    · rw [if_pos hin] at h hstep
      cases h
      exact .now hstep
    · rw [if_neg hin] at h hstep
      have hnew : p ∉ active := fun hp => hin (List.contains_iff_mem.2 hp)
      by_cases hdone : progress.isDone p = true
      · rw [if_pos hdone] at h hstep
        exact .later hstep h
      · rw [if_neg hdone] at h hstep
        simp only [reader] at h hstep
        cases hd : r.document MetadataDocument.ofTree p.text with
        | error e =>
          rw [hd] at h hstep
          cases h
          exact .now hstep
        | ok d =>
          rw [hd] at h hstep
          refine .later hstep ?_
          -- the includes are a loop, and each call in it is one deeper
          have hbelow : Resumes (reader r) (fun progress => ⟨none, ⟨p, d, []⟩ :: expanding, files,
              progress⟩) (forEach (includeTarget p) (expand r depth (active ++ [p])) d.targets
                { progress with opened := progress.opened ++ [p] }) o := by
            simp only at h
            rcases hloop : forEach (includeTarget p) (expand r depth (active ++ [p])) d.targets
                { progress with opened := progress.opened ++ [p] } with ⟨between, _ | e⟩
            · rw [hloop] at h
              exact .later rfl h
            · rw [hloop] at h
              exact h
          refine ends_forEach (fun names progress => ⟨none, ⟨p, d, names⟩ :: expanding, files,
            progress⟩) (fun _ _ => rfl) (fun _ _ _ => rfl) ?_ hbelow
          intro name names q before o hq hresumes
          have hnormal := NormalPath.normal_of_resolve? hp (includeTarget_eq_ok.1 hq)
          refine ih (hroom.push hp hnew hd) hnormal ?_ hresumes
          rw [List.map_cons, List.reverse_cons, hactive]

/-- **Over a store the steps end as the walk does**, taken to any depth that
is beyond the number of documents. -/
theorem ends_walk {depth : Nat} (h : r.count < depth) :
    Ends (reader r) (start files) (forEach configuredTarget (expand r depth []) files {}) := by
  have hroom : Room r depth [] :=
    ⟨List.nodup_nil, fun p hp => absurd hp List.not_mem_nil, by rwa [List.length_nil, Nat.zero_add]⟩
  have hrun : Resumes (reader r) (fun progress => ⟨none, [], [], progress⟩)
      (forEach configuredTarget (expand r depth []) files {})
      (forEach configuredTarget (expand r depth []) files {}) := by
    rcases forEach configuredTarget (expand r depth []) files {} with ⟨progress, _ | e⟩
    · exact .now rfl
    · rfl
  refine ends_forEach (fun files progress => ⟨none, [], files, progress⟩) (fun _ _ => rfl)
    (fun _ _ _ => rfl) ?_ hrun
  intro file files q before o hq hresumes
  have hnormal := NormalPath.normal_of_ofText? (configuredTarget_eq_ok.1 hq)
  exact ends_expand hroom hnormal rfl hresumes

theorem ends_run : Ends (reader r) (start files) (run r files) :=
  ends_walk (Nat.lt_succ_self _)

/-- There are no more documents in a store than there are. -/
theorem hasAtMost_count (r : Resources) : HasAtMost (reader r) r.count := by
  intro paths hnodup hreads
  refine r.length_le_count hnodup fun p hp => ?_
  obtain ⟨hnormal, d, hd⟩ := hreads p hp
  obtain ⟨bytes, hbytes, -⟩ := Resources.document_eq_ok_iff.1 hd
  exact ⟨hnormal, bytes, hbytes⟩

/-- **The recursion ends**, whatever the documents hold and however they
include each other. However documents are had, as long as there are only so
many of them: at no moment is a path being expanded twice, or are more calls
within each other than there are documents but for the one just made, and no
path is asked for twice. Over a store the one way these steps end is the
outcome of the walk, which a greater depth does not change, and no place is
read twice, whatever the spellings that lead to it. -/
theorem recursion_ends :
    (∀ read n files, HasAtMost read n →
      (∃ o, Ends read (start files) o ∧ o.1.opened.Nodup) ∧
        ∀ m, Reaches read (start files) m → m.active.Nodup ∧ m.depth ≤ n + 1 ∧
          m.progress.opened.Nodup ∧ m.progress.opened.length ≤ n) ∧
      ∀ r files, HasAtMost (reader r) r.count ∧
        (∀ o, Ends (reader r) (start files) o ↔ o = run r files) ∧
        (∀ depth, r.count < depth →
          forEach configuredTarget (expand r depth []) files {} = run r files) ∧
        ((run r files).1.opened.map fun p => r.place p.text).Nodup ∧
        ∀ path bytes, r.read path = .ok bytes → r.contentsAt? (r.place path) = some bytes := by
  refine ⟨fun read n files hread => ⟨?_, fun m hreach => ?_⟩, fun r files =>
    ⟨hasAtMost_count r, fun o => ⟨fun h => h.unique ends_run, ?_⟩,
      fun depth hdepth => (ends_walk hdepth).unique ends_run, ?_,
      fun path bytes => Resources.contentsAt?_place⟩⟩
  · obtain ⟨o, ho⟩ := (Sound.start files).exists_ends hread
    exact ⟨o, ho, ((Sound.start files).nodup_opened ho).1⟩
  · have hsound := (Sound.start files).reaches hreach
    exact ⟨List.nodup_reverse.2 hsound.nodup, hsound.depth_le hread, hsound.opened_nodup,
      hsound.length_opened_le hread⟩
  · rintro rfl
    exact ends_run
  · obtain ⟨hnodup, hnormal⟩ := (Sound.start files).nodup_opened (ends_run (r := r))
    exact hnodup.map_on fun p hp q hq hplace =>
      Resources.place_injective (hnormal p hp) (hnormal q hq) hplace

/-- Two documents that include each other, under spellings of their own. -/
def coiled : Resources :=
  .memory [("a.json", Text.encode "\x7b\"include\":[\"./b.json\",\"b.json\"]\x7d"),
    ("b.json", Text.encode "\x7b\"include\":[\"x/../a.json\"]\x7d")]

/-- The documents of `coiled` as they are read. -/
def coiledDocuments : MetadataDocument × MetadataDocument :=
  ({ includes := ["./b.json", "b.json"] }, { includes := ["x/../a.json"] })

/-- A document is met again while two are being expanded. -/
def coiledUp : Moment where
  calling := some ⟨["a.json"]⟩
  expanding := [⟨⟨["b.json"]⟩, coiledDocuments.2, []⟩,
    ⟨⟨["a.json"]⟩, coiledDocuments.1, ["b.json"]⟩]
  files := ["b.json"]
  progress := { opened := [⟨["a.json"]⟩, ⟨["b.json"]⟩] }

/-- There the walk ends at the third call, each document having been asked
for once. That is as deep as two documents let it go. -/
theorem recursion_ends_coiled :
    HasAtMost (reader coiled) 2 ∧
      Ends (reader coiled) (start ["/a.json", "b.json"]) (⟨[⟨["a.json"]⟩, ⟨["b.json"]⟩], []⟩,
        some (.configuration (.cyclicInclude "a.json" ["a.json", "b.json", "a.json"]))) ∧
      Reaches (reader coiled) (start ["/a.json", "b.json"]) coiledUp ∧
      coiledUp.active.Nodup ∧ coiledUp.depth = 3 ∧ coiledUp.depth ≤ 2 + 1 := by
  obtain ⟨hmoments, hstore⟩ := recursion_ends
  obtain ⟨hcount, hends, -⟩ := hstore coiled ["/a.json", "b.json"]
  obtain ⟨-, hup⟩ := hmoments (reader coiled) 2 ["/a.json", "b.json"] hcount
  have hreaches : Reaches (reader coiled) (start ["/a.json", "b.json"]) coiledUp :=
    reaches_of_after? (k := 5) (by decide +kernel)
  obtain ⟨hnodup, hdepth, -⟩ := hup coiledUp hreaches
  exact ⟨hcount, (hends _).2 (by decide +kernel), hreaches, hnodup, rfl, hdepth⟩

end IncludeWalk

end AttributeCache
