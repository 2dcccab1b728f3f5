import AttributeCache.Configuration.Merge
import AttributeCache.Proofs.Configuration.Recursion
/-!
# A visitor in the walk

The views of the documents are folds over what the walk has visited, taken
once it has ended. Here a visitor is called in the walk itself, each time
the walk is done with a document, and its first error ends the walk: what
would be asked for behind it is not asked for any more. What comes of it is
the same (`comes_iff_afterWalk`). The visitor meets the documents of the fold
in their order, and in a fold an error counts before whatever befell the
walk behind it.

A step reads one document at most, the one it asks for, and how other
documents are had is nothing to it (`Moment.step_congr`). So a walk whose
documents are had now one way and now another is a walk over documents that
are had in one way (`Visit.Reaches.congr`).
-/

namespace AttributeCache

namespace IncludeWalk

variable {σ : Type} {read read' : Reader} {m next : Moment} {o : Outcome}

/-! ## What a step is about -/

namespace Moment

/-- The document the next step is done with. -/
def finished? (m : Moment) : Option (NormalPath × MetadataDocument) :=
  match m.calling, m.expanding with
  | none, ⟨path, d, []⟩ :: _ => some (path, d)
  | _, _ => none

/-- The document the next step asks for. -/
def asks? (m : Moment) : Option NormalPath :=
  m.calling.filter fun path => !m.active.contains path && !m.progress.isDone path

theorem asks?_eq_some_iff {path : NormalPath} : m.asks? = some path ↔
    m.calling = some path ∧ path ∉ m.paths ∧ m.progress.isDone path = false := by
  rw [asks?, Option.filter_eq_some_iff, Bool.and_eq_true, Bool.not_eq_true', Bool.not_eq_true',
    List.contains_eq_mem, decide_eq_false_iff_not, active, List.mem_reverse]

/-- A step visits the document it is done with. -/
theorem visited_of_goesOn (h : m.step read = .goesOn next) :
    next.progress.visited = m.progress.visited ++ m.finished?.toList := by
  cases steps_of_step h with
  | visit => rfl
  | _ => exact (List.append_nil _).symm

/-- It opens the document it asks for. -/
theorem opened_of_goesOn (h : m.step read = .goesOn next) :
    next.progress.opened = m.progress.opened ++ m.asks?.toList := by
  obtain ⟨calling, expanding, files, progress⟩ := m
  cases calling with
  | none => cases steps_of_step h <;> exact (List.append_nil _).symm
  | some path =>
    rcases enter_cases read ⟨some path, expanding, files, progress⟩ path with
      ⟨-, e, hcall⟩ | ⟨-, hdone, hcall⟩ | ⟨hnew, hdone, ⟨e, -, hcall⟩ | ⟨d, -, hcall⟩⟩
    all_goals cases hcall.symm.trans h
    · have hnone : asks? ⟨some path, expanding, files, progress⟩ = none := by
        simp [asks?, hdone]
      rw [hnone]
      exact (List.append_nil _).symm
    · rw [asks?_eq_some_iff.2 ⟨rfl, hnew, hdone⟩]
      rfl

/-- **What the last step comes to.** There is nothing left to do, or it fails
and is done with no document. -/
theorem cases_of_ends (h : m.step read = .ends o) :
    m.calling = none ∧ m.expanding = [] ∧ m.files = [] ∧ o = (m.progress, none) ∨
      m.finished? = none ∧ o.1.visited = m.progress.visited ∧ ∃ e, o.2 = some e := by
  obtain ⟨calling, expanding, files, progress⟩ := m
  cases calling with
  | some path =>
    refine .inr ⟨rfl, ?_⟩
    rcases enter_cases read ⟨some path, expanding, files, progress⟩ path with
      ⟨-, e, hcall⟩ | ⟨-, -, hcall⟩ | ⟨-, -, ⟨e, -, hcall⟩ | ⟨d, -, hcall⟩⟩
    · cases hcall.symm.trans h
      exact ⟨rfl, e, rfl⟩
    · cases hcall.symm.trans h
    · cases hcall.symm.trans h
      exact ⟨rfl, e, rfl⟩
    · cases hcall.symm.trans h
  | none =>
    rcases expanding with _ | ⟨⟨path, d, _ | ⟨name, targets⟩⟩, outer⟩
    · rcases files with _ | ⟨file, files⟩
      · cases h
        exact .inl ⟨rfl, rfl, rfl, rfl⟩
      · rcases goTo_cases ⟨none, [], files, progress⟩ (configuredTarget file) with
          ⟨target, -, hgo⟩ | ⟨e, hgo⟩
        · cases hgo.symm.trans h
        · cases hgo.symm.trans h
          exact .inr ⟨rfl, rfl, e, rfl⟩
    · cases h
    · rcases goTo_cases ⟨none, ⟨path, d, targets⟩ :: outer, files, progress⟩
          (includeTarget path name) with ⟨target, -, hgo⟩ | ⟨e, hgo⟩
      · cases hgo.symm.trans h
      · cases hgo.symm.trans h
        exact .inr ⟨rfl, rfl, e, rfl⟩

/-- **A step looks at no document but the one it asks for.** -/
theorem step_congr (h : ∀ path ∈ m.asks?, read path = read' path) :
    m.step read = m.step read' := by
  obtain ⟨calling, expanding, files, progress⟩ := m
  cases calling with
  | none =>
    rcases expanding with _ | ⟨⟨path, d, _ | ⟨name, targets⟩⟩, outer⟩
    · cases files <;> rfl
    · rfl
    · rfl
  | some path =>
    have hcall : ∀ read : Reader, step read ⟨some path, expanding, files, progress⟩ =
        enter read ⟨some path, expanding, files, progress⟩ path := fun _ => rfl
    rw [hcall, hcall, enter, enter]
    split
    · rfl
    · rename_i hactive
      split
      · rfl
      · rename_i hdone
        rw [List.contains_iff_mem, active, List.mem_reverse] at hactive
        rw [h path (asks?_eq_some_iff.2 ⟨rfl, hactive, Bool.not_eq_true _ ▸ hdone⟩)]

end Moment

/-- What a walk asks for, it has not opened before. -/
theorem Sound.asks_not_mem (h : Sound read m) {path : NormalPath} (hasks : path ∈ m.asks?) :
    path ∉ m.progress.opened := by
  obtain ⟨-, hnew, hdone⟩ := Moment.asks?_eq_some_iff.1 hasks
  exact h.not_mem_opened hnew hdone

/-! ## The walk with a visitor -/

/-- Takes in a document that was visited. -/
abbrev Visitor (σ : Type) := σ → NormalPath × MetadataDocument → Except ConfigurationError σ

/-- The walk between two steps, and what the visitor has come to. -/
structure Visit (σ : Type) where
  moment : Moment
  state : σ

/-- A step leads on, or something has come of the walk. -/
inductive Visit.Turn (σ : Type) where
  | goesOn (next : Visit σ)
  | ends (result : Except MetadataError σ)

namespace Visit

/-- The beginning of a walk, the visitor being at a state. -/
def start (files : List String) (state : σ) : Visit σ := ⟨.start files, state⟩

/-- One step. The visitor is called where the walk is done with a document,
and nothing is done behind an error of it. -/
def step (visit : Visitor σ) (read : Reader) (v : Visit σ) : Turn σ :=
  match v.moment.step read with
  | .ends (_, some e) => .ends (.error e)
  | .ends (_, none) => .ends (.ok v.state)
  | .goesOn next =>
    match v.moment.finished? with
    | none => .goesOn ⟨next, v.state⟩
    | some entry =>
      match visit v.state entry with
      | .error e => .ends (.error (.configuration e))
      | .ok state => .goesOn ⟨next, state⟩

/-- What comes of the walk from a moment on, in finitely many steps. -/
inductive Comes (visit : Visitor σ) (read : Reader) : Visit σ → Except MetadataError σ → Prop
  | now {v : Visit σ} {result : Except MetadataError σ} : v.step visit read = .ends result →
      Comes visit read v result
  | later {v next : Visit σ} {result : Except MetadataError σ} :
      v.step visit read = .goesOn next → Comes visit read next result →
      Comes visit read v result

/-- One moment comes to another. -/
def Reaches (visit : Visitor σ) (read : Reader) : Visit σ → Visit σ → Prop :=
  Relation.ReflTransGen fun v next => v.step visit read = .goesOn next

variable {visit : Visitor σ} {v w : Visit σ} {result result' : Except MetadataError σ}

theorem Comes.unique (h : Comes visit read v result) (h' : Comes visit read v result') :
    result = result' := by
  induction h with
  | now hstep =>
    cases h' with
    | now hstep' =>
      cases hstep.symm.trans hstep'
      rfl
    | later hstep' _ => cases hstep.symm.trans hstep'
  | later hstep _ ih =>
    cases h' with
    | now hstep' => cases hstep.symm.trans hstep'
    | later hstep' hnext =>
      cases hstep.symm.trans hstep'
      exact ih hnext

theorem Reaches.comes (h : Reaches visit read v w) (hcomes : Comes visit read w result) :
    Comes visit read v result := by
  induction h using Relation.ReflTransGen.head_induction_on with
  | refl => exact hcomes
  | head hstep _ ih => exact .later hstep ih

/-- Without the visitor it is a step of the walk. -/
theorem moment_of_goesOn (h : v.step visit read = .goesOn w) :
    v.moment.step read = .goesOn w.moment := by
  rw [step] at h
  split at h
  · cases h
  · cases h
  · rename_i next hnext
    split at h
    · cases h
      exact hnext
    · split at h
      · cases h
      · cases h
        exact hnext

/-- It is one of no other document than the step of the walk. -/
theorem step_congr (h : ∀ path ∈ v.moment.asks?, read path = read' path) :
    v.step visit read = v.step visit read' := by
  rw [step, step, Moment.step_congr h]

/-- A walk that ends well reads nothing in the end. -/
theorem step_of_ends_ok {state : σ} (h : v.step visit read = .ends (.ok state)) :
    v.step visit read' = .ends (.ok state) := by
  refine (step_congr fun path hpath => ?_).trans h
  obtain ⟨hcalling, -⟩ := Moment.asks?_eq_some_iff.1 hpath
  rw [step] at h
  split at h
  · cases h
  · rename_i progress hlast
    rcases Moment.cases_of_ends hlast with ⟨hnone, -⟩ | ⟨-, -, e, he⟩
    · rw [hnone] at hcalling
      cases hcalling
    · cases he
  · split at h
    · cases h
    · split at h <;> cases h

theorem opened_of_goesOn (h : v.step visit read = .goesOn w) :
    w.moment.progress.opened = v.moment.progress.opened ++ v.moment.asks?.toList :=
  Moment.opened_of_goesOn (moment_of_goesOn h)

/-- Where a walk comes to, it has come to without the visitor too. -/
theorem Reaches.moment (h : Reaches visit read v w) :
    IncludeWalk.Reaches read v.moment w.moment := by
  induction h with
  | refl => exact .refl
  | tail _ hstep ih => exact .tail ih (moment_of_goesOn hstep)

/-- **Where a walk comes to depends on the documents it has opened**, and on
no others. -/
theorem Reaches.congr (h : Reaches visit read v w)
    (hsame : ∀ path ∈ w.moment.progress.opened, read path = read' path) :
    Reaches visit read' v w := by
  induction h with
  | refl => exact .refl
  | tail _ hstep ih =>
    have hopened := opened_of_goesOn hstep
    refine .tail (ih fun path hpath => hsame path ?_) ((step_congr fun path hpath => ?_).symm.trans
      hstep)
    · rw [hopened]
      exact List.mem_append_left _ hpath
    · refine hsame path ?_
      rw [hopened]
      exact List.mem_append_right _ (Option.mem_toList.2 hpath)

/-! ## It is the fold -/

/-- What comes of a fold over what was visited, where the walk ended like
this. -/
def settled (folded : Except ConfigurationError σ) (failure : Option MetadataError) :
    Except MetadataError σ :=
  match folded, failure with
  | .error e, _ => .error (.configuration e)
  | .ok _, some e => .error e
  | .ok a, none => .ok a

/-- **The visitor in the walk does what the fold behind it does**, from any
moment on. -/
theorem exists_comes (h : Ends read m o) (state : σ) :
    ∃ more, o.1.visited = m.progress.visited ++ more ∧
      Comes visit read ⟨m, state⟩ (settled (more.foldlM visit state) o.2) := by
  induction h generalizing state with
  | @now m o hlast =>
    have hvisited : o.1.visited = m.progress.visited := by
      rcases Moment.cases_of_ends hlast with ⟨-, -, -, rfl⟩ | ⟨-, hvisited, -⟩
      · rfl
      · exact hvisited
    refine ⟨[], by rw [hvisited, List.append_nil], .now ?_⟩
    obtain ⟨progress, _ | e⟩ := o
    · simp only [step, hlast]
      rfl
    · simp only [step, hlast]
      rfl
  | @later m next o hstep _ ih =>
    cases hfinished : m.finished? with
    | none =>
      obtain ⟨more, hmore, hcomes⟩ := ih state
      refine ⟨more, ?_, .later ?_ hcomes⟩
      · rw [hmore, Moment.visited_of_goesOn hstep, hfinished, Option.toList_none, List.append_nil]
      · simp only [step, hstep, hfinished]
    | some entry =>
      have hvisited : next.progress.visited = m.progress.visited ++ [entry] := by
        rw [Moment.visited_of_goesOn hstep, hfinished, Option.toList_some]
      cases hentry : visit state entry with
      | error e =>
        -- whatever comes behind is not come to
        obtain ⟨more, hmore, -⟩ := ih state
        refine ⟨entry :: more, ?_, .now ?_⟩
        · rw [hmore, hvisited, List.append_assoc, List.singleton_append]
        · simp only [step, hstep, hfinished, hentry, List.foldlM_cons]
          rfl
      | ok state' =>
        obtain ⟨more, hmore, hcomes⟩ := ih state'
        have hnext : Visit.step visit read ⟨m, state⟩ = .goesOn ⟨next, state'⟩ := by
          simp only [step, hstep, hfinished, hentry]
        refine ⟨entry :: more, ?_, .later hnext ?_⟩
        · rw [hmore, hvisited, List.append_assoc, List.singleton_append]
        · rw [List.foldlM_cons, hentry]
          exact hcomes

end Visit

end IncludeWalk

namespace Configuration

open IncludeWalk

variable {c : Configuration} {σ : Type} {visit : Visitor σ} {state : σ}
variable {result : Except MetadataError σ}

theorem afterWalk_eq_settled (fold : List (NormalPath × MetadataDocument) →
    Except ConfigurationError σ) :
    c.afterWalk fold = Visit.settled (fold c.walk.1.visited) c.walk.2 := by
  rw [afterWalk]
  rcases c.walk with ⟨progress, _ | e⟩
  all_goals
    dsimp only
    cases fold progress.visited <;> rfl

/-- **A fold behind the walk is a visitor in the walk.** A visitor that is
called for each document in its turn, and whose first error ends the walk,
comes to what the fold over all that was visited comes to, and to nothing
else. -/
theorem comes_iff_afterWalk : Visit.Comes visit (reader c.resources)
    (Visit.start c.sources.metadataFiles state) result ↔
      result = c.afterWalk fun visited => visited.foldlM visit state := by
  have hends : Ends (reader c.resources) (.start c.sources.metadataFiles) c.walk := ends_run
  obtain ⟨more, hmore, hcomes⟩ : ∃ more, c.walk.1.visited = [] ++ more ∧
      Visit.Comes visit (reader c.resources) (Visit.start c.sources.metadataFiles state)
        (Visit.settled (more.foldlM visit state) c.walk.2) := Visit.exists_comes hends state
  have hvisited : c.walk.1.visited = more := hmore
  rw [afterWalk_eq_settled, hvisited]
  constructor
  · exact fun h => h.unique hcomes
  · rintro rfl
    exact hcomes

end Configuration

end AttributeCache
