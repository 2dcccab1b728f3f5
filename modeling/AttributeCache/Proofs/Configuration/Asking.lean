import AttributeCache.Proofs.Configuration.DepthFirst
import AttributeCache.Proofs.Resources.Confinement
/-!
# What a walk asks for

A walk asks its store for one document after the other, whether it succeeds
or not. It asks for nothing else (`run_congr`): over a store that answers
alike on these the walk is the same. And it asks only for what the
configured files reach, so every path handed to the store is in normal form,
over however many includes it was come to.

Both are read off the recursion by one argument (`Carries`): what survives
asking for a document and being done with one holds in the end.
-/

namespace AttributeCache

/-- What is made of a document depends on what is read and nothing else. -/
theorem Resources.document_congr {α : Type} {r r' : Resources} {path : String}
    {read : Nat → Json.Tree → Except Json.Fault α} (h : r'.read path = r.read path) :
    r'.document read path = r.document read path := by
  rw [document, document, h]

namespace IncludeWalk

open IncludeGraph

variable {r r' : Resources} {files names : List String} {p q : NormalPath}
variable {active : List NormalPath} {progress : Progress} {depth : Nat}
variable {target? : String → Except MetadataError NormalPath}
variable {go go' : NormalPath → Progress → Outcome}

/-! ## What holds all along -/

/-- What is true of the progress from a step to the next, as long as only
such paths are come to as are asked for. -/
structure Carries (r : Resources) (Asks : NormalPath → Prop) (Holds : Progress → Prop) : Prop where
  /-- What one of them includes is one of them. -/
  includes : ∀ {p q}, Asks p → Includes r p q → Asks q
  ask : ∀ {p progress}, Asks p → Holds progress →
    Holds { progress with opened := progress.opened ++ [p] }
  visit : ∀ {x progress}, Holds progress →
    Holds { progress with visited := progress.visited ++ [x] }

/-- What each target keeps true, all of them do. -/
theorem forEach_holds (Holds : Progress → Prop)
    (hgo : ∀ name ∈ names, ∀ q before, target? name = .ok q → Holds before →
      Holds (go q before).1)
    (h : Holds progress) : Holds (forEach target? go names progress).1 := by
  induction names generalizing progress with
  | nil => exact h
  | cons name rest ih =>
    rw [forEach]
    split
    · exact h
    · rename_i q hq
      have hfirst := hgo name List.mem_cons_self q progress hq h
      split
      · rename_i hfailed
        rw [hfailed] at hfirst
        exact hfirst
      · rename_i between hbetween
        rw [hbetween] at hfirst
        exact ih (fun name hname => hgo name (List.mem_cons_of_mem _ hname)) hfirst

/-- **It holds behind every call**, however the call ends. -/
theorem Carries.expand {Asks : NormalPath → Prop} {Holds : Progress → Prop}
    (hcarries : Carries r Asks Holds) (hp : Asks p) (h : Holds progress) :
    Holds (expand r depth active p progress).1 := by
  induction depth generalizing active p progress with
  | zero => exact h
  | succ depth ih =>
    rw [IncludeWalk.expand]
    split
    · exact h
    · split
      · exact h
      · have hopen := hcarries.ask hp h
        dsimp only
        split
        · exact hopen
        · rename_i d hd
          have hbelow : Holds (forEach (includeTarget p)
              (IncludeWalk.expand r depth (active ++ [p])) d.targets
              { progress with opened := progress.opened ++ [p] }).1 := by
            refine forEach_holds Holds (fun target htarget q before hq hbefore => ?_) hopen
            have hedge : Includes r p q :=
              ⟨d, hd, target, MetadataDocument.mem_targets.1 htarget, includeTarget_eq_ok.1 hq⟩
            exact ih (hcarries.includes hp hedge) hbefore
          split
          · rename_i hfailed
            rw [hfailed] at hbelow
            exact hbelow
          · rename_i between hbetween
            rw [hbetween] at hbelow
            exact hcarries.visit hbelow

/-! ## Only what is reached -/

/-- **A walk asks only for what the configured files reach.** -/
theorem reachable_of_mem_opened (h : p ∈ (run r files).1.opened) : Reachable r files p := by
  have hcarries : Carries r (Reachable r files)
      fun progress => ∀ q ∈ progress.opened, Reachable r files q :=
    { includes := Reachable.includes
      ask := by
        intro p progress hp hall q hq
        rcases List.mem_append.1 hq with hq | hq
        · exact hall q hq
        · rwa [List.mem_singleton.1 hq]
      visit := fun hall => hall }
  have hrun : ∀ q ∈ (run r files).1.opened, Reachable r files q := by
    refine forEach_holds (fun progress => ∀ q ∈ progress.opened, Reachable r files q)
      (fun file hfile q before hq hbefore => ?_) (List.forall_mem_nil _)
    have hconfigured : Configured files q := ⟨file, hfile, configuredTarget_eq_ok.1 hq⟩
    exact hcarries.expand ⟨q, hconfigured, .refl⟩ hbefore
  exact hrun p h

/-! ## And of nothing else -/

/-- What was asked for stays asked for. -/
theorem subset_opened_expand : progress.opened ⊆ (expand r depth active p progress).1.opened := by
  have hcarries : Carries r (fun _ => True) fun after => progress.opened ⊆ after.opened :=
    { includes := fun _ _ => trivial
      ask := fun _ h => List.subset_append_of_subset_left _ h
      visit := fun h => h }
  exact hcarries.expand trivial (List.Subset.refl _)

theorem subset_opened_forEach
    (hsubset : ∀ q before, before.opened ⊆ (go q before).1.opened) :
    progress.opened ⊆ (forEach target? go names progress).1.opened :=
  forEach_holds (fun after => progress.opened ⊆ after.opened)
    (fun _ _ q before _ hbefore => List.Subset.trans hbefore (hsubset q before))
    (List.Subset.refl _)

/-- Targets are gone through alike if each is, as far as it comes to them. -/
theorem forEach_congr {Same : NormalPath → Prop}
    (hsubset : ∀ q before, before.opened ⊆ (go q before).1.opened)
    (hgo : ∀ q before, (∀ a ∈ (go q before).1.opened, Same a) → go' q before = go q before)
    (h : ∀ a ∈ (forEach target? go names progress).1.opened, Same a) :
    forEach target? go' names progress = forEach target? go names progress := by
  induction names generalizing progress with
  | nil => rfl
  | cons name rest ih =>
    rw [forEach] at h ⊢
    rw [forEach]
    cases htarget : target? name with
    | error e => rfl
    | ok q =>
      rw [htarget] at h
      dsimp only at h ⊢
      cases hfirst : go q progress with
      | mk between failure =>
        rw [hfirst] at h
        have hsame : ∀ a ∈ between.opened, Same a := by
          cases failure with
          | some e => exact h
          | none => exact fun a ha => h a (subset_opened_forEach hsubset ha)
        have hfirst' : go' q progress = (between, failure) := by
          rw [hgo q progress (by rw [hfirst]; exact hsame), hfirst]
        rw [hfirst']
        cases failure with
        | some e => rfl
        | none => exact ih h

/-- A document is expanded alike over stores that agree on what is asked
for. -/
theorem expand_congr (h : ∀ q ∈ (expand r depth active p progress).1.opened,
    r'.read q.text = r.read q.text) :
    expand r' depth active p progress = expand r depth active p progress := by
  induction depth generalizing active p progress with
  | zero => rfl
  | succ depth ih =>
    rw [expand] at h
    rw [expand, expand]
    by_cases hactive : active.contains p = true
    · rw [if_pos hactive, if_pos hactive]
    · rw [if_neg hactive] at h ⊢
      rw [if_neg hactive]
      by_cases hdone : progress.isDone p = true
      · rw [if_pos hdone, if_pos hdone]
      · rw [if_neg hdone] at h ⊢
        rw [if_neg hdone]
        dsimp only at h ⊢
        have hlast : p ∈ progress.opened ++ [p] :=
          List.mem_append_right _ (List.mem_singleton_self p)
        cases hd : r.document MetadataDocument.ofTree p.text with
        | error e =>
          rw [hd] at h
          rw [Resources.document_congr (h p hlast), hd]
        | ok d =>
          rw [hd] at h
          dsimp only at h
          cases hbelow : forEach (includeTarget p) (expand r depth (active ++ [p])) d.targets
              { progress with opened := progress.opened ++ [p] } with
          | mk between failure =>
            rw [hbelow] at h
            have hsame : ∀ a ∈ between.opened, r'.read a.text = r.read a.text := by
              cases failure <;> exact h
            have hkept : progress.opened ++ [p] ⊆ between.opened := by
              have hsubset : Progress.opened { progress with opened := progress.opened ++ [p] } ⊆
                  (forEach (includeTarget p) (expand r depth (active ++ [p])) d.targets
                    { progress with opened := progress.opened ++ [p] }).1.opened :=
                subset_opened_forEach fun _ _ => subset_opened_expand
              rwa [hbelow] at hsubset
            have hbelow' : forEach (includeTarget p) (expand r' depth (active ++ [p])) d.targets
                { progress with opened := progress.opened ++ [p] } = (between, failure) := by
              rw [← hbelow]
              refine forEach_congr (fun _ _ => subset_opened_expand) (fun _ _ => ih) ?_
              rw [hbelow]
              exact hsame
            rw [Resources.document_congr (hsame p (hkept hlast)), hd]
            dsimp only
            rw [hbelow', hbelow]

/-- **A walk asks for nothing else.** Over a store of as many documents that
answers alike on what it asked for the walk is the same. -/
theorem run_congr (hcount : r'.count = r.count)
    (h : ∀ p ∈ (run r files).1.opened, r'.read p.text = r.read p.text) :
    run r' files = run r files := by
  rw [run, hcount]
  exact forEach_congr (fun _ _ => subset_opened_expand) (fun _ _ => expand_congr) h

/-! ## Confinement -/

open NormalPath in
/-- **No path leads out.** A text has a normal form unless it climbs out, and
the normal forms are those texts that are their own. All a walk asks its store for are
paths in normal form, each include being taken from where its document was
come to, and a directory opens these as they are. Whatever text a directory
is asked for, from a walk or not, it refuses one with `..` in it, and opens
for any other its root with a path behind it that only leads down. -/
theorem asks_below_root :
    (∀ s, ofText? s = none ↔ ClimbsOut (Text.pieces '/' s)) ∧
      (∀ s p, ofText? s = some p → InNormalForm p.text ∧ ofText? p.text = some p) ∧
      (∀ s, InNormalForm s ↔ (ofText? s).map text = some s) ∧
      (∀ r files, ∀ p ∈ (run r files).1.opened, InNormalForm p.text ∧
        ofText? p.text = some p ∧
        (∀ target, p.resolve? target = ofText? (p.fromRoot target)) ∧
        ∀ tree root, ".." ∉ Text.pieces '/' (Resources.relative p.text) ∧
          (Resources.directory tree root).read p.text =
            tree.read (Resources.below root p.text)) ∧
      (∀ r r' files, r'.count = r.count →
        (∀ p ∈ (run r files).1.opened, r'.read p.text = r.read p.text) →
        run r' files = run r files) ∧
      ∀ tree root path, (Resources.relative path).toList.head? ≠ some '/' ∧
        (".." ∈ Text.pieces '/' (Resources.relative path) →
          (Resources.directory tree root).read path = .error .missing) ∧
        (".." ∉ Text.pieces '/' (Resources.relative path) →
          (Resources.directory tree root).read path =
            tree.read (Resources.below root (Resources.relative path)) ∧
          ∀ bytes, (Resources.directory tree root).read path = .ok bytes →
            ∃ start, ofText? root = some start ∧
              tree.file? (start.segments ++ FileTree.segmentsOf (Resources.relative path)) =
                some bytes) := by
  refine ⟨fun s => ofText?_eq_none_iff, fun s p h => ?_, fun s => inNormalForm_iff,
    fun r files p hopened => ?_,
    fun r r' files hcount h => run_congr hcount h, fun tree root path =>
      ⟨Resources.head?_relative_ne_slash, fun hup => Resources.read_directory_of_mem hup tree root,
        fun hup => ?_⟩⟩
  · have hnormal : p.Normal := normal_of_ofText? h
    exact ⟨inNormalForm_text hnormal, ofText?_text hnormal⟩
  · have hnormal : p.Normal := (reachable_of_mem_opened hopened).normal
    have hup := Resources.up_not_mem_relative_text hnormal
    refine ⟨inNormalForm_text hnormal, ofText?_text hnormal, resolve?_eq_ofText? hnormal,
      fun tree root => ⟨hup, ?_⟩⟩
    rw [Resources.read_directory_of_not_mem hup, relative_text hnormal]
  · have hopen := Resources.read_directory_of_not_mem hup tree root
    exact ⟨hopen, fun bytes hread => Resources.exists_file?_of_read_below hup (hopen ▸ hread)⟩

/-- A directory with a document that includes two beside its own directory
and one that would stand outside, where there is a file. -/
def fencedFiles (outside : String) : FileTree where
  files := [
    (["srv", "conf", "shop", "main.json"], Text.encode
      "\x7b\"include\":[\"../base.json\",\"/shop/./../extra.json\",\"../../key\"]\x7d"),
    (["srv", "conf", "base.json"], Text.encode "\x7b\x7d"),
    (["srv", "conf", "extra.json"], Text.encode "\x7b\x7d"),
    (["srv", "key"], Text.encode outside)]
  directories := [["srv"], ["srv", "conf"], ["srv", "conf", "shop"]]

def fenced (outside : String) : Resources :=
  .directory (fencedFiles outside) "srv/./conf"

open NormalPath in
/-- What stands outside is neither come to nor read, and does not change the
walk. What is read below the directory stands there. -/
theorem asks_below_root_fenced :
    (run (fenced "secret") ["shop//main.json"]).1.opened =
        [⟨["shop", "main.json"]⟩, ⟨["base.json"]⟩, ⟨["extra.json"]⟩] ∧
      (run (fenced "secret") ["shop//main.json"]).2 =
        some (.configuration (.invalidInclude "shop/main.json" "../../key")) ∧
      ClimbsOut (Text.pieces '/' "shop/../../key") ∧ InNormalForm "shop/main.json" ∧
      run (fenced "changed") ["shop//main.json"] = run (fenced "secret") ["shop//main.json"] ∧
      (fenced "secret").read "shop/../../key" = .error .missing ∧
      ∃ start, ofText? "srv/./conf" = some start ∧
        (fencedFiles "secret").file? (start.segments ++ ["base.json"]) =
          some (Text.encode "\x7b\x7d") := by
  have hopened : (run (fenced "secret") ["shop//main.json"]).1.opened =
      [⟨["shop", "main.json"]⟩, ⟨["base.json"]⟩, ⟨["extra.json"]⟩] := by decide +kernel
  obtain ⟨hclimbs, -, -, hasks, hsame, hread⟩ := asks_below_root
  refine ⟨hopened, by decide +kernel, (hclimbs _).1 (by decide), ?_, ?_, ?_, ?_⟩
  · exact (hasks _ _ ⟨["shop", "main.json"]⟩ (hopened ▸ List.mem_cons_self)).1
  · refine hsame _ _ _ rfl ?_
    rw [hopened]
    decide +kernel
  · exact (hread (fencedFiles "secret") "srv/./conf" "shop/../../key").2.1 (by decide)
  · obtain ⟨-, -, hdown⟩ := hread (fencedFiles "secret") "srv/./conf" "/base.json"
    exact (hdown (by decide)).2 (Text.encode "\x7b\x7d") (by decide +kernel)

end IncludeWalk

end AttributeCache
