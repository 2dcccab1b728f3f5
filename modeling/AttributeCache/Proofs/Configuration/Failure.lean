import AttributeCache.Proofs.Configuration.Views
import Mathlib.Data.List.Chain
/-!
# Why a walk fails

A walk fails for one of four reasons (`Fault`), and each time the reason is
there: the failure names what is wrong. For a cycle that is more than a
name: the documents being expanded are a trail from a configured file, each
included by the one before (`Trail`), and what was done with on the way,
whatever its shape, is no longer on it.

What is merged from the visited documents fails for reasons of its own
(`MergeFault`), and none of them is about includes. So the namespaces fail
with the walk, or for one of those.
-/

namespace AttributeCache

/-- A document that fails to be read has not said anything wrong. -/
theorem Resources.document_ne_configuration {α : Type} {r : Resources} {path : String}
    {read : Nat → Json.Tree → Except Json.Fault α} {f : ConfigurationError} :
    r.document read path ≠ .error (.configuration f) := by
  unfold document
  split
  · simp
  · simp
  · split <;> simp

namespace IncludeWalk

open IncludeGraph

variable {r : Resources} {files : List String} {p q : NormalPath} {active : List NormalPath}
variable {progress progress' : Progress} {depth : Nat} {e : MetadataError}

/-! ## The documents being expanded -/

/-- The documents being expanded, and the one at hand. -/
inductive Trail (r : Resources) (files : List String) : List NormalPath → NormalPath → Prop
  /-- It starts with what a configured file leads to. -/
  | configured {p : NormalPath} : Configured files p → Trail r files [] p
  /-- A document is expanded where it is not being expanded yet, and what it
  includes is at hand next. -/
  | step {active : List NormalPath} {p q : NormalPath} :
      Trail r files active p → p ∉ active → Includes r p q → Trail r files (active ++ [p]) q

namespace Trail

theorem reachable (h : Trail r files active p) : Reachable r files p := by
  induction h with
  | configured hp => exact ⟨_, hp, .refl⟩
  | step _ _ hq ih => exact ih.includes hq

/-- Everything on it is normal. -/
theorem normal (h : Trail r files active p) : ∀ q ∈ active, q.Normal := by
  induction h with
  | configured => exact fun q hq => absurd hq List.not_mem_nil
  | step hp _ _ ih =>
    intro q hq
    rcases List.mem_append.1 hq with hq | hq
    · exact ih q hq
    · rw [List.mem_singleton.1 hq]
      exact hp.reachable.normal

theorem nodup (h : Trail r files active p) : active.Nodup := by
  induction h with
  | configured => exact List.nodup_nil
  | step _ hp _ ih =>
    rw [← List.concat_eq_append]
    exact ih.concat hp

/-- Its documents are told apart by their texts too. -/
theorem nodup_text (h : Trail r files active p) : (active.map NormalPath.text).Nodup :=
  h.nodup.map_on fun q hq q' hq' => NormalPath.text_injective (h.normal q hq) (h.normal q' hq')

theorem exists_first (h : Trail r files active p) :
    ∃ first, (active ++ [p]).head? = some first ∧ Configured files first := by
  induction h with
  | configured hp => exact ⟨_, rfl, hp⟩
  | step _ _ _ ih =>
    obtain ⟨first, hfirst, hconfigured⟩ := ih
    refine ⟨first, ?_, hconfigured⟩
    rw [List.head?_append, hfirst]
    rfl

theorem isChain (h : Trail r files active p) : (active ++ [p]).IsChain (Includes r) := by
  induction h with
  | configured => exact .singleton _
  | step _ _ hq ih =>
    refine ih.append ((.singleton _)) fun x hx y hy => ?_
    rw [List.getLast?_concat, Option.mem_some_iff] at hx
    rw [List.head?_singleton, Option.mem_some_iff] at hy
    exact hx ▸ hy ▸ hq

/-- Everything on it leads to the document at hand. -/
theorem transGen (h : Trail r files active p) :
    ∀ q ∈ active, Relation.TransGen (Includes r) q p := by
  induction h with
  | configured => exact fun q hq => absurd hq List.not_mem_nil
  | step _ _ hq ih =>
    intro a ha
    rcases List.mem_append.1 ha with ha | ha
    · exact (ih a ha).tail hq
    · rw [List.mem_singleton.1 ha]
      exact .single hq

end Trail

/-! ## The four reasons -/

/-- What a walk may fail for. -/
inductive Fault (r : Resources) (files : List String) : MetadataError → Prop
  /-- A configured file climbs above the root. -/
  | configured {file : String} : file ∈ files → NormalPath.ofText? file = none →
      Fault r files (.configuration (.invalidInclude file file))
  /-- A document that is reached cannot be had, or is not well formed. -/
  | document {p : NormalPath} {e : MetadataError} : Reachable r files p →
      r.document MetadataDocument.ofTree p.text = .error e → Fault r files e
  /-- An include of one climbs above the root. -/
  | included {p : NormalPath} {d : MetadataDocument} {target : String} : Reachable r files p →
      Reads r p d → d.Names target → p.resolve? target = none →
      Fault r files (.configuration (.invalidInclude p.text target))
  /-- One of those being expanded is met again. -/
  | cyclic {active : List NormalPath} {p : NormalPath} : Trail r files active p → p ∈ active →
      Fault r files
        (.configuration (.cyclicInclude p.text ((active ++ [p]).map NormalPath.text)))

/-- One of the names leads nowhere, or to where the failure is. -/
theorem exists_failing_of_forEach {target? : String → Except MetadataError NormalPath}
    {go : NormalPath → Progress → Outcome} {names : List String}
    (h : forEach target? go names progress = (progress', some e)) :
    ∃ name ∈ names, target? name = .error e ∨
      ∃ q before after, target? name = .ok q ∧ go q before = (after, some e) := by
  induction names generalizing progress with
  | nil => exact nomatch h
  | cons name rest ih =>
    rw [forEach] at h
    split at h
    · rename_i e' hname
      cases h
      exact ⟨name, List.mem_cons_self, .inl hname⟩
    · rename_i q hq
      split at h
      · rename_i after e' hafter
        cases h
        exact ⟨name, List.mem_cons_self, .inr ⟨q, progress, _, hq, hafter⟩⟩
      · obtain ⟨other, hother, hfails⟩ := ih h
        exact ⟨other, List.mem_cons_of_mem _ hother, hfails⟩

theorem includeTarget_eq_error {target : String} (h : includeTarget p target = .error e) :
    p.resolve? target = none ∧ e = .configuration (.invalidInclude p.text target) := by
  unfold includeTarget at h
  split at h
  · exact nomatch h
  · rename_i hnone
    cases h
    exact ⟨hnone, rfl⟩

theorem configuredTarget_eq_error {file : String} (h : configuredTarget file = .error e) :
    NormalPath.ofText? file = none ∧ e = .configuration (.invalidInclude file file) := by
  unfold configuredTarget at h
  split at h
  · exact nomatch h
  · rename_i hnone
    cases h
    exact ⟨hnone, rfl⟩

/-- **Where the expansion of a document fails there is a reason.** -/
theorem fault_of_expand (htrail : Trail r files active p)
    (h : expand r depth active p progress = (progress', some e)) : Fault r files e := by
  -- on the depth; what is handed down is the trail, longer by the document at hand
  induction depth generalizing active p progress progress' with
  | zero =>
    rw [expand] at h
    cases h
  | succ depth ih =>
    rw [expand] at h
    split at h
    · rename_i hactive
      cases h
      exact .cyclic htrail (List.contains_iff_mem.1 hactive)
    · rename_i hactive
      have hp : p ∉ active := fun hin => hactive (List.contains_iff_mem.2 hin)
      split at h
      · cases h
      · simp only at h
        split at h
        · rename_i e' hread
          cases h
          exact .document htrail.reachable hread
        · rename_i d hd
          split at h
          · rename_i between e' hbelow
            cases h
            obtain ⟨target, htarget, hnowhere | ⟨q, before, after, hq, hgo⟩⟩ :=
              exists_failing_of_forEach hbelow
            · obtain ⟨hnone, rfl⟩ := includeTarget_eq_error hnowhere
              exact .included htrail.reachable hd (MetadataDocument.mem_targets.1 htarget) hnone
            · have hedge : Includes r p q :=
                ⟨d, hd, target, MetadataDocument.mem_targets.1 htarget, includeTarget_eq_ok.1 hq⟩
              exact ih (htrail.step hp hedge) hgo
          · cases h

/-- And where a walk fails. -/
theorem fault_of_run (h : run r files = (progress, some e)) : Fault r files e := by
  obtain ⟨file, hfile, hnowhere | ⟨q, before, after, hq, hgo⟩⟩ := exists_failing_of_forEach h
  · obtain ⟨hnone, rfl⟩ := configuredTarget_eq_error hnowhere
    exact .configured hfile hnone
  · exact fault_of_expand (.configured ⟨file, hfile, configuredTarget_eq_ok.1 hq⟩) hgo

end IncludeWalk

open Folding IncludeGraph IncludeWalk

/-! ## What merging fails for -/

/-- A fault in what the documents say, apart from what they include. -/
inductive MergeFault : ConfigurationError → Prop
  | blankRootPackage (path : String) : MergeFault (.blankRootPackage path)
  | missingPersistenceUnit (path : String) : MergeFault (.missingPersistenceUnit path)
  | duplicateMember (member owner : String) : MergeFault (.duplicateMember member owner)
  | noOwningNamespace (member : String) : MergeFault (.noOwningNamespace member)

namespace NamespaceMap

variable {m : NamespaceMap} {position : Nat} {member path : String} {f : ConfigurationError}

theorem mergeFault_of_insert (h : m.insert position member = .error f) : MergeFault f := by
  unfold insert at h
  split at h
  · cases h
    exact .duplicateMember _ _
  · exact nomatch h

theorem mergeFault_of_addModel {model : Model} (h : m.addModel path model = .error f) :
    MergeFault f := by
  unfold addModel at h
  simp only at h
  split at h
  · cases h
    exact .blankRootPackage _
  · exact error_of_foldlM (fun _ _ _ => mergeFault_of_insert) h

theorem mergeFault_of_addDocument {entry : NormalPath × MetadataDocument}
    (h : m.addDocument entry = .error f) : MergeFault f :=
  error_of_foldlM (fun _ _ _ => mergeFault_of_addModel) h

theorem mergeFault_of_addPersistent (h : m.addPersistent member = .error f) : MergeFault f := by
  unfold addPersistent at h
  split at h
  · cases h
    exact .noOwningNamespace _
  · exact mergeFault_of_insert h

end NamespaceMap

namespace Configuration

variable {c : Configuration} {m : NamespaceMap} {path : String} {e : MetadataError}

theorem mergeFault_of_addPersistence {f : ConfigurationError}
    (h : c.addPersistence m path = .error (.configuration f)) : MergeFault f := by
  unfold addPersistence at h
  cases hread : c.resources.document PersistenceDocument.ofTree path with
  | error e =>
    rw [hread] at h
    cases h
    exact absurd hread Resources.document_ne_configuration
  | ok document =>
    rw [hread] at h
    obtain ⟨_ | unit⟩ := document
    · cases h
      exact .missingPersistenceUnit _
    · change ((trimmedNames unit.classes).foldlM NamespaceMap.addPersistent m).mapError
        MetadataError.configuration = .error (.configuration f) at h
      cases hfold : (trimmedNames unit.classes).foldlM NamespaceMap.addPersistent m with
      | error f' =>
        rw [hfold] at h
        cases h
        exact error_of_foldlM (fun _ _ _ => NamespaceMap.mergeFault_of_addPersistent) hfold
      | ok m' =>
        rw [hfold] at h
        exact nomatch h

/-- The namespaces fail with the walk, or for a reason that merging adds. -/
theorem namespaces_eq_error {f : ConfigurationError}
    (h : c.namespaces = .error (.configuration f)) :
    c.walk.2 = some (.configuration f) ∨ MergeFault f := by
  unfold namespaces at h
  cases hwalk : c.afterWalk fun visited => visited.foldlM NamespaceMap.addDocument {} with
  | ok m =>
    rw [hwalk] at h
    have hstep : ∀ m path e, c.addPersistence m path = .error e →
        ∀ f, e = .configuration f → MergeFault f := by
      rintro m path _ he f rfl
      exact mergeFault_of_addPersistence he
    exact .inr (error_of_foldlM hstep h f rfl)
  | error e =>
    rw [hwalk] at h
    cases h
    unfold afterWalk at hwalk
    simp only at hwalk
    split at hwalk
    · rename_i f' hfold
      cases hwalk
      exact .inr (error_of_foldlM (fun _ _ _ => NamespaceMap.mergeFault_of_addDocument) hfold)
    · rename_i e' hfailure
      cases hwalk
      exact .inl hfailure
    · exact nomatch hwalk

end Configuration

end AttributeCache
