import AttributeCache.Proofs.Configuration.Failure
/-!
# Cycles of includes

A document that is met again on the trail of those being expanded closes a
cycle, and the trail up to it is what is reported (`CycleWitness`). That no
other cycle is reported is read off the ways a walk may fail; and where none
of the other ways is open, a cycle that can be reached is reported, for the
walk cannot have succeeded.

The chain is reported as texts. Paths on the trail are normal, so their
texts tell them apart.
-/

namespace AttributeCache

open IncludeGraph

namespace IncludeWalk

variable {r : Resources} {files : List String} {p q : NormalPath} {active : List NormalPath}

/-! ## Trails that close -/

/-- A chain of documents, told by their texts, that shows a cycle. -/
structure CycleWitness (r : Resources) (files : List String) (path : String)
    (chain : List String) : Prop where
  /-- It starts with what a configured file leads to, and each document
  includes the next. -/
  linked : ∃ documents : List NormalPath, chain = documents.map NormalPath.text ∧
    (∃ first, documents.head? = some first ∧ Configured files first) ∧
    documents.IsChain (Includes r)
  /-- All but the last are different. -/
  nodup : chain.dropLast.Nodup
  /-- The last is the document that was met again, and stands once among the
  others. -/
  last : chain.getLast? = some path
  once : chain.dropLast.count path = 1

/-- **A trail that comes back to itself** is one. -/
theorem Trail.cycleWitness (h : Trail r files active p) (hp : p ∈ active) :
    CycleWitness r files p.text ((active ++ [p]).map NormalPath.text) := by
  have hothers : ((active ++ [p]).map NormalPath.text).dropLast = active.map NormalPath.text := by
    rw [List.map_append, List.map_singleton, List.dropLast_concat]
  refine ⟨⟨active ++ [p], rfl, h.exists_first, h.isChain⟩, ?_, ?_, ?_⟩
  · rw [hothers]
    exact h.nodup_text
  · rw [List.map_append, List.map_singleton, List.getLast?_concat]
  · rw [hothers]
    exact List.count_eq_one_of_mem h.nodup_text (List.mem_map_of_mem hp)

theorem exists_trail_of_fault {path : String} {chain : List String}
    (h : Fault r files (.configuration (.cyclicInclude path chain))) :
    ∃ active p, Trail r files active p ∧ p ∈ active ∧ path = p.text ∧
      chain = (active ++ [p]).map NormalPath.text := by
  cases h with
  | document _ he => exact absurd he Resources.document_ne_configuration
  | cyclic htrail hp => exact ⟨_, _, htrail, hp, rfl, rfl⟩

/-- Whatever is named where configured files lead is there: nothing but a
cycle is left to fail for. -/
structure Complete (r : Resources) (files : List String) : Prop where
  configured : ∀ file ∈ files, ∃ p, NormalPath.ofText? file = some p
  reads : ∀ p, Reachable r files p → ∃ d, Reads r p d
  resolves : ∀ p d, Reachable r files p → Reads r p d →
    ∀ target, d.Names target → ∃ q, p.resolve? target = some q

/-- Documents that lead to one another only are all that is reached from
them. -/
theorem Complete.of_closed (entries : List (NormalPath × MetadataDocument))
    (hfiles : ∀ file ∈ files, ∃ x ∈ entries, NormalPath.ofText? file = some x.1)
    (hreads : ∀ x ∈ entries, Reads r x.1 x.2)
    (hincludes : ∀ x ∈ entries, ∀ target, x.2.Names target →
      ∃ y ∈ entries, x.1.resolve? target = some y.1) : Complete r files := by
  have hclosed : ∀ p, Reachable r files p → ∃ x ∈ entries, x.1 = p := by
    rintro p ⟨q, ⟨file, hfile, hq⟩, hpath⟩
    induction hpath with
    | refl =>
      obtain ⟨x, hx, hfirst⟩ := hfiles file hfile
      exact ⟨x, hx, Option.some.inj (hfirst.symm.trans hq)⟩
    | tail _ hedge ih =>
      obtain ⟨x, hx, rfl⟩ := ih
      obtain ⟨d, hd, target, htarget, hleads⟩ := hedge
      rw [hd.unique (hreads x hx)] at htarget
      obtain ⟨y, hy, hnext⟩ := hincludes x hx target htarget
      exact ⟨y, hy, Option.some.inj (hnext.symm.trans hleads)⟩
  refine ⟨fun file hfile => ?_, fun p hp => ?_, fun p d hp hd target htarget => ?_⟩
  · obtain ⟨x, -, hx⟩ := hfiles file hfile
    exact ⟨x.1, hx⟩
  · obtain ⟨x, hx, rfl⟩ := hclosed p hp
    exact ⟨x.2, hreads x hx⟩
  · obtain ⟨x, hx, rfl⟩ := hclosed p hp
    rw [hd.unique (hreads x hx)] at htarget
    obtain ⟨y, -, hy⟩ := hincludes x hx target htarget
    exact ⟨y.1, hy⟩

/-- **A cycle is found** where nothing else is wrong. -/
theorem Complete.exists_cyclicInclude (h : Complete r files) (hp : Reachable r files p)
    (hcycle : Relation.TransGen (Includes r) p p) :
    ∃ path chain, (run r files).2 = some (.configuration (.cyclicInclude path chain)) := by
  rcases hrun : run r files with ⟨progress, _ | e⟩
  · exact absurd hcycle ((loadable_of_run hrun).acyclic p hp)
  · cases fault_of_run hrun with
    | configured hfile hnone =>
      obtain ⟨q, hq⟩ := h.configured _ hfile
      exact nomatch hnone.symm.trans hq
    | document hq he =>
      obtain ⟨d, hd⟩ := h.reads _ hq
      exact nomatch he.symm.trans hd
    | included hq hd htarget hnone =>
      obtain ⟨q', hq'⟩ := h.resolves _ _ hq hd _ htarget
      exact nomatch hnone.symm.trans hq'
    | cyclic => exact ⟨_, _, rfl⟩

end IncludeWalk

open IncludeWalk

namespace Configuration

variable {c : Configuration} {path : String}

/-! ## Cycles that are reported -/

/-- One of the views of the documents fails so. -/
def FailsWith (c : Configuration) (e : MetadataError) : Prop :=
  c.namespaces = .error e ∨ c.rootPackages = .error e ∨ c.annotations = .error e

theorem walk_of_failsWith {chain : List String}
    (h : c.FailsWith (.configuration (.cyclicInclude path chain))) :
    c.walk.2 = some (.configuration (.cyclicInclude path chain)) := by
  unfold FailsWith at h
  rw [rootPackages, annotations, afterWalk_ok, afterWalk_ok] at h
  obtain h | h | h := h
  · rcases namespaces_eq_error h with hwalk | hmerge
    · exact hwalk
    · cases hmerge
  · split at h
    · rename_i e hfailure
      rw [hfailure, Except.error.inj h]
    · cases h
  · split at h
    · rename_i e hfailure
      rw [hfailure, Except.error.inj h]
    · cases h

/-- **A cycle that is reported is one.** The chain that is reported with it
starts with a configured file, goes from include to include over different
documents, and ends at one of them. So none is reported where there is none,
however often a document is included or configured; and where nothing else
is wrong, one is reported exactly where one can be reached. -/
theorem cyclicInclude_genuine (c : Configuration) :
    (∀ path chain, c.FailsWith (.configuration (.cyclicInclude path chain)) →
      CycleWitness c.resources c.sources.metadataFiles path chain) ∧
    ((∀ p, Reachable c.resources c.sources.metadataFiles p →
        ¬ Relation.TransGen (Includes c.resources) p p) →
      ∀ path chain, ¬ c.FailsWith (.configuration (.cyclicInclude path chain))) ∧
    (Complete c.resources c.sources.metadataFiles →
      ∀ p, Reachable c.resources c.sources.metadataFiles p →
        Relation.TransGen (Includes c.resources) p p →
      ∃ path chain, c.rootPackages = .error (.configuration (.cyclicInclude path chain)) ∧
        c.annotations = .error (.configuration (.cyclicInclude path chain))) := by
  have htrail : ∀ path chain, c.FailsWith (.configuration (.cyclicInclude path chain)) →
      ∃ active p, Trail c.resources c.sources.metadataFiles active p ∧ p ∈ active ∧
        path = p.text ∧ chain = (active ++ [p]).map NormalPath.text := by
    intro path chain h
    exact exists_trail_of_fault (fault_of_run (Prod.ext rfl (walk_of_failsWith h)))
  refine ⟨fun path chain h => ?_, fun hacyclic path chain h => ?_, fun hcomplete p hp hcycle => ?_⟩
  · obtain ⟨active, p, htrail, hp, rfl, rfl⟩ := htrail path chain h
    exact htrail.cycleWitness hp
  · obtain ⟨active, p, htrail, hp, -, -⟩ := htrail path chain h
    exact hacyclic p htrail.reachable (htrail.transGen p hp)
  · obtain ⟨path, chain, hwalk⟩ := hcomplete.exists_cyclicInclude hp hcycle
    have hfails : c.walk.2 = some (.configuration (.cyclicInclude path chain)) := hwalk
    refine ⟨path, chain, ?_, ?_⟩
    · rw [rootPackages, afterWalk_ok, hfails]
    · rw [annotations, afterWalk_ok, hfails]

/-- A document configured for itself that two others include, and two
documents that include each other below a third. -/
def looped : Configuration where
  resources := .memory [
    ("top.json", Text.encode "\x7b\"include\":[\"base.json\",\"left.json\"]\x7d"),
    ("left.json", Text.encode "\x7b\"include\":[\"base.json\",\"right.json\"]\x7d"),
    ("right.json", Text.encode "\x7b\"include\":[\" ./left.json \"]\x7d"),
    ("base.json", Text.encode "\x7b\x7d")]
  sources := ⟨["base.json", "/top.json"], []⟩

/-- The documents of `looped` as they are read. -/
def loopedDocuments : List (NormalPath × MetadataDocument) :=
  [(⟨["top.json"]⟩, { includes := ["base.json", "left.json"] }),
    (⟨["left.json"]⟩, { includes := ["base.json", "right.json"] }),
    (⟨["right.json"]⟩, { includes := [" ./left.json "] }),
    (⟨["base.json"]⟩, {})]

theorem reads_looped : ∀ x ∈ loopedDocuments, Reads looped.resources x.1 x.2 := by
  show ∀ x ∈ loopedDocuments, looped.resources.document MetadataDocument.ofTree x.1.text = .ok x.2
  decide +kernel

/-- Everything is there in it. -/
theorem complete_looped : Complete looped.resources looped.sources.metadataFiles := by
  have hclosed : ∀ x ∈ loopedDocuments, ∀ target ∈ x.2.targets,
      ∃ y ∈ loopedDocuments, x.1.resolve? target = some y.1 := by
    decide +kernel
  refine .of_closed loopedDocuments ?_ reads_looped fun x hx target hnames =>
    hclosed x hx target (MetadataDocument.mem_targets.2 hnames)
  decide +kernel

theorem includes_looped {x : NormalPath × MetadataDocument} {target : String} {q : NormalPath}
    (hx : x ∈ loopedDocuments) (htarget : target ∈ x.2.targets)
    (hq : x.1.resolve? target = some q) : Includes looped.resources x.1 q :=
  ⟨x.2, reads_looped x hx, target, MetadataDocument.mem_targets.1 htarget, hq⟩

/-- The chain leaves out what was done with before, and shows the document
twice at which it closes. There is none in a configuration where a document
is merely included and configured. -/
theorem cyclicInclude_looped :
    looped.FailsWith (.configuration (.cyclicInclude "left.json"
        ["top.json", "left.json", "right.json", "left.json"])) ∧
      CycleWitness looped.resources ["base.json", "/top.json"] "left.json"
        ["top.json", "left.json", "right.json", "left.json"] ∧
      (∃ path chain,
        looped.annotations = .error (.configuration (.cyclicInclude path chain))) ∧
      ∀ path chain, ¬ sharedRoot.FailsWith (.configuration (.cyclicInclude path chain)) := by
  have hfails : looped.FailsWith (.configuration (.cyclicInclude "left.json"
      ["top.json", "left.json", "right.json", "left.json"])) := by
    refine .inr (.inl ?_)
    decide +kernel
  have hdown : Includes looped.resources ⟨["left.json"]⟩ ⟨["right.json"]⟩ :=
    includes_looped (x := (⟨["left.json"]⟩, { includes := ["base.json", "right.json"] }))
      (by decide) (by decide +kernel : "right.json" ∈ _) (by decide +kernel)
  have hup : Includes looped.resources ⟨["right.json"]⟩ ⟨["left.json"]⟩ :=
    includes_looped (x := (⟨["right.json"]⟩, { includes := [" ./left.json "] }))
      (by decide) (by decide +kernel : "./left.json" ∈ _) (by decide +kernel)
  have htop : Includes looped.resources ⟨["top.json"]⟩ ⟨["left.json"]⟩ :=
    includes_looped (x := (⟨["top.json"]⟩, { includes := ["base.json", "left.json"] }))
      (by decide) (by decide +kernel : "left.json" ∈ _) (by decide +kernel)
  have hreachable : Reachable looped.resources looped.sources.metadataFiles ⟨["left.json"]⟩ :=
    ⟨⟨["top.json"]⟩, ⟨"/top.json", by decide, by decide +kernel⟩, .single htop⟩
  have hwalk : sharedRoot.walk.2 = none := by decide +kernel
  obtain ⟨hwitness, -, hreported⟩ := cyclicInclude_genuine looped
  obtain ⟨path, chain, -, hannotations⟩ :=
    hreported complete_looped _ hreachable (.tail (.single hdown) hup)
  exact ⟨hfails, hwitness _ _ hfails, ⟨path, chain, hannotations⟩,
    (cyclicInclude_genuine sharedRoot).2.1 (loadable_of_run (Prod.ext rfl hwalk)).acyclic⟩

end Configuration

end AttributeCache
