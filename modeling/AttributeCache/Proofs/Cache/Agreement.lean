import AttributeCache.Proofs.Cache.Rearrangement
import AttributeCache.Proofs.Resources.Disk
/-!
# A configuration in memory and on disk

The include walk asks for documents by normal path only, and by normal path
memory and disk give the same; so whatever is merged from metadata documents
is the same over both. Persistence descriptors and attribute documents are
asked for as they are written in the configuration. There the disk takes
more spellings than memory does, and `Configuration.agreement` says which.
-/

namespace AttributeCache

open Folding NormalPath
open Text (Bytes)

variable {r r' : Resources} {files : List String} {p q : NormalPath} {d : MetadataDocument}

namespace Resources

/-- The same documents are read by every normal path. -/
def AgreeOnPaths (r r' : Resources) : Prop :=
  ∀ p : NormalPath, p.Normal → ∀ bytes, r.read p.text = .ok bytes ↔ r'.read p.text = .ok bytes

theorem AgreeOnPaths.symm (h : AgreeOnPaths r r') : AgreeOnPaths r' r :=
  fun p hp bytes => (h p hp bytes).symm

end Resources

open Resources

/-! ## The walk -/

namespace IncludeGraph

theorem reads_agree (h : AgreeOnPaths r r') (hp : p.Normal) :
    Reads r p d ↔ Reads r' p d := by
  simp only [Reads, document_eq_ok_iff, h p hp]

theorem Includes.agree (h : AgreeOnPaths r r') (hp : p.Normal) (hq : Includes r p q) :
    Includes r' p q := by
  obtain ⟨d, hd, htarget⟩ := hq
  exact ⟨d, (reads_agree h hp).1 hd, htarget⟩

theorem Reachable.agree (h : AgreeOnPaths r r') (hp : Reachable r files p) :
    Reachable r' files p := by
  obtain ⟨q, hq, hpath⟩ := hp
  refine ⟨q, hq, ?_⟩
  induction hpath with
  | refl => exact .refl
  | tail hto hlast ih =>
    have hnormal : NormalPath.Normal _ := Reachable.normal ⟨q, hq, hto⟩
    exact ih.tail (hlast.agree h hnormal)

/-- A way along the includes is a way over the other store. -/
theorem transGen_agree (h : AgreeOnPaths r r') (hp : p.Normal)
    (hq : Relation.TransGen (Includes r) p q) :
    Relation.TransGen (Includes r') p q ∧ q.Normal := by
  induction hq with
  | single hone => exact ⟨.single (hone.agree h hp), hone.normal hp⟩
  | tail _ hlast ih => exact ⟨ih.1.tail (hlast.agree h ih.2), hlast.normal ih.2⟩

/-- **What is in order over one store is so over the other.** -/
theorem Loadable.agree (h : AgreeOnPaths r r') (hload : Loadable r files) :
    Loadable r' files where
  configured := hload.configured
  reads p hp := by
    obtain ⟨d, hd⟩ := hload.reads p (hp.agree h.symm)
    exact ⟨d, (reads_agree h hp.normal).1 hd⟩
  resolves p d hp hd :=
    hload.resolves p d (hp.agree h.symm) ((reads_agree h hp.normal).2 hd)
  acyclic p hp hcycle :=
    hload.acyclic p (hp.agree h.symm) (transGen_agree h.symm hp.normal hcycle).1

/-- The documents are written out in the same order. -/
theorem PostOrder.agree {paths order : List NormalPath} (h : AgreeOnPaths r r')
    (hpaths : ∀ p ∈ paths, p.Normal) (horder : PostOrder r paths order) :
    PostOrder r' paths order := by
  induction horder with
  | nil => exact .nil
  | cons hd hc _ _ ihbelow ihafter =>
    have hp := hpaths _ List.mem_cons_self
    refine .cons ((reads_agree h hp).1 hd) hc (ihbelow fun q hq => ?_)
      (ihafter fun q hq => hpaths q (List.mem_cons_of_mem _ hq))
    obtain ⟨target, -, htarget⟩ := hc.mem_iff.1 hq
    exact normal_of_resolve? hp htarget

end IncludeGraph

namespace IncludeWalk

open IncludeGraph

variable {visited visited' : List (NormalPath × MetadataDocument)}

/-- Documents at the same paths in the same order are the same documents. -/
theorem eq_of_reads (hpaths : visited.map (·.1) = visited'.map (·.1))
    (h : ∀ x ∈ visited, Reads r x.1 x.2) (h' : ∀ x ∈ visited', Reads r x.1 x.2) :
    visited = visited' := by
  induction visited generalizing visited' with
  | nil => exact (List.map_eq_nil_iff.1 hpaths.symm).symm
  | cons x rest ih =>
    cases visited' with
    | nil => exact absurd hpaths (by simp)
    | cons y rest' =>
      obtain ⟨hpath, hrest⟩ : x.1 = y.1 ∧ rest.map (·.1) = rest'.map (·.1) :=
        List.cons.inj hpaths
      have hdocument : x.2 = y.2 := by
        have hread := h x List.mem_cons_self
        rw [hpath] at hread
        exact hread.unique (h' y List.mem_cons_self)
      rw [Prod.ext hpath hdocument, ih hrest (fun z hz => h z (List.mem_cons_of_mem _ hz))
        fun z hz => h' z (List.mem_cons_of_mem _ hz)]

/-- **The same documents are visited in the same order.** -/
theorem Traversal.agree (h : AgreeOnPaths r r') (ht : Traversal r files visited)
    (ht' : Traversal r' files visited') : visited = visited' := by
  obtain ⟨roots, order, hroots, horder, hpaths⟩ := ht.postOrder
  obtain ⟨roots', order', hroots', horder', hpaths'⟩ := ht'.postOrder
  have hnormal : ∀ p ∈ roots, p.Normal := by
    intro p hp
    obtain ⟨file, -, hfile⟩ := hroots.mem_iff.1 hp
    exact normal_of_ofText? hfile
  have hsame : order = order' := by
    cases hroots.unique hroots'
    exact (horder.agree h hnormal).unique horder'
  refine eq_of_reads (r := r) (by rw [hpaths, hpaths', hsame]) ht.reads fun x hx => ?_
  have hreach := (ht'.mem_iff x.1).1 (List.mem_map_of_mem hx)
  exact (reads_agree h hreach.normal).2 (ht'.reads x hx)

/-- So the walk succeeds over both or neither, with the same documents. -/
theorem run_agree (h : AgreeOnPaths r r') (hrun : (run r files).2 = none) :
    (run r' files).2 = none ∧ (run r' files).1.visited = (run r files).1.visited := by
  have hrun' : (run r' files).2 = none :=
    run_succeeds ((loadable_of_run (Prod.ext rfl hrun)).agree h)
  exact ⟨hrun', (Traversal.agree h (traversal_of_run (Prod.ext rfl hrun))
    (traversal_of_run (Prod.ext rfl hrun'))).symm⟩

end IncludeWalk

/-! ## Merging -/

namespace Configuration

variable {c c' : Configuration}

/-- The same files are merged from stores that agree. -/
structure Agrees (c c' : Configuration) : Prop where
  sources : c.sources = c'.sources
  resources : AgreeOnPaths c.resources c'.resources

theorem Agrees.symm (h : c.Agrees c') : c'.Agrees c :=
  ⟨h.sources.symm, h.resources.symm⟩

theorem Agrees.walk (h : c.Agrees c') (hwalk : c.walk.2 = none) :
    c'.walk.2 = none ∧ c'.walk.1.visited = c.walk.1.visited := by
  have hrun := IncludeWalk.run_agree h.resources hwalk
  rw [Configuration.walk, Configuration.walk, ← h.sources]
  exact hrun

/-- What is made of the metadata documents alone is the same. -/
theorem Agrees.afterWalk {α : Type} {a : α}
    {fold : List (NormalPath × MetadataDocument) → Except ConfigurationError α}
    (h : c.Agrees c') : c.afterWalk fold = .ok a ↔ c'.afterWalk fold = .ok a := by
  rw [afterWalk_eq_ok_iff, afterWalk_eq_ok_iff]
  constructor
  · rintro ⟨hwalk, hfold⟩
    obtain ⟨hwalk', hvisited⟩ := h.walk hwalk
    exact ⟨hwalk', hvisited ▸ hfold⟩
  · rintro ⟨hwalk, hfold⟩
    obtain ⟨hwalk', hvisited⟩ := h.symm.walk hwalk
    exact ⟨hwalk', hvisited ▸ hfold⟩

/-- The namespaces are the same where the descriptors are. -/
theorem Agrees.namespaces {m : NamespaceMap} (h : c.Agrees c')
    (hdescribes : ∀ path ∈ c.sources.persistenceFiles, ∀ unit,
      c.Describes path unit → c'.Describes path unit)
    (hm : c.namespaces = .ok m) : c'.namespaces = .ok m := by
  obtain ⟨hwalk, hdescribed, hmerged⟩ := namespaces_eq_ok_iff.1 hm
  obtain ⟨hwalk', hvisited⟩ := h.walk hwalk
  have hmodels : c'.visitedModels = c.visitedModels := by
    rw [visitedModels, visitedModels, hvisited]
  have hclasses : c'.persistentClasses = c.persistentClasses := by
    rw [persistentClasses, persistentClasses, ← h.sources]
    refine List.flatMap_congr fun path hpath => ?_
    obtain ⟨unit, hunit⟩ := hdescribed path hpath
    have hunit' := hdescribes path hpath unit hunit
    simp only [Describes] at hunit hunit'
    rw [classesIn, classesIn, hunit, hunit']
  refine namespaces_eq_ok_iff.2 ⟨hwalk', fun path hpath => ?_, ?_⟩
  · rw [← h.sources] at hpath
    obtain ⟨unit, hunit⟩ := hdescribed path hpath
    exact ⟨unit, hdescribes path hpath unit hunit⟩
  · rw [hmodels, hclasses]
    exact hmerged

end Configuration

/-! ## Memory and disk -/

section Stores

variable {docs : List (NormalPath × Bytes)} {tree : FileTree} {root path : String}
variable {start : List String}

theorem Resources.agreeOnPaths (hcoexist : Coexist root docs) (h : Holds tree root start docs) :
    AgreeOnPaths (inMemory docs) (directory tree root) :=
  fun _ hp _ => read_text_inMemory_iff hcoexist h hp

/-- A document that is asked for as it is spelled is had in memory if it is
had on disk and the spelling is direct. -/
theorem Resources.document_inMemory_iff {α : Type} {read : Nat → Json.Tree → Except Json.Fault α}
    {a : α} (hcoexist : Coexist root docs) (h : Holds tree root start docs) :
    (inMemory docs).document read path = .ok a ↔
      (directory tree root).document read path = .ok a ∧ Direct path := by
  simp only [document_eq_ok_iff, read_inMemory_iff hcoexist h]
  constructor
  · rintro ⟨bytes, ⟨hread, hdirect⟩, hdecode⟩
    exact ⟨⟨bytes, hread, hdecode⟩, hdirect⟩
  · rintro ⟨⟨bytes, hread, hdecode⟩, hdirect⟩
    exact ⟨bytes, ⟨hread, hdirect⟩, hdecode⟩

/-- So the attributes of a document. -/
theorem Introspector.readFile_inMemory_iff {attributes : List AttributeDefinition}
    (hcoexist : Coexist root docs) (h : Holds tree root start docs) :
    readFile (inMemory docs) path = .ok attributes ↔
      readFile (directory tree root) path = .ok attributes ∧ Direct path := by
  simp only [readFile_eq_ok_iff, document_inMemory_iff hcoexist h]
  constructor
  · rintro ⟨document, ⟨hread, hdirect⟩, hattributes⟩
    exact ⟨⟨document, hread, hattributes⟩, hdirect⟩
  · rintro ⟨⟨document, hread, hattributes⟩, hdirect⟩
    exact ⟨document, ⟨hread, hdirect⟩, hattributes⟩

/-- And all that are declared. -/
theorem Introspector.definitions_inMemory_iff {ds : List AttributeDefinition}
    (hcoexist : Coexist root docs) (h : Holds tree root start docs) :
    (declared files).definitions (inMemory docs) = .ok ds ↔
      (declared files).definitions (directory tree root) = .ok ds ∧
        ∀ path ∈ files, Direct path := by
  -- what a path declares in memory it declares on disk
  have hsame : ∀ path attributes, readFile (inMemory docs) path = .ok attributes →
      attributesIn (inMemory docs) path = attributesIn (directory tree root) path := by
    intro path attributes hread
    have hread' := ((readFile_inMemory_iff hcoexist h).1 hread).1
    rw [attributesIn, attributesIn, hread, hread']
  have hall : (∀ path ∈ files, ∃ attributes, readFile (inMemory docs) path = .ok attributes) ↔
      (∀ path ∈ files, ∃ attributes, readFile (directory tree root) path = .ok attributes) ∧
        ∀ path ∈ files, Direct path := by
    simp only [readFile_inMemory_iff hcoexist h, exists_and_right, forall_and]
  rw [definitions_declared_eq_ok_iff, definitions_declared_eq_ok_iff]
  constructor
  · rintro ⟨hmemory, rfl⟩
    refine ⟨⟨(hall.1 hmemory).1, List.flatMap_congr fun path hpath => ?_⟩, (hall.1 hmemory).2⟩
    obtain ⟨attributes, hread⟩ := hmemory path hpath
    exact hsame path attributes hread
  · rintro ⟨⟨hdisk, rfl⟩, hdirect⟩
    have hmemory := hall.2 ⟨hdisk, hdirect⟩
    refine ⟨hmemory, List.flatMap_congr fun path hpath => ?_⟩
    obtain ⟨attributes, hread⟩ := hmemory path hpath
    exact (hsame path attributes hread).symm

namespace Configuration

/-- The namespaces of a configuration, its descriptors asked for as they are
spelled. -/
theorem namespaces_inMemory_iff {m : NamespaceMap} (hcoexist : Coexist root docs)
    (h : Holds tree root start docs) (sources : Sources) :
    (⟨inMemory docs, sources⟩ : Configuration).namespaces = .ok m ↔
      (⟨directory tree root, sources⟩ : Configuration).namespaces = .ok m ∧
        ∀ path ∈ sources.persistenceFiles, Direct path := by
  have hagrees : (⟨inMemory docs, sources⟩ : Configuration).Agrees
      ⟨directory tree root, sources⟩ := ⟨rfl, agreeOnPaths hcoexist h⟩
  constructor
  · intro hm
    refine ⟨hagrees.namespaces (fun path _ unit hunit => ?_) hm, fun path hpath => ?_⟩
    · exact ((document_inMemory_iff hcoexist h).1 hunit).1
    · obtain ⟨unit, hunit⟩ := (namespaces_eq_ok_iff.1 hm).2.1 path hpath
      exact ((document_inMemory_iff hcoexist h).1 hunit).2
  · rintro ⟨hm, hdirect⟩
    refine hagrees.symm.namespaces (fun path hpath unit hunit => ?_) hm
    exact (document_inMemory_iff hcoexist h).2 ⟨hunit, hdirect path hpath⟩

/-- **The same documents in memory and on disk.** What comes of the metadata
documents alone is the same over both, in whatever way the configured files
are spelled. The namespaces with their members, and the declared
definitions, are in memory what they are on disk exactly if no persistence
descriptor, and no attribute document, is spelled with an empty segment or a
`.`; with one, they can be had on disk only. -/
theorem agreement (hcoexist : Coexist root docs) (hholds : Holds tree root start docs)
    (sources : Sources) (files : List String) :
    let memory : Configuration := ⟨inMemory docs, sources⟩
    let disk : Configuration := ⟨directory tree root, sources⟩
    (∀ roots, memory.rootPackages = .ok roots ↔ disk.rootPackages = .ok roots) ∧
      (∀ annotations, memory.annotations = .ok annotations ↔
        disk.annotations = .ok annotations) ∧
      (∀ m, memory.namespaces = .ok m ↔
        disk.namespaces = .ok m ∧ ∀ path ∈ sources.persistenceFiles, Direct path) ∧
      ∀ ds, Introspector.definitions memory.resources (.declared files) = .ok ds ↔
        Introspector.definitions disk.resources (.declared files) = .ok ds ∧
          ∀ path ∈ files, Direct path := by
  intro memory disk
  have hagrees : memory.Agrees disk := ⟨rfl, agreeOnPaths hcoexist hholds⟩
  refine ⟨fun roots => hagrees.afterWalk, fun annotations => hagrees.afterWalk,
    fun m => namespaces_inMemory_iff hcoexist hholds sources,
    fun ds => Introspector.definitions_inMemory_iff hcoexist hholds⟩

/-- A model, a descriptor of a class below its root, and an attribute of
that class. -/
def shop : List (NormalPath × Bytes) :=
  [(⟨["app.json"]⟩, Text.encode "\x7b\"metadata_models\":[\x7b\"root_package\":\"app\"\x7d]\x7d"),
    (⟨["units", "order.json"]⟩,
      Text.encode "\x7b\"persistence_unit\":\x7b\"classes\":[\"app.Order\"]\x7d\x7d"),
    (⟨["attributes.json"]⟩, Text.encode ("\x7b\"attributes\":[\x7b\"code\":\"rating\"," ++
      "\"entity_type\":\"app.Order\",\"value_type\":\"integer\"\x7d]\x7d"))]

theorem coexist_shop : Coexist "." shop where
  normal := by decide
  named := by decide
  distinct := by decide
  apart := by decide
  segments := by decide
  paths := by decide

/-- The shop on disk, its files written there one by one. Slashes in front of
a path count over neither, and the metadata file is spelled in a way of its
own. -/
theorem agreement_shop :
    ∃ tree, written (.directory {} ".") shop = .directory tree "." ∧
      let disk : Configuration :=
        ⟨.directory tree ".", ⟨["x/.././app.json"], ["/units/order.json"]⟩⟩
      disk.rootPackages = .ok ["app"] ∧ disk.annotations = .ok [] ∧
        disk.namespaces = .ok ⟨[⟨"app", ["app.Order"]⟩]⟩ ∧
        ∃ ds, (Introspector.declared ["//attributes.json"]).definitions disk.resources = .ok ds ∧
          ds.map (·.code) = ["rating"] := by
  obtain ⟨tree, hwritten, hholds⟩ := exists_holds_written coexist_shop
  let sources : Sources := ⟨["x/.././app.json"], ["/units/order.json"]⟩
  let memory : Configuration := ⟨inMemory shop, sources⟩
  obtain ⟨hroots, hannotations, hnamespaces, hdefinitions⟩ :=
    agreement coexist_shop hholds sources ["//attributes.json"]
  have hcodes : ((Introspector.declared ["//attributes.json"]).definitions memory.resources).map
      (fun ds => ds.map (·.code)) = .ok ["rating"] := by
    decide +kernel
  obtain ⟨ds, hds, hds'⟩ : ∃ ds, (Introspector.declared ["//attributes.json"]).definitions
      memory.resources = .ok ds ∧ ds.map (·.code) = ["rating"] := by
    cases hds : (Introspector.declared ["//attributes.json"]).definitions memory.resources with
    | error e =>
      rw [hds] at hcodes
      exact nomatch hcodes
    | ok ds =>
      rw [hds] at hcodes
      exact ⟨ds, rfl, Except.ok.inj hcodes⟩
  exact ⟨tree, hwritten, (hroots _).1 (by decide +kernel), (hannotations _).1 (by decide +kernel),
    ((hnamespaces _).1 (by decide +kernel)).1, ds, ((hdefinitions ds).1 hds).1, hds'⟩

/-- **Memory and disk do not always agree.** A descriptor that is spelled
with a `.` in front is had on disk and not in memory. -/
theorem not_always_agreement :
    ¬ ∀ (docs : List (NormalPath × Bytes)) (tree : FileTree) (root : String)
        (start : List String) (sources : Sources), Coexist root docs →
      Holds tree root start docs → ∀ m,
        (⟨inMemory docs, sources⟩ : Configuration).namespaces = .ok m ↔
          (⟨directory tree root, sources⟩ : Configuration).namespaces = .ok m := by
  intro hsame
  obtain ⟨tree, hwritten, hholds⟩ := exists_holds_written coexist_shop
  let sources : Sources := ⟨["app.json"], ["./units/order.json"]⟩
  have hdisk : (⟨written (.directory {} ".") shop, sources⟩ : Configuration).namespaces =
      .ok ⟨[⟨"app", ["app.Order"]⟩]⟩ := by
    decide +kernel
  have hmemory : (⟨inMemory shop, sources⟩ : Configuration).namespaces =
      .error (.notFound "./units/order.json") := by
    decide +kernel
  rw [hwritten] at hdisk
  rw [(hsame shop tree "." [] sources coexist_shop hholds _).2 hdisk] at hmemory
  exact nomatch hmemory

end Configuration

end Stores

end AttributeCache
