import AttributeCache.Proofs.Cache.Index
import AttributeCache.Proofs.Cache.Succession
import AttributeCache.Proofs.Configuration.Rearrangement
/-!
# What is served does not depend on the order of the files

A load reads the definitions document by document, and asks of the merged
documents only which entity types there are. So the files may be listed in
any order: the same loads succeed, and what they publish is the same index,
each list of definitions in the same order (`build_rearranged`).
-/

namespace AttributeCache

open Folding

variable {r : Resources} {files files' : List String} {ds : List AttributeDefinition}

/-! ## Declared definitions -/

namespace Introspector

theorem readFile_eq_ok_iff {path : String} {attributes : List AttributeDefinition} :
    readFile r path = .ok attributes ↔
      ∃ document, r.document AttributesDocument.ofTree path = .ok document ∧
        document.attributes = attributes := by
  rw [readFile]
  cases r.document AttributesDocument.ofTree path <;> simp [Except.map, Except.mapError]

/-- The definitions a document declares, if it can be read. -/
def attributesIn (r : Resources) (path : String) : List AttributeDefinition :=
  match readFile r path with
  | .ok attributes => attributes
  | .error _ => []

/-- The documents can be read one after the other where each can be read. -/
theorem mapM_readFile_eq_ok_iff {lists : List (List AttributeDefinition)} :
    files.mapM (readFile r) = .ok lists ↔
      (∀ path ∈ files, ∃ attributes, readFile r path = .ok attributes) ∧
        lists = files.map (attributesIn r) := by
  induction files generalizing lists with
  | nil =>
    rw [List.mapM_nil, List.map_nil, eq_comm]
    simp [pure, Except.pure]
  | cons path rest ih =>
    rw [List.mapM_cons, bind_eq_ok_iff]
    simp only [bind_eq_ok_iff, ih, List.forall_mem_cons, List.map_cons]
    cases hread : readFile r path with
    | error e => simp
    | ok attributes =>
      have hattributes : attributesIn r path = attributes := by rw [attributesIn, hread]
      simp [pure, Except.pure, hattributes, eq_comm]

/-- The declared definitions are those of all documents, each of which can
be read. -/
theorem definitions_declared_eq_ok_iff :
    (declared files).definitions r = .ok ds ↔
      (∀ path ∈ files, ∃ attributes, readFile r path = .ok attributes) ∧
        ds = files.flatMap (attributesIn r) := by
  rw [definitions, List.flatMap_def]
  cases hread : files.mapM (readFile r) with
  | error e =>
    refine iff_of_false (fun h => nomatch h) fun h => ?_
    exact nomatch hread.symm.trans (mapM_readFile_eq_ok_iff.2 ⟨h.1, rfl⟩)
  | ok lists =>
    obtain ⟨hall, rfl⟩ := mapM_readFile_eq_ok_iff.1 hread
    rw [and_iff_right hall, eq_comm]
    change Except.ok ds = Except.ok _ ↔ _
    rw [Except.ok.injEq]

end Introspector

/-! ## Builds -/

namespace Site

variable {site : Site} {index : AttributeIndex} {c c' : Configuration}

/-- What a load builds. -/
theorem build_eq_ok_iff : site.build = .ok index ↔
    ∃ m ds, site.configuration.namespaces = .ok m ∧
      site.introspector.definitions site.configuration.resources = .ok ds ∧
        AttributeIndex.Accepted m ds ∧ index = (AttributeIndex.gather ds).ordered := by
  rw [build, bind_eq_ok_iff]
  simp only [bind_eq_ok_iff, AttributeIndex.build_eq_ok_iff]
  cases site.configuration.namespaces with
  | error e => simp [Except.mapError]
  | ok m => simp [Except.mapError]

/-- **The same index is built** from the files in any order. -/
theorem build_rearranged (h : c.Rearranges c') (hfiles : files.Perm files')
    (hbuild : (⟨c, .declared files⟩ : Site).build = .ok index) :
    (⟨c', .declared files'⟩ : Site).build = .ok index := by
  obtain ⟨m, ds, hm, hds, haccepted, rfl⟩ := build_eq_ok_iff.1 hbuild
  obtain ⟨hread, rfl⟩ := Introspector.definitions_declared_eq_ok_iff.1 hds
  obtain ⟨m', hm'⟩ := h.exists_namespaces hm
  have hsame := h.sameUpToOrder hm hm'
  have hperm := hfiles.flatMap_right (Introspector.attributesIn c.resources)
  have haccepted' : AttributeIndex.Accepted m'
      (files'.flatMap (Introspector.attributesIn c.resources)) := by
    refine AttributeIndex.Accepted.perm ⟨haccepted.valid, fun d hd => ?_, haccepted.distinct⟩ hperm
    rw [← hsame.contains_eq]
    exact haccepted.known d hd
  refine build_eq_ok_iff.2 ⟨m', _, hm', ?_, haccepted',
    AttributeIndex.ordered_gather_perm haccepted hperm⟩
  refine Introspector.definitions_declared_eq_ok_iff.2 ⟨fun path hpath => ?_, ?_⟩
  · rw [← h.resources]
    exact hread path (hfiles.mem_iff.2 hpath)
  · rw [← h.resources]

end Site

/-! ## Rearranged files -/

namespace Manager

/-- A load succeeds where its site builds. -/
theorem load_ok_iff {m : Manager} {now : UInt64} {site : Site} :
    (∃ stamp, (m.load now site).2 = .ok stamp) ↔ ∃ index, site.build = .ok index := by
  cases hbuild : site.build with
  | error e => simp [load_of_error hbuild]
  | ok index => simp [load_of_ok hbuild]

end Manager

namespace Configuration

variable {c c' : Configuration}

/-- **The order files are listed in.** Two configurations of the same
documents that list the same files in other orders can both be merged or
neither, to the same namespaces and members, and where the metadata files
are in one order, to the same owners. And with the definitions declared in
the same files, again in any order, both loads succeed or neither, and what
they publish is the same index. -/
theorem rearranged_alike (c c' : Configuration) (files files' : List String)
    (h : c.Rearranges c') (hfiles : files.Perm files') :
    ((∃ m, c.namespaces = .ok m) ↔ ∃ m', c'.namespaces = .ok m') ∧
      (∀ m m', c.namespaces = .ok m → c'.namespaces = .ok m' → m.SameUpToOrder m' ∧
        (c.sources.metadataFiles = c'.sources.metadataFiles → ∀ x, m.owner? x = m'.owner? x)) ∧
      ∀ (s s' : Manager) (now now' : UInt64),
        ((∃ stamp, (s.load now ⟨c, .declared files⟩).2 = .ok stamp) ↔
          ∃ stamp', (s'.load now' ⟨c', .declared files'⟩).2 = .ok stamp') ∧
        ∀ stamp stamp', (s.load now ⟨c, .declared files⟩).2 = .ok stamp →
          (s'.load now' ⟨c', .declared files'⟩).2 = .ok stamp' →
          ∃ index, (s.load now ⟨c, .declared files⟩).1.current = some (.ofIndex stamp index) ∧
            (s'.load now' ⟨c', .declared files'⟩).1.current = some (.ofIndex stamp' index) := by
  refine ⟨⟨?_, ?_⟩, fun m m' hm hm' => ⟨h.sameUpToOrder hm hm', ?_⟩, fun s s' now now' => ⟨?_, ?_⟩⟩
  · exact fun ⟨m, hm⟩ => h.exists_namespaces hm
  · exact fun ⟨m', hm'⟩ => h.symm.exists_namespaces hm'
  · exact fun hmetadata => h.owner?_eq hmetadata hm hm'
  · rw [Manager.load_ok_iff, Manager.load_ok_iff]
    constructor
    · exact fun ⟨index, hbuild⟩ => ⟨index, Site.build_rearranged h hfiles hbuild⟩
    · exact fun ⟨index, hbuild⟩ => ⟨index, Site.build_rearranged h.symm hfiles.symm hbuild⟩
  · intro stamp stamp' hload hload'
    obtain ⟨index, hbuild⟩ := Manager.load_ok_iff.1 ⟨stamp, hload⟩
    have hbuild' := Site.build_rearranged h hfiles hbuild
    rw [Manager.load_of_ok hbuild, Except.ok.injEq] at hload
    rw [Manager.load_of_ok hbuild', Except.ok.injEq] at hload'
    rw [Manager.load_of_ok hbuild, Manager.load_of_ok hbuild', ← hload, ← hload']
    exact ⟨index, rfl, rfl⟩

/-- Two roots, one below the other, a class that is below both, and two
documents that declare attributes of it. -/
def nestedRoots (metadataFiles persistenceFiles : List String) : Configuration where
  resources := .memory [
    ("outer.json", Text.encode ("\x7b\"metadata_models\":[" ++
      "\x7b\"root_package\":\"app\",\"classes\":[\"app.User\"]\x7d]\x7d")),
    ("inner.json", Text.encode ("\x7b\"metadata_models\":[" ++
      "\x7b\"root_package\":\"app.base\"\x7d]\x7d")),
    ("logs.json", Text.encode ("\x7b\"persistence_unit\":" ++
      "\x7b\"classes\":[\"app.base.Log\"]\x7d\x7d")),
    ("orders.json", Text.encode ("\x7b\"persistence_unit\":" ++
      "\x7b\"classes\":[\"app.Order\"]\x7d\x7d")),
    ("level.json", Text.encode ("\x7b\"attributes\":[\x7b\"code\":\"level\"," ++
      "\"entity_type\":\"app.base.Log\",\"value_type\":\"integer\"\x7d]\x7d")),
    ("host.json", Text.encode ("\x7b\"attributes\":[\x7b\"code\":\"host\"," ++
      "\"entity_type\":\"app.base.Log\",\"value_type\":\"string\"\x7d]\x7d"))]
  sources := ⟨metadataFiles, persistenceFiles⟩

/-- All files the other way round: the class that is below both roots goes to
the other one, and what is served is the same. -/
theorem rearranged_nestedRoots :
    let c := nestedRoots ["outer.json", "inner.json"] ["logs.json", "orders.json"]
    let c' := nestedRoots ["inner.json", "outer.json"] ["orders.json", "logs.json"]
    let loaded := ({} : Manager).load 5 ⟨c, .declared ["level.json", "host.json"]⟩
    let loaded' := ({} : Manager).load 7 ⟨c', .declared ["host.json", "level.json"]⟩
    c.namespaces = .ok ⟨[⟨"app", ["app.User", "app.base.Log", "app.Order"]⟩, ⟨"app.base", []⟩]⟩ ∧
      c'.namespaces =
        .ok ⟨[⟨"app.base", ["app.base.Log"]⟩, ⟨"app", ["app.User", "app.Order"]⟩]⟩ ∧
      loaded.2 = .ok ⟨5, 0⟩ ∧ ∃ stamp' index, loaded'.2 = .ok stamp' ∧
        loaded.1.current = some (.ofIndex ⟨5, 0⟩ index) ∧
        loaded'.1.current = some (.ofIndex stamp' index) := by
  intro c c' loaded loaded'
  have hloaded : loaded.2 = .ok ⟨5, 0⟩ := by decide +kernel
  obtain ⟨-, -, hloads⟩ := rearranged_alike c c' ["level.json", "host.json"]
    ["host.json", "level.json"] ⟨rfl, by decide, by decide⟩ (by decide)
  obtain ⟨hiff, hsame⟩ := hloads {} {} 5 7
  obtain ⟨stamp', hloaded'⟩ := hiff.1 ⟨_, hloaded⟩
  obtain ⟨index, hindex, hindex'⟩ := hsame _ _ hloaded hloaded'
  exact ⟨by decide +kernel, by decide +kernel, hloaded, stamp', index, hloaded', hindex, hindex'⟩

end Configuration

end AttributeCache
