import AttributeCache.Proofs.Configuration.DepthFirst
import AttributeCache.Proofs.Configuration.Merge
/-!
# Three views of one walk

Root packages and annotations are read off the documents of the include walk
and fail only with it (`afterWalk_ok`). The namespaces are stricter: a blank
root, a class that occurs twice or a descriptor may fail them in the middle
of documents the other two read to the end. So they succeed less often, and
where they do all three are views of the same documents in the same order.
-/

namespace AttributeCache

open IncludeWalk

/-! ## Entries -/

/-- What there is to say of a property that was written in a document: its
name without the blanks around it, and its annotations. -/
structure PropertyAnnotations.IsEntryOf (entry written : PropertyAnnotations) : Prop where
  name : entry.name = Text.trim written.name
  annotations : entry.annotations = written.annotations

/-- And of a class, with an entry for each of its properties in order. -/
structure ClassAnnotations.IsEntryOf (entry written : ClassAnnotations) : Prop where
  name : entry.name = Text.trim written.name
  annotations : entry.annotations = written.annotations
  properties : List.Forall₂ PropertyAnnotations.IsEntryOf entry.properties written.properties

namespace Configuration

variable {c : Configuration} {m : NamespaceMap}

/-- A view that takes any documents fails with the walk and not else. -/
theorem afterWalk_ok {α : Type} (view : List (NormalPath × MetadataDocument) → α) :
    c.afterWalk (fun visited => .ok (view visited)) =
      match c.walk.2 with
      | some e => .error e
      | none => .ok (view c.walk.1.visited) := by
  rw [afterWalk]
  obtain ⟨progress, _ | e⟩ := c.walk <;> rfl

/-- Where no root is blank, none is left out. -/
theorem trimmedNames_roots {models : List Model} (h : ∀ model ∈ models, model.root ≠ "") :
    (trimmedNames (models.map (·.rootPackage))).eraseDups = declaredRoots models := by
  have hroots : trimmedNames (models.map (·.rootPackage)) = models.map Model.root := by
    rw [trimmedNames, List.map_map]
    refine List.filter_eq_self.2 fun root hroot => ?_
    obtain ⟨model, hmodel, rfl⟩ := List.mem_map.1 hroot
    rw [Bool.not_eq_true', String.isEmpty_eq_false_iff]
    exact h model hmodel
  rw [hroots, declaredRoots]

/-- The entries of documents are those written in them. -/
theorem forall₂_annotationsOf (visited : List (NormalPath × MetadataDocument)) :
    List.Forall₂ ClassAnnotations.IsEntryOf (visited.flatMap fun x => annotationsOf x.2)
      (visited.flatMap (·.2.annotations)) := by
  have hdocument (d : MetadataDocument) :
      List.Forall₂ ClassAnnotations.IsEntryOf (annotationsOf d) d.annotations := by
    rw [annotationsOf, List.forall₂_map_left_iff, List.forall₂_same]
    refine fun written _ => ⟨rfl, rfl, ?_⟩
    rw [List.forall₂_map_left_iff, List.forall₂_same]
    exact fun property _ => ⟨rfl, rfl⟩
  induction visited with
  | nil => exact .nil
  | cons x rest ih => exact List.rel_append (hdocument x.2) ih

theorem error_of_not_ok {α : Type} {e : Except MetadataError α} (h : ∀ a, e ≠ .ok a) :
    ∃ error, e = .error error := by
  cases e with
  | error error => exact ⟨error, rfl⟩
  | ok a => exact absurd rfl (h a)

/-- **The three views agree.** Root packages and annotations are there for
the same configurations and fail with the same error; where they fail the
namespaces do. Where there are namespaces, the root packages are their
names, and the annotations are the entries of the documents that are
reached, each document taken once and in the order in which they declare the
namespaces. -/
theorem views_agree (c : Configuration) :
    ((∃ roots, c.rootPackages = .ok roots) ↔ ∃ entries, c.annotations = .ok entries) ∧
    (∀ e, c.rootPackages = .error e ↔ c.annotations = .error e) ∧
    ((∃ e, c.rootPackages = .error e) → ∃ e, c.namespaces = .error e) ∧
    ∀ m, c.namespaces = .ok m →
      c.rootPackages = .ok (m.namespaces.map (·.name)) ∧
      ∃ visited, Traversal c.resources c.sources.metadataFiles visited ∧
        m.namespaces.map (·.name) = declaredRoots (visited.flatMap (·.2.models)) ∧
        ∃ entries, c.annotations = .ok entries ∧
          List.Forall₂ ClassAnnotations.IsEntryOf entries
            (visited.flatMap (·.2.annotations)) := by
  rw [rootPackages, annotations, afterWalk_ok, afterWalk_ok]
  refine ⟨?_, fun e => ?_, ?_, fun m hm => ?_⟩
  · cases c.walk.2 <;> simp
  · cases c.walk.2 <;> simp
  · rintro ⟨e, he⟩
    refine error_of_not_ok fun m hm => ?_
    rw [(namespaces_eq_ok_iff.1 hm).1] at he
    exact nomatch he
  · obtain ⟨hwalk, -, hmerged⟩ := namespaces_eq_ok_iff.1 hm
    have hroots : m.namespaces.map (·.name) = declaredRoots c.visitedModels := hmerged.map_name
    simp only [hwalk]
    refine ⟨?_, c.walk.1.visited, traversal_of_run (Prod.ext rfl hwalk), hroots, _, rfl,
      forall₂_annotationsOf _⟩
    rw [hroots, ← trimmedNames_roots hmerged.declared, visitedModels]

/-- A document configured beside the one that includes it, and a root that
both declare. -/
def sharedRoot : Configuration where
  resources := .memory [
    ("top.json", Text.encode ("\x7b\"include\":[\"base.json\"],\"metadata_models\":[" ++
      "\x7b\"root_package\":\" app \"\x7d,\x7b\"root_package\":\"app.base\"\x7d]," ++
      "\"annotations\":[\x7b\"class\":\" app.User \"," ++
      "\"annotations\":\x7b\"table\":\" u \"\x7d,\"properties\":[\x7b\"name\":\"name \"," ++
      "\"annotations\":\x7b\"label\":\"Name\"\x7d\x7d]\x7d]\x7d")),
    ("base.json", Text.encode ("\x7b\"metadata_models\":[" ++
      "\x7b\"root_package\":\"app.base\",\"classes\":[\"app.base.Log\"]\x7d]," ++
      "\"annotations\":[\x7b\"class\":\"app.base.Log\"\x7d]\x7d"))]
  sources := ⟨["top.json", "base.json"], []⟩

/-- The entries of its documents. -/
def sharedEntries : List ClassAnnotations :=
  [⟨"app.base.Log", [], []⟩,
    ⟨"app.User", [("table", " u ")], [⟨"name", [("label", "Name")]⟩]⟩]

/-- The included document comes first in all three views, and once. -/
theorem views_agree_sharedRoot :
    sharedRoot.namespaces = .ok ⟨[⟨"app.base", ["app.base.Log"]⟩, ⟨"app", []⟩]⟩ ∧
      sharedRoot.rootPackages = .ok ["app.base", "app"] ∧
      sharedRoot.annotations = .ok sharedEntries ∧
      ∃ visited, Traversal sharedRoot.resources ["top.json", "base.json"] visited ∧
        List.Forall₂ ClassAnnotations.IsEntryOf sharedEntries
          (visited.flatMap (·.2.annotations)) := by
  have hm : sharedRoot.namespaces = .ok ⟨[⟨"app.base", ["app.base.Log"]⟩, ⟨"app", []⟩]⟩ := by
    decide +kernel
  have hshared : sharedRoot.annotations = .ok sharedEntries := by decide +kernel
  obtain ⟨hroots, visited, hvisited, -, entries, hannotations, hentries⟩ :=
    (views_agree sharedRoot).2.2.2 _ hm
  rw [Except.ok.inj (hannotations.symm.trans hshared)] at hentries
  exact ⟨hm, hroots, hshared, visited, hvisited, hentries⟩

end Configuration

end AttributeCache
