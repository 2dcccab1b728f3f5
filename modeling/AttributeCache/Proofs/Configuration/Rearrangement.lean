import AttributeCache.Proofs.Configuration.DepthFirst
import AttributeCache.Proofs.Configuration.Merge
/-!
# Files listed in another order

The order in which files are listed decides what is visited first, where a
failure strikes, and which of several roots a persistent class goes to. It
does not decide what is visited, whether anything fails, or which roots and
classes there are: the include walk visits what can be reached, and what
merging asks of the documents it asks of all of them together.
-/

namespace AttributeCache

variable {r : Resources} {files files' : List String} {p : NormalPath}

/-! ## The walk -/

namespace IncludeGraph

theorem reachable_congr (h : ∀ file, file ∈ files ↔ file ∈ files') :
    Reachable r files p ↔ Reachable r files' p := by
  simp only [Reachable, Configured, h]

theorem Loadable.congr (h : ∀ file, file ∈ files ↔ file ∈ files') (hload : Loadable r files) :
    Loadable r files' where
  configured file hfile := hload.configured file ((h file).2 hfile)
  reads p hp := hload.reads p ((reachable_congr h).2 hp)
  resolves p d hp := hload.resolves p d ((reachable_congr h).2 hp)
  acyclic p hp := hload.acyclic p ((reachable_congr h).2 hp)

end IncludeGraph

namespace IncludeWalk

open IncludeGraph

variable {visited visited' : List (NormalPath × MetadataDocument)}

/-- What is visited are the reachable paths with their documents. -/
theorem Traversal.mem_visited_iff (h : Traversal r files visited)
    {x : NormalPath × MetadataDocument} :
    x ∈ visited ↔ Reachable r files x.1 ∧ Reads r x.1 x.2 := by
  constructor
  · exact fun hx => ⟨(h.mem_iff x.1).1 (List.mem_map_of_mem hx), h.reads x hx⟩
  · rintro ⟨hreach, hreads⟩
    obtain ⟨y, hy, hpath⟩ := List.mem_map.1 ((h.mem_iff x.1).2 hreach)
    have hdocument : y.2 = x.2 := (h.reads y hy).unique (hpath ▸ hreads)
    rwa [Prod.ext hpath hdocument] at hy

/-- **The same documents are visited** from the same files in any order. -/
theorem Traversal.perm (h : Traversal r files visited) (h' : Traversal r files' visited')
    (hfiles : ∀ file, file ∈ files ↔ file ∈ files') : visited.Perm visited' := by
  refine (List.perm_ext_iff_of_nodup h.nodup.of_map h'.nodup.of_map).2 fun x => ?_
  rw [h.mem_visited_iff, h'.mem_visited_iff, reachable_congr hfiles]

end IncludeWalk

/-! ## Merging -/

namespace NamespaceMap

variable {m m' : NamespaceMap} {models models' : List Model} {classes classes' : List String}
variable {x root : String}

theorem mem_declaredRoots_perm (h : models.Perm models') :
    root ∈ declaredRoots models ↔ root ∈ declaredRoots models' := by
  simp only [mem_declaredRoots, h.mem_iff]

/-- What can be merged can be merged in any order. -/
theorem Merged.perm (h : Merged models classes m) (hmodels : models.Perm models')
    (hclasses : classes.Perm classes') : ∃ m', Merged models' classes' m' := by
  have hall : (models.flatMap Model.listed ++ classes).Perm
      (models'.flatMap Model.listed ++ classes') :=
    (hmodels.flatMap_right _).append hclasses
  refine ⟨_, fun model hmodel => h.declared model (hmodels.mem_iff.2 hmodel), fun x hx => ?_,
    hall.nodup_iff.1 h.distinct, rfl⟩
  obtain ⟨root, hroot, hbelow⟩ := h.enclosed x (hclasses.mem_iff.2 hx)
  exact ⟨root, (mem_declaredRoots_perm hmodels).1 hroot, hbelow⟩

theorem contains_iff : m.contains x = true ↔ x ∈ m.allMembers := by
  simp [contains, allMembers]

/-- The members are the classes of the documents. -/
theorem Merged.mem_allMembers_iff (h : Merged models classes m) :
    x ∈ m.allMembers ↔ x ∈ models.flatMap Model.listed ++ classes := by
  rw [← h.mem_members_iff, h.eq_ofRoots, allMembers, ofRoots, List.flatMap_map, List.mem_flatMap]

/-- Two maps of the same namespaces and the same members, the order apart. -/
structure SameUpToOrder (m m' : NamespaceMap) : Prop where
  names : ∀ name, name ∈ m.namespaces.map (·.name) ↔ name ∈ m'.namespaces.map (·.name)
  members : ∀ x, x ∈ m.allMembers ↔ x ∈ m'.allMembers

theorem SameUpToOrder.contains_eq (h : m.SameUpToOrder m') : m.contains x = m'.contains x := by
  rw [Bool.eq_iff_iff, contains_iff, contains_iff]
  exact h.members x

/-- **The order does not show in what is merged.** -/
theorem Merged.sameUpToOrder (h : Merged models classes m) (h' : Merged models' classes' m')
    (hmodels : models.Perm models') (hclasses : classes.Perm classes') : m.SameUpToOrder m' where
  names name := by
    rw [h.map_name, h'.map_name]
    exact mem_declaredRoots_perm hmodels
  members x := by
    rw [h.mem_allMembers_iff, h'.mem_allMembers_iff]
    exact ((hmodels.flatMap_right _).append hclasses).mem_iff

/-- The owner of a member is the first root that has it. -/
theorem owner?_ofRoots_eq {roots : List String} {members : String → List String} :
    (ofRoots roots members).owner? x = roots.find? fun root => (members root).contains x := by
  rw [owner?, ofRoots, List.find?_map, Option.map_map]
  exact congrFun Option.map_id _

/-- Where the models are in one order, so are the roots, and the order of
the persistent classes does not decide between roots. -/
theorem Merged.owner?_eq (h : Merged models classes m) (h' : Merged models classes' m')
    (hclasses : classes.Perm classes') : m.owner? x = m'.owner? x := by
  have hsame : ∀ root, (mergedMembers models classes root).contains x =
      (mergedMembers models classes' root).contains x := by
    intro root
    rw [Bool.eq_iff_iff, List.contains_iff_mem, List.contains_iff_mem, mergedMembers,
      mergedMembers, List.mem_append, List.mem_append, mem_firstBelow, mem_firstBelow,
      hclasses.mem_iff]
  rw [h.eq_ofRoots, h'.eq_ofRoots, owner?_ofRoots_eq, owner?_ofRoots_eq]
  simp only [hsame]

end NamespaceMap

/-! ## Configurations -/

namespace Configuration

variable {c c' : Configuration} {m m' : NamespaceMap}

/-- The same documents, with the files to merge listed in another order. -/
structure Rearranges (c c' : Configuration) : Prop where
  resources : c.resources = c'.resources
  metadataFiles : c.sources.metadataFiles.Perm c'.sources.metadataFiles
  persistenceFiles : c.sources.persistenceFiles.Perm c'.sources.persistenceFiles

namespace Rearranges

theorem symm (h : c.Rearranges c') : c'.Rearranges c :=
  ⟨h.resources.symm, h.metadataFiles.symm, h.persistenceFiles.symm⟩

theorem classesIn_eq (h : c.Rearranges c') : c.classesIn = c'.classesIn := by
  funext path
  rw [classesIn, classesIn, h.resources]

theorem describes_iff (h : c.Rearranges c') {path : String} {unit : PersistenceUnit} :
    c.Describes path unit ↔ c'.Describes path unit := by
  rw [Describes, Describes, h.resources]

theorem persistentClasses_perm (h : c.Rearranges c') :
    c.persistentClasses.Perm c'.persistentClasses := by
  rw [persistentClasses, persistentClasses, h.classesIn_eq]
  exact h.persistenceFiles.flatMap_right _

/-- The walk succeeds for both, and the models are the same. -/
theorem visitedModels_perm (h : c.Rearranges c') (hwalk : c.walk.2 = none) :
    c'.walk.2 = none ∧ c.visitedModels.Perm c'.visitedModels := by
  have hfiles : ∀ file, file ∈ c.sources.metadataFiles ↔ file ∈ c'.sources.metadataFiles :=
    fun file => h.metadataFiles.mem_iff
  have hload : IncludeGraph.Loadable c.resources c.sources.metadataFiles :=
    IncludeWalk.loadable_of_run (Prod.ext rfl hwalk)
  have hwalk' : (IncludeWalk.run c.resources c'.sources.metadataFiles).2 = none :=
    IncludeWalk.run_succeeds (hload.congr hfiles)
  have hvisited : c.walk.1.visited.Perm
      (IncludeWalk.run c.resources c'.sources.metadataFiles).1.visited :=
    (IncludeWalk.traversal_of_run (Prod.ext rfl hwalk)).perm
      (IncludeWalk.traversal_of_run (Prod.ext rfl hwalk')) hfiles
  have hrun : c'.walk = IncludeWalk.run c.resources c'.sources.metadataFiles := by
    rw [walk, h.resources]
  rw [visitedModels, visitedModels, hrun]
  exact ⟨hwalk', hvisited.flatMap_right _⟩

/-- **What can be merged can be merged in any order.** -/
theorem exists_namespaces (h : c.Rearranges c') (hm : c.namespaces = .ok m) :
    ∃ m', c'.namespaces = .ok m' := by
  obtain ⟨hwalk, hdescribed, hmerged⟩ := namespaces_eq_ok_iff.1 hm
  obtain ⟨hwalk', hmodels⟩ := h.visitedModels_perm hwalk
  obtain ⟨m', hmerged'⟩ := hmerged.perm hmodels h.persistentClasses_perm
  refine ⟨m', namespaces_eq_ok_iff.2 ⟨hwalk', fun path hpath => ?_, hmerged'⟩⟩
  obtain ⟨unit, hunit⟩ := hdescribed path (h.persistenceFiles.mem_iff.2 hpath)
  exact ⟨unit, h.describes_iff.1 hunit⟩

/-- **And the order does not show.** -/
theorem sameUpToOrder (h : c.Rearranges c') (hm : c.namespaces = .ok m)
    (hm' : c'.namespaces = .ok m') : m.SameUpToOrder m' := by
  obtain ⟨hwalk, -, hmerged⟩ := namespaces_eq_ok_iff.1 hm
  exact hmerged.sameUpToOrder (namespaces_eq_ok_iff.1 hm').2.2 (h.visitedModels_perm hwalk).2
    h.persistentClasses_perm

/-- As long as the metadata files are in one order, it does not show in who
owns a member either. -/
theorem owner?_eq (h : c.Rearranges c')
    (hfiles : c.sources.metadataFiles = c'.sources.metadataFiles) (hm : c.namespaces = .ok m)
    (hm' : c'.namespaces = .ok m') (x : String) : m.owner? x = m'.owner? x := by
  have hmodels : c.visitedModels = c'.visitedModels := by
    rw [visitedModels, visitedModels, walk, walk, h.resources, hfiles]
  have hmerged := (namespaces_eq_ok_iff.1 hm).2.2
  rw [hmodels] at hmerged
  exact hmerged.owner?_eq (namespaces_eq_ok_iff.1 hm').2.2 h.persistentClasses_perm

end Rearranges

end Configuration

end AttributeCache
