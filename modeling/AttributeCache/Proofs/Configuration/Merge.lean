import AttributeCache.Configuration.Merge
import AttributeCache.Proofs.Folding
import AttributeCache.Proofs.Namespace
import AttributeCache.Proofs.Text.Trim
import Mathlib.Data.List.Pairwise
/-!
# What the merged documents say

The namespaces are the root packages in the order they are first declared
in, and who a class belongs to can be read off the documents: a listed class
belongs to the root of the model that lists it, a persistent class to the
first root it is below. `Merged` says this of any part of the documents, so
it is the invariant of all the folds, and of none of them alone: a class may
clash with one from another model, document or descriptor.
-/

namespace AttributeCache

open Folding FirstOccurrences

/-- **The trimmed names are what the texts name.** -/
theorem trimmedNames_eq (names : List String) : trimmedNames names = Text.namesIn names :=
  Text.filter_map_trim

/-- The root package a model declares. -/
def Model.root (model : Model) : String :=
  Text.trim model.rootPackage

/-- The classes a model lists. -/
def Model.listed (model : Model) : List String :=
  Text.namesIn model.classes

/-- The root packages of models, in the order they are first declared in. -/
def declaredRoots (models : List Model) : List String :=
  (models.map Model.root).eraseDups

/-- The classes listed under a root, in order. -/
def listedUnder (models : List Model) (root : String) : List String :=
  (models.filter fun model => model.root == root).flatMap Model.listed

/-- The first of some roots that a class is below. -/
def firstAbove? (roots : List String) (x : String) : Option String :=
  roots.find? fun root => decide (IsBelow root x)

/-- The classes that a root is the first one above, in order. -/
def firstBelow (roots classes : List String) (root : String) : List String :=
  classes.filter fun x => firstAbove? roots x == some root

/-- The members of a root: what is listed under it, and behind that the
persistent classes it is the first root above. -/
def mergedMembers (models : List Model) (classes : List String) (root : String) : List String :=
  listedUnder models root ++ firstBelow (declaredRoots models) classes root

namespace NamespaceMap

variable {models : List Model} {model : Model} {classes : List String} {root x path : String}
variable {m m' : NamespaceMap}

/-! ## Roots and classes -/

theorem mem_listedUnder :
    x ∈ listedUnder models root ↔ ∃ model ∈ models, model.root = root ∧ x ∈ model.listed := by
  simp only [listedUnder, List.mem_flatMap, List.mem_filter, beq_iff_eq, and_assoc]

theorem mem_firstBelow {roots : List String} :
    x ∈ firstBelow roots classes root ↔ x ∈ classes ∧ firstAbove? roots x = some root := by
  rw [firstBelow, List.mem_filter, beq_iff_eq]

theorem mem_declaredRoots : root ∈ declaredRoots models ↔ ∃ model ∈ models, model.root = root := by
  rw [declaredRoots, List.mem_eraseDups, List.mem_map]

theorem nodup_declaredRoots : (declaredRoots models).Nodup :=
  nodup_eraseDups _

theorem declaredRoots_concat :
    declaredRoots (models ++ [model]) = (declaredRoots models ++ [model.root]).eraseDups := by
  rw [declaredRoots, declaredRoots, List.map_append, List.map_singleton,
    eraseDups_eraseDups_append]

theorem mem_roots_of_firstAbove? {roots : List String} (h : firstAbove? roots x = some root) :
    root ∈ roots :=
  List.mem_of_find?_eq_some h

/-- A class is below one of some roots just where one is the first. -/
theorem exists_firstAbove? {roots : List String} :
    (∃ root, firstAbove? roots x = some root) ↔ ∃ root ∈ roots, IsBelow root x := by
  rw [← Option.isSome_iff_exists, firstAbove?, List.find?_isSome]
  simp only [decide_eq_true_eq]

/-- What is listed is listed under a declared root. -/
theorem mem_listed_iff :
    x ∈ models.flatMap Model.listed ↔
      ∃ root ∈ declaredRoots models, x ∈ listedUnder models root := by
  simp only [List.mem_flatMap, mem_listedUnder, mem_declaredRoots]
  constructor
  · rintro ⟨model, hmodel, hx⟩
    exact ⟨_, ⟨model, hmodel, rfl⟩, model, hmodel, rfl, hx⟩
  · rintro ⟨_, -, model, hmodel, -, hx⟩
    exact ⟨model, hmodel, hx⟩

/-- Models that do not repeat a class have none in common. -/
theorem eq_of_mem_listed {model' : Model} (h : (models.flatMap Model.listed).Nodup)
    (hmodel : model ∈ models) (hmodel' : model' ∈ models) (hx : x ∈ model.listed)
    (hx' : x ∈ model'.listed) : model = model' := by
  by_contra hne
  have hsymm : Std.Symm (Function.onFun List.Disjoint Model.listed) :=
    ⟨fun _ _ hdisjoint _ hy hy' => hdisjoint hy' hy⟩
  exact (List.nodup_flatMap.1 h).2.forall hmodel hmodel' hne hx hx'

/-! ## What holds behind some of the documents -/

/-- **What the map says** once some models and some persistent classes have
been taken in. -/
structure Merged (models : List Model) (classes : List String) (m : NamespaceMap) : Prop where
  /-- No model has a blank root package. -/
  declared : ∀ model ∈ models, model.root ≠ ""
  /-- Every persistent class is below a root. -/
  enclosed : ∀ x ∈ classes, ∃ root ∈ declaredRoots models, IsBelow root x
  /-- No class occurs twice, wherever it comes from. -/
  distinct : (models.flatMap Model.listed ++ classes).Nodup
  eq_ofRoots : m = ofRoots (declaredRoots models) (mergedMembers models classes)

theorem merged_nil : Merged [] [] {} where
  declared _ hmodel := absurd hmodel List.not_mem_nil
  enclosed _ hx := absurd hx List.not_mem_nil
  distinct := List.nodup_nil
  eq_ofRoots := rfl

namespace Merged

theorem unique (h : Merged models classes m) (h' : Merged models classes m') : m = m' :=
  h.eq_ofRoots.trans h'.eq_ofRoots.symm

/-- The namespaces go by the roots. -/
theorem map_name (h : Merged models classes m) :
    m.namespaces.map (·.name) = declaredRoots models := by
  rw [h.eq_ofRoots, ofRoots, List.map_map]
  exact List.map_id _

theorem of_append_models {more : List Model} (h : Merged (models ++ more) [] m) :
    ∃ m, Merged models [] m := by
  refine ⟨_, fun model hmodel => h.declared model (List.mem_append_left _ hmodel),
    fun x hx => absurd hx List.not_mem_nil, ?_, rfl⟩
  have hall := h.distinct
  rw [List.append_nil, List.flatMap_append] at hall
  rw [List.append_nil]
  exact (List.nodup_append.1 hall).1

theorem of_append_classes {more : List String} (h : Merged models (classes ++ more) m) :
    ∃ m, Merged models classes m := by
  refine ⟨_, h.declared, fun x hx => h.enclosed x (List.mem_append_left _ hx), ?_, rfl⟩
  have hall := h.distinct
  rw [← List.append_assoc] at hall
  exact (List.nodup_append.1 hall).1

/-- What a root has is a class of the documents, and every class of theirs
some root has. -/
theorem mem_members_iff (h : Merged models classes m) :
    (∃ root ∈ declaredRoots models, x ∈ mergedMembers models classes root) ↔
      x ∈ models.flatMap Model.listed ++ classes := by
  rw [List.mem_append, mem_listed_iff]
  simp only [mergedMembers, List.mem_append, mem_firstBelow]
  constructor
  · rintro ⟨root, hroot, hx | hx⟩
    · exact .inl ⟨root, hroot, hx⟩
    · exact .inr hx.1
  · rintro (⟨root, hroot, hx⟩ | hx)
    · exact ⟨root, hroot, .inl hx⟩
    · obtain ⟨root, hroot⟩ := exists_firstAbove?.2 (h.enclosed x hx)
      exact ⟨root, mem_roots_of_firstAbove? hroot, .inr ⟨hx, hroot⟩⟩

/-- And no two roots have one class. -/
theorem root_unique {other : String} (h : Merged models classes m)
    (hx : x ∈ mergedMembers models classes root)
    (hx' : x ∈ mergedMembers models classes other) : root = other := by
  obtain ⟨hlisted, -, hapart⟩ := List.nodup_append.1 h.distinct
  -- a class that is listed is not a persistent one as well
  have hnot : ∀ {root}, x ∈ listedUnder models root → x ∉ classes := by
    intro root hin hclass
    obtain ⟨model, hmodel, -, hin⟩ := mem_listedUnder.1 hin
    exact hapart x (List.mem_flatMap.2 ⟨model, hmodel, hin⟩) x hclass rfl
  rw [mergedMembers, List.mem_append, mem_firstBelow] at hx hx'
  -- listed twice, listed and persistent, or persistent twice
  rcases hx with hx | ⟨hclass, hx⟩ <;> rcases hx' with hx' | ⟨hclass', hx'⟩
  · obtain ⟨model, hmodel, rfl, hin⟩ := mem_listedUnder.1 hx
    obtain ⟨model', hmodel', rfl, hin'⟩ := mem_listedUnder.1 hx'
    rw [eq_of_mem_listed hlisted hmodel hmodel' hin hin']
  · exact absurd hclass' (hnot hx)
  · exact absurd hclass (hnot hx')
  · exact Option.some.inj (hx.symm.trans hx')

/-- One more class is new when no root has it. -/
theorem nodup_concat (h : Merged models classes m) :
    (models.flatMap Model.listed ++ (classes ++ [x])).Nodup ↔
      ∀ root ∈ declaredRoots models, x ∉ mergedMembers models classes root := by
  rw [← List.append_assoc, ← List.concat_eq_append, List.nodup_concat, ← h.mem_members_iff,
    and_iff_left h.distinct]
  simp only [not_exists, not_and]

end Merged

/-! ## Listed classes -/

theorem settles_insert {roots : List String} {members : String → List String} {position : Nat}
    (hnodup : roots.Nodup) (hroot : roots[position]? = some root) :
    Settles (fun m x => m.insert position x) (fun x => [x]) fun xs m =>
      (xs.Nodup ∧ ∀ other ∈ roots, ∀ x ∈ xs, x ∉ members other) ∧
        m = ofRoots roots (under members root xs) where
  step := by
    rintro taken _ x s' ⟨⟨hdistinct, hfree⟩, rfl⟩
    -- the root has the classes taken in so far, so a new one is new to it too
    rw [insert_ofRoots hnodup hroot, under_under]
    refine and_congr_left fun _ => ?_
    simp only [mem_under, not_or, List.nodup_append, List.mem_append, List.mem_singleton]
    constructor
    · intro h
      refine ⟨⟨hdistinct, List.nodup_singleton x, fun y hy z hz hyz => ?_⟩,
        fun other hother y hy => ?_⟩
      · exact (h root (List.mem_of_getElem? hroot)).2 ⟨rfl, by rwa [← hz, ← hyz]⟩
      · rcases hy with hy | rfl
        · exact hfree other hother y hy
        · exact (h other hother).1
    · rintro ⟨⟨-, -, hnew⟩, hout⟩ other hother
      exact ⟨hout other hother x (.inr rfl), fun ⟨_, hx⟩ => hnew x hx x rfl rfl⟩
  of_append := by
    rintro taken more s ⟨⟨hdistinct, hfree⟩, -⟩
    exact ⟨_, ⟨(List.nodup_append.1 hdistinct).1,
      fun other hother x hx => hfree other hother x (List.mem_append_left _ hx)⟩, rfl⟩
  unique h h' := h.2.trans h'.2.symm

theorem insertAll_ofRoots {roots xs : List String} {members : String → List String} {position : Nat}
    (hnodup : roots.Nodup) (hroot : roots[position]? = some root) :
    (ofRoots roots members).insertAll position xs = .ok m ↔
      (xs.Nodup ∧ ∀ other ∈ roots, ∀ x ∈ xs, x ∉ members other) ∧
        m = ofRoots roots (under members root xs) := by
  have hnone : (([] : List String).Nodup ∧ ∀ other ∈ roots, ∀ x ∈ [], x ∉ members other) ∧
      ofRoots roots members = ofRoots roots (under members root []) :=
    ⟨⟨List.nodup_nil, fun _ _ _ hx => absurd hx List.not_mem_nil⟩, by rw [under_nil]⟩
  rw [insertAll, (settles_insert hnodup hroot).foldlM_eq_ok_iff hnone, List.nil_append,
    List.flatMap_singleton']

theorem mergedMembers_nil : mergedMembers models [] = listedUnder models := by
  funext root
  rw [mergedMembers, firstBelow, List.filter_nil, List.append_nil]

theorem listedUnder_concat :
    listedUnder (models ++ [model]) = under (listedUnder models) model.root model.listed := by
  funext root
  simp only [listedUnder, under, List.filter_append, List.flatMap_append]
  by_cases h : model.root = root
  · simp [h]
  · simp [h, Ne.symm h]

theorem listedUnder_eq_nil (h : root ∉ declaredRoots models) : listedUnder models root = [] := by
  refine List.eq_nil_iff_forall_not_mem.2 fun x hx => ?_
  obtain ⟨model, hmodel, hroot, -⟩ := mem_listedUnder.1 hx
  exact h (mem_declaredRoots.2 ⟨model, hmodel, hroot⟩)

/-- A model of a root that is not blank declares it, and then only its
classes can fail. -/
theorem addModel_ofRoots (h : model.root ≠ "") :
    (ofRoots (declaredRoots models) (listedUnder models)).addModel path model = .ok m ↔
      (model.listed.Nodup ∧ ∀ root ∈ declaredRoots (models ++ [model]), ∀ x ∈ model.listed,
        x ∉ listedUnder models root) ∧
      m = ofRoots (declaredRoots (models ++ [model])) (listedUnder (models ++ [model])) := by
  have hnew : model.root ∉ declaredRoots models → listedUnder models model.root = [] :=
    listedUnder_eq_nil
  obtain ⟨position, hdeclare, hposition⟩ := declare_ofRoots nodup_declaredRoots hnew
  rw [← declaredRoots_concat] at hdeclare hposition
  rw [listedUnder_concat, ← insertAll_ofRoots nodup_declaredRoots hposition, addModel]
  have hroot : (Text.trim model.rootPackage).isEmpty = false := String.isEmpty_eq_false_iff.2 h
  simp only [hroot]
  rw [Model.root] at hdeclare
  rw [hdeclare, trimmedNames_eq]
  rfl

/-- The classes of one more model are new when no root has one of them. -/
theorem nodup_listed_concat (h : (models.flatMap Model.listed).Nodup) :
    ((models ++ [model]).flatMap Model.listed).Nodup ↔
      model.listed.Nodup ∧ ∀ root ∈ declaredRoots (models ++ [model]), ∀ x ∈ model.listed,
        x ∉ listedUnder models root := by
  rw [List.flatMap_append, List.flatMap_singleton, List.nodup_append]
  constructor
  · rintro ⟨-, hnodup, hout⟩
    refine ⟨hnodup, fun root _ x hx hin => ?_⟩
    obtain ⟨other, hother, -, hin⟩ := mem_listedUnder.1 hin
    exact hout x (List.mem_flatMap.2 ⟨other, hother, hin⟩) x hx rfl
  · rintro ⟨hnodup, hfree⟩
    refine ⟨h, hnodup, fun y hy x hx hyx => ?_⟩
    obtain ⟨other, hother, hy⟩ := List.mem_flatMap.1 hy
    refine hfree other.root ?_ x hx (mem_listedUnder.2 ⟨other, hother, rfl, hyx ▸ hy⟩)
    exact mem_declaredRoots.2 ⟨other, List.mem_append_left _ hother, rfl⟩

theorem addModel_of_blank (h : model.root = "") : m.addModel path model ≠ .ok m' := by
  have hroot : (Text.trim model.rootPackage).isEmpty = true := String.isEmpty_iff.2 h
  simp [addModel, hroot]

/-- A model takes its root and its classes in. -/
theorem settles_addModel (path : String) :
    Settles (addModel path) (fun model => [model]) fun models m => Merged models [] m where
  step := by
    intro models m model m' h
    -- a blank root fails before anything is taken in
    by_cases hblank : model.root = ""
    · refine iff_of_false (addModel_of_blank hblank) fun h' => ?_
      exact h'.declared model (List.mem_append_right _ List.mem_cons_self) hblank
    · rw [h.eq_ofRoots, mergedMembers_nil, addModel_ofRoots hblank]
      have hdistinct := h.distinct
      rw [List.append_nil] at hdistinct
      rw [← nodup_listed_concat hdistinct]
      constructor
      · rintro ⟨hnodup, rfl⟩
        refine ⟨fun other hother => ?_, fun x hx => absurd hx List.not_mem_nil, ?_, ?_⟩
        · rcases List.mem_append.1 hother with hother | hother
          · exact h.declared other hother
          · rwa [List.mem_singleton.1 hother]
        · rwa [List.append_nil]
        · rw [mergedMembers_nil]
      · intro h'
        have hnodup := h'.distinct
        rw [List.append_nil] at hnodup
        refine ⟨hnodup, ?_⟩
        rw [h'.eq_ofRoots, mergedMembers_nil]
  of_append h := h.of_append_models
  unique h h' := h.unique h'

/-- A document takes in the models it has. -/
theorem settles_addDocument :
    Settles addDocument (fun x => x.2.models) fun models m => Merged models [] m where
  step := by
    intro models m x m' h
    rw [addDocument, (settles_addModel x.1.text).foldlM_eq_ok_iff h, List.flatMap_singleton']
  of_append h := h.of_append_models
  unique h h' := h.unique h'

/-! ## Persistent classes -/

theorem mergedMembers_concat (h : firstAbove? (declaredRoots models) x = some root) :
    mergedMembers models (classes ++ [x]) = under (mergedMembers models classes) root [x] := by
  funext other
  simp only [mergedMembers, firstBelow, under, List.filter_append]
  by_cases hother : other = root
  · simp [h, hother]
  · simp [h, hother, Ne.symm hother]

/-- A persistent class goes to the first root above it. -/
theorem settles_addPersistent :
    Settles addPersistent (fun x => [x]) fun classes m => Merged models classes m where
  step := by
    intro classes m x m' h
    rw [addPersistent, h.eq_ofRoots, enclosing?_ofRoots]
    cases hposition : (declaredRoots models).findIdx? fun root => decide (IsBelow root x) with
    | none =>
      refine iff_of_false (fun h => nomatch h) fun h' => ?_
      obtain ⟨root, hroot, hbelow⟩ := h'.enclosed x (List.mem_append_right _ List.mem_cons_self)
      have hnone := List.findIdx?_eq_none_iff.1 hposition root hroot
      exact absurd hbelow (of_decide_eq_false hnone)
    | some position =>
      obtain ⟨root, hat, hfirst⟩ := exists_root_of_findIdx? hposition
      have habove : ∃ root ∈ declaredRoots models, IsBelow root x :=
        exists_firstAbove?.1 ⟨root, hfirst⟩
      simp only
      rw [insert_ofRoots nodup_declaredRoots hat, ← mergedMembers_concat hfirst, ← h.nodup_concat]
      constructor
      · rintro ⟨hdistinct, rfl⟩
        refine ⟨h.declared, fun y hy => ?_, hdistinct, rfl⟩
        rcases List.mem_append.1 hy with hy | hy
        · exact h.enclosed y hy
        · rwa [List.mem_singleton.1 hy]
      · exact fun h' => ⟨h'.distinct, h'.eq_ofRoots⟩
  of_append h := h.of_append_classes
  unique h h' := h.unique h'

end NamespaceMap

namespace Configuration

variable {c : Configuration} {m m' : NamespaceMap} {models : List Model} {classes : List String}
variable {path : String}

/-! ## What there is to merge -/

/-- The models of the visited documents, in order. -/
def visitedModels (c : Configuration) : List Model :=
  c.walk.1.visited.flatMap (·.2.models)

/-- A location has a descriptor, and this is its unit. -/
def Describes (c : Configuration) (path : String) (unit : PersistenceUnit) : Prop :=
  c.resources.document PersistenceDocument.ofTree path = .ok ⟨some unit⟩

/-- The classes of a descriptor. -/
def classesIn (c : Configuration) (path : String) : List String :=
  match c.resources.document PersistenceDocument.ofTree path with
  | .ok ⟨some unit⟩ => Text.namesIn unit.classes
  | _ => []

/-- The classes of all descriptors, in order. -/
def persistentClasses (c : Configuration) : List String :=
  c.sources.persistenceFiles.flatMap c.classesIn

/-- Nothing keeps the documents from being merged. -/
structure Mergeable (c : Configuration) : Prop where
  /-- The walk over the metadata documents succeeds. -/
  walked : c.walk.2 = none
  /-- No model has a blank root package. -/
  declared : ∀ model ∈ c.visitedModels, model.root ≠ ""
  /-- Every descriptor is there, is well formed, and has a unit. -/
  described : ∀ path ∈ c.sources.persistenceFiles, ∃ unit, c.Describes path unit
  /-- Every persistent class is below a root. -/
  enclosed : ∀ x ∈ c.persistentClasses, ∃ root ∈ declaredRoots c.visitedModels, IsBelow root x
  /-- No class occurs twice, wherever it comes from. -/
  distinct : (c.visitedModels.flatMap Model.listed ++ c.persistentClasses).Nodup

/-! ## The folds -/

theorem afterWalk_eq_ok_iff {α : Type} {a : α}
    {fold : List (NormalPath × MetadataDocument) → Except ConfigurationError α} :
    c.afterWalk fold = .ok a ↔ c.walk.2 = none ∧ fold c.walk.1.visited = .ok a := by
  rw [afterWalk]
  obtain ⟨progress, failure⟩ := c.walk
  simp only
  cases hfold : fold progress.visited with
  | error e => simp
  | ok b => cases failure <;> simp

theorem mapError_eq_ok_iff {e : Except ConfigurationError NamespaceMap} :
    e.mapError MetadataError.configuration = .ok m ↔ e = .ok m := by
  cases e with
  | error e => simp [Except.mapError]
  | ok m' => simp [Except.mapError]

/-- A descriptor takes in the classes it has. -/
theorem addPersistence_eq_ok_iff (h : NamespaceMap.Merged models classes m) :
    c.addPersistence m path = .ok m' ↔
      (∃ unit, c.Describes path unit) ∧
        NamespaceMap.Merged models (classes ++ c.classesIn path) m' := by
  rw [addPersistence, bind_eq_ok_iff, classesIn]
  simp only [Describes]
  rcases c.resources.document PersistenceDocument.ofTree path with e | ⟨_ | unit⟩
  · simp
  · simp [throw, throwThe, MonadExceptOf.throw]
  · have hfold : (trimmedNames unit.classes).foldlM NamespaceMap.addPersistent m = .ok m' ↔
        NamespaceMap.Merged models (classes ++ Text.namesIn unit.classes) m' := by
      rw [trimmedNames_eq, NamespaceMap.settles_addPersistent.foldlM_eq_ok_iff h,
        List.flatMap_singleton']
    simp [mapError_eq_ok_iff, hfold]

/-- And so do the descriptors, one after the other. -/
theorem settles_addPersistence (models : List Model) :
    Settles c.addPersistence (fun path => [path]) fun paths m =>
      (∀ path ∈ paths, ∃ unit, c.Describes path unit) ∧
        NamespaceMap.Merged models (paths.flatMap c.classesIn) m where
  step := by
    rintro paths m path m' ⟨hpaths, h⟩
    rw [addPersistence_eq_ok_iff h, List.flatMap_append, List.flatMap_singleton]
    refine and_congr_left fun _ => ⟨fun hpath other hother => ?_, fun hall => ?_⟩
    · rcases List.mem_append.1 hother with hother | hother
      · exact hpaths other hother
      · rwa [List.mem_singleton.1 hother]
    · exact hall path (List.mem_append_right _ List.mem_cons_self)
  of_append := by
    rintro paths more m ⟨hpaths, h⟩
    rw [List.flatMap_append] at h
    obtain ⟨m', h'⟩ := h.of_append_classes
    exact ⟨m', fun path hpath => hpaths path (List.mem_append_left _ hpath), h'⟩
  unique h h' := h.2.unique h'.2

/-- **What merging gives**, and that it gives anything. -/
theorem namespaces_eq_ok_iff :
    c.namespaces = .ok m ↔
      c.walk.2 = none ∧ (∀ path ∈ c.sources.persistenceFiles, ∃ unit, c.Describes path unit) ∧
        NamespaceMap.Merged c.visitedModels c.persistentClasses m := by
  have hvisited : ∀ m, c.walk.1.visited.foldlM NamespaceMap.addDocument {} = .ok m ↔
      NamespaceMap.Merged c.visitedModels [] m :=
    fun m => NamespaceMap.settles_addDocument.foldlM_eq_ok_iff NamespaceMap.merged_nil
  -- the descriptors are taken in behind all models
  have hfiles : ∀ m', NamespaceMap.Merged c.visitedModels [] m' →
      (c.sources.persistenceFiles.foldlM c.addPersistence m' = .ok m ↔
        (∀ path ∈ c.sources.persistenceFiles, ∃ unit, c.Describes path unit) ∧
          NamespaceMap.Merged c.visitedModels c.persistentClasses m) := by
    intro m' h'
    have hnone : (∀ path ∈ ([] : List String), ∃ unit, c.Describes path unit) ∧
        NamespaceMap.Merged c.visitedModels ([].flatMap c.classesIn) m' :=
      ⟨fun _ hpath => absurd hpath List.not_mem_nil, h'⟩
    rw [(settles_addPersistence c.visitedModels).foldlM_eq_ok_iff hnone, List.flatMap_singleton']
    rfl
  rw [namespaces, bind_eq_ok_iff]
  simp only [afterWalk_eq_ok_iff, hvisited]
  constructor
  · rintro ⟨m', ⟨hwalk, h'⟩, hm⟩
    exact ⟨hwalk, (hfiles m' h').1 hm⟩
  · rintro ⟨hwalk, hall, h⟩
    have hsplit : NamespaceMap.Merged c.visitedModels ([] ++ c.persistentClasses) m := h
    obtain ⟨m', h'⟩ := hsplit.of_append_classes
    exact ⟨m', ⟨hwalk, h'⟩, (hfiles m' h').2 ⟨hall, h⟩⟩

/-! ## The namespaces -/

/-- The namespaces as the documents have them. -/
structure Namespaced (c : Configuration) (m : NamespaceMap) : Prop where
  /-- The roots in the order they are first declared in, each with the classes
  listed under it and then the persistent ones below it, in order. -/
  namespaces : m.namespaces = (declaredRoots c.visitedModels).map fun root =>
    ⟨root, listedUnder c.visitedModels root ++
      firstBelow (declaredRoots c.visitedModels) c.persistentClasses root⟩
  /-- A listed class belongs to the root of the model that lists it. -/
  owner_of_listed : ∀ model ∈ c.visitedModels, ∀ x ∈ model.listed,
    m.owner? x = some model.root
  /-- A persistent class belongs to the first root it is below. -/
  owner_of_persistent : ∀ x ∈ c.persistentClasses, ∃ before root after,
    declaredRoots c.visitedModels = before ++ root :: after ∧ IsBelow root x ∧
      (∀ other ∈ before, ¬ IsBelow other x) ∧ m.owner? x = some root

theorem namespaced_of_merged
    (h : NamespaceMap.Merged c.visitedModels c.persistentClasses m) : c.Namespaced m := by
  have howner : ∀ root ∈ declaredRoots c.visitedModels, ∀ x,
      x ∈ mergedMembers c.visitedModels c.persistentClasses root → m.owner? x = some root := by
    intro root hroot x hx
    rw [h.eq_ofRoots]
    exact NamespaceMap.owner?_ofRoots hroot hx fun other _ hother => h.root_unique hother hx
  refine ⟨congrArg NamespaceMap.namespaces h.eq_ofRoots, fun model hmodel x hx => ?_,
    fun x hx => ?_⟩
  · refine howner _ (NamespaceMap.mem_declaredRoots.2 ⟨model, hmodel, rfl⟩) x ?_
    exact List.mem_append_left _ (NamespaceMap.mem_listedUnder.2 ⟨model, hmodel, rfl, hx⟩)
  · obtain ⟨root, hfirst⟩ := NamespaceMap.exists_firstAbove?.2 (h.enclosed x hx)
    obtain ⟨hbelow, before, after, hsplit, hbefore⟩ := List.find?_eq_some_iff_append.1 hfirst
    refine ⟨before, root, after, hsplit, of_decide_eq_true hbelow, fun other hother => ?_, ?_⟩
    · simpa using hbefore other hother
    · refine howner root (NamespaceMap.mem_roots_of_firstAbove? hfirst) x ?_
      exact List.mem_append_right _ (NamespaceMap.mem_firstBelow.2 ⟨hx, hfirst⟩)

/-- **The namespaces of a configuration.** There are any exactly where
nothing keeps the documents from being merged, and then they are as the
documents have them. -/
theorem namespaces_iff_mergeable (c : Configuration) :
    ((∃ m, c.namespaces = .ok m) ↔ c.Mergeable) ∧
      ∀ m, c.namespaces = .ok m → c.Namespaced m := by
  refine ⟨⟨?_, fun h => ?_⟩, fun m hm => ?_⟩
  · rintro ⟨m, hm⟩
    obtain ⟨hwalk, hall, h⟩ := namespaces_eq_ok_iff.1 hm
    exact ⟨hwalk, h.declared, hall, h.enclosed, h.distinct⟩
  · exact ⟨_, namespaces_eq_ok_iff.2
      ⟨h.walked, h.described, h.declared, h.enclosed, h.distinct, rfl⟩⟩
  · exact namespaced_of_merged (namespaces_eq_ok_iff.1 hm).2.2

/-- A document that includes one with a root below its own, and a descriptor
with a class below both. Blanks stand around some of the names. -/
def twoRoots : Configuration where
  resources := .memory [
    ("top.json", Text.encode ("\x7b\"include\":[\"base.json\"],\"metadata_models\":[" ++
      "\x7b\"root_package\":\" app \",\"classes\":[\" app.User\\n\",\" \"]\x7d]\x7d")),
    ("base.json", Text.encode ("\x7b\"metadata_models\":[" ++
      "\x7b\"root_package\":\"app.base\",\"classes\":[\"Entity\"]\x7d]\x7d")),
    ("unit.json", Text.encode ("\x7b\"persistence_unit\":" ++
      "\x7b\"classes\":[\"app.Order\",\"\\tapp.base.Log \"]\x7d\x7d"))]
  sources := ⟨["top.json"], ["unit.json"]⟩

/-- Nothing keeps these from being merged, and the included document
declares its root first. -/
theorem mergeable_twoRoots :
    twoRoots.namespaces =
        .ok ⟨[⟨"app.base", ["Entity", "app.base.Log"]⟩, ⟨"app", ["app.User", "app.Order"]⟩]⟩ ∧
      twoRoots.Mergeable ∧
      twoRoots.Namespaced
        ⟨[⟨"app.base", ["Entity", "app.base.Log"]⟩, ⟨"app", ["app.User", "app.Order"]⟩]⟩ := by
  have hm : twoRoots.namespaces =
      .ok ⟨[⟨"app.base", ["Entity", "app.base.Log"]⟩, ⟨"app", ["app.User", "app.Order"]⟩]⟩ := by
    decide +kernel
  obtain ⟨hiff, hnamespaced⟩ := namespaces_iff_mergeable twoRoots
  exact ⟨hm, hiff.1 ⟨_, hm⟩, hnamespaced _ hm⟩

end Configuration

end AttributeCache
