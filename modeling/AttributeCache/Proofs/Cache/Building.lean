import AttributeCache.Cache.Snapshot
import AttributeCache.Proofs.Cache.Index
import AttributeCache.Proofs.FirstOccurrences
import Mathlib.Data.String.Basic
/-!
# Building an index, and what is found in it

An index is built unless one of the definitions breaks a rule, and the error
then is that of the first to do so: whether a definition does depends on
those before it and on nothing behind it (`Refused`). What is built tells
the definitions and nothing more (`Indexes`): grouping loses none and
doubles none, because the groups go by entity type and each holds all of its
type.
-/

namespace AttributeCache

namespace AttributeIndex

open Folding

variable {m : NamespaceMap} {index : AttributeIndex} {d e : AttributeDefinition}
variable {ds before : List AttributeDefinition} {entityType code : String}

/-! ## What is refused -/

/-- A definition breaks a rule beside those before it, and this is said of
it. Its own rules come first, then what it belongs to, then the others. -/
inductive Refused (m : NamespaceMap) (before : List AttributeDefinition)
    (d : AttributeDefinition) : CacheError → Prop
  | invalid {broken : AttributeDefinition.Invalid} :
      d.validate = .error broken → Refused m before d (.invalidAttribute broken)
  | unknown : d.validate = .ok () → ¬ m.contains d.entityType →
      Refused m before d (.unknownEntityType d.entityType d.code)
  | duplicate {other : AttributeDefinition} : d.validate = .ok () → m.contains d.entityType →
      other ∈ before → other.entityType = d.entityType → other.code = d.code →
      Refused m before d (.duplicateAttribute d.entityType d.code)

theorem any_code_iff : (declaredFor d.entityType before).any (·.code == d.code) = true ↔
    ∃ other ∈ before, other.entityType = d.entityType ∧ other.code = d.code := by
  simp only [declaredFor, List.any_eq_true, List.mem_filter, beq_iff_eq, and_assoc]

/-- A definition fails to be taken in where it is refused. -/
theorem add_eq_error_iff {error : CacheError} :
    add m (gather before) d = .error error ↔ Refused m before d error := by
  rw [add, getD_find?_gather]
  constructor
  · intro h
    split at h
    · rename_i broken hbroken
      cases h
      exact .invalid hbroken
    · rename_i hvalid
      split at h
      · rename_i hunknown
        cases h
        exact .unknown hvalid (by simpa using hunknown)
      · rename_i hknown
        simp only at h
        split at h
        · rename_i hsame
          cases h
          obtain ⟨other, hother, htype, hcode⟩ := any_code_iff.1 hsame
          exact .duplicate hvalid (by simpa using hknown) hother htype hcode
        · exact absurd h (by simp)
  · rintro (hbroken | ⟨hvalid, hunknown⟩ | ⟨hvalid, hknown, hother, htype, hcode⟩)
    · simp [hbroken]
    · simp [hvalid, hunknown]
    · have hsame := any_code_iff.2 ⟨_, hother, htype, hcode⟩
      simp [hvalid, hknown, hsame]

/-- **The error is that of the first definition that is refused.** -/
theorem build_eq_error_iff {error : CacheError} : build m ds = .error error ↔
    ∃ before d after, ds = before ++ d :: after ∧ Accepted m before ∧
      Refused m before d error := by
  have hmap : build m ds = .error error ↔ ds.foldlM (add m) {} = .error error := by
    rw [build]
    cases ds.foldlM (add m) {} <;> simp [Except.map]
  rw [hmap, foldlM_eq_error_iff]
  constructor
  · rintro ⟨before, d, after, index, rfl, hbefore, hd⟩
    obtain ⟨haccepted, rfl⟩ := foldlM_add_eq_ok_iff.1 hbefore
    exact ⟨before, d, after, rfl, haccepted, add_eq_error_iff.1 hd⟩
  · rintro ⟨before, d, after, rfl, haccepted, hd⟩
    exact ⟨before, d, after, _, rfl, foldlM_add_eq_ok_iff.2 ⟨haccepted, rfl⟩,
      add_eq_error_iff.2 hd⟩

/-! ## What is held -/

/-- In front of another by order number, or by code within one number. -/
def Precedes (d e : AttributeDefinition) : Prop :=
  d.order < e.order ∨ d.order = e.order ∧ d.code < e.code

theorem precedes_of_inDisplayOrder (h : inDisplayOrder d e = true) (hcode : d.code ≠ e.code) :
    Precedes d e := by
  rw [inDisplayOrder, Ordering.isLE_then_iff_or, compare_lt_iff_lt, compare_eq_iff_eq,
    Ordering.isLE_iff_ne_gt, compare_gt_iff_gt, not_lt] at h
  rw [Precedes, Int32.lt_iff_toInt_lt, ← Int32.toInt_inj]
  exact h.imp_right fun hplace => ⟨hplace.1, lt_of_le_of_ne hplace.2 hcode⟩

theorem Accepted.nodup_displayed_codes (h : Accepted m ds) (entityType : String) :
    (((declaredFor entityType ds).mergeSort inDisplayOrder).map (·.code)).Nodup :=
  ((List.mergeSort_perm _ _).map _).nodup_iff.2 (h.nodup_codes entityType)

/-- The definitions of an entity type as they are displayed, no two in one
place. -/
theorem Accepted.pairwise_precedes (h : Accepted m ds) (entityType : String) :
    ((declaredFor entityType ds).mergeSort inDisplayOrder).Pairwise Precedes := by
  have hsorted := List.pairwise_mergeSort inDisplayOrder_trans inDisplayOrder_total
    (declaredFor entityType ds)
  have hcodes := List.pairwise_map.1 (h.nodup_displayed_codes entityType)
  exact hsorted.imp₂ (fun d e => precedes_of_inDisplayOrder) hcodes

/-- A definition has a group that it belongs to. -/
theorem group_mem_groups (hd : d ∈ ds) :
    (d.entityType, (declaredFor d.entityType ds).mergeSort inDisplayOrder) ∈
      (gather ds).ordered.groups := by
  have hfor : d ∈ declaredFor d.entityType ds := List.mem_filter.2 ⟨hd, beq_self_eq_true _⟩
  exact mem_ordered_gather_iff.2 ⟨List.ne_nil_of_mem hfor, rfl⟩

/-- What an index holds is what it was built of. -/
theorem Accepted.flatMap_groups_perm (h : Accepted m ds) :
    ((gather ds).ordered.groups.flatMap (·.2)).Perm ds := by
  have hnodup : ds.Nodup := h.distinct.of_map
  have hmem : ∀ {x d}, x ∈ (gather ds).ordered.groups → d ∈ x.2 → d ∈ ds ∧ d.entityType = x.1 := by
    intro x d hx hd
    rw [(mem_ordered_gather_iff.1 hx).2, List.mem_mergeSort, declaredFor, List.mem_filter,
      beq_iff_eq] at hd
    exact hd
  refine (List.perm_ext_iff_of_nodup ?_ hnodup).2 fun d => ⟨fun hd => ?_, fun hd => ?_⟩
  · -- the groups go by entity type, so no two have a definition in common
    refine List.nodup_flatMap.2 ⟨fun x hx => ?_, ascending_ordered_gather.imp_of_mem ?_⟩
    · rw [(mem_ordered_gather_iff.1 hx).2]
      exact (List.mergeSort_perm _ _).nodup_iff.2 (hnodup.filter _)
    · intro x y hx hy hlt d hd hd'
      rw [← (hmem hx hd).2, ← (hmem hy hd').2, Std.ReflOrd.compare_self] at hlt
      exact Ordering.noConfusion hlt
  · obtain ⟨x, hx, hd⟩ := List.mem_flatMap.1 hd
    exact (hmem hx hd).1
  · have hfor : d ∈ declaredFor d.entityType ds := List.mem_filter.2 ⟨hd, beq_self_eq_true _⟩
    exact List.mem_flatMap.2 ⟨_, group_mem_groups hd, List.mem_mergeSort.2 hfor⟩

/-- What is displayed of an entity type. -/
theorem attributesFor_gather (timestamp : Stamp) :
    (Snapshot.ofIndex timestamp (gather ds).ordered).attributesFor entityType =
      (declaredFor entityType ds).mergeSort inDisplayOrder := by
  rw [Snapshot.attributesFor, Snapshot.ofIndex, find?_ordered, find?_gather]
  split
  · rename_i hnil
    rw [hnil, Option.map_none, Option.getD_none, List.mergeSort_nil]
  · rfl

/-- A code finds the one definition that has it. -/
theorem Accepted.attribute?_eq_some_iff (h : Accepted m ds) (timestamp : Stamp) :
    (Snapshot.ofIndex timestamp (gather ds).ordered).attribute? entityType code = some d ↔
      d ∈ ds ∧ d.entityType = entityType ∧ d.code = code := by
  rw [Snapshot.attribute?, attributesFor_gather,
    FirstOccurrences.find?_eq_some_iff_of_nodup (h.nodup_displayed_codes entityType),
    List.mem_mergeSort, declaredFor, List.mem_filter, beq_iff_eq, and_assoc]

/-- An index tells some definitions and nothing more. -/
structure Indexes (index : AttributeIndex) (ds : List AttributeDefinition) : Prop where
  /-- The entity types are those there are definitions of. -/
  mem_entityTypes : ∀ entityType, entityType ∈ index.groups.map (·.1) ↔
    ∃ d ∈ ds, d.entityType = entityType
  sorted : (index.groups.map (·.1)).Pairwise (· < ·)
  /-- Under each entity type stand its definitions. -/
  grouped : ∀ x ∈ index.groups, x.2.Perm (declaredFor x.1 ds)
  /-- They go strictly by order number and code. -/
  displayed : ∀ x ∈ index.groups, x.2.Pairwise Precedes
  length_eq : index.length = ds.length
  isEmpty_iff : index.isEmpty = true ↔ ds = []
  /-- In a snapshot a code finds its definition, and nothing where there is
  none. -/
  attribute?_iff : ∀ timestamp entityType code d,
    (Snapshot.ofIndex timestamp index).attribute? entityType code = some d ↔
      d ∈ ds ∧ d.entityType = entityType ∧ d.code = code

theorem Accepted.indexes (h : Accepted m ds) : (gather ds).ordered.Indexes ds where
  mem_entityTypes entityType := by
    rw [List.mem_map]
    constructor
    · rintro ⟨x, hx, rfl⟩
      obtain ⟨d, hd⟩ := List.exists_mem_of_ne_nil _ (mem_ordered_gather_iff.1 hx).1
      rw [declaredFor, List.mem_filter, beq_iff_eq] at hd
      exact ⟨d, hd⟩
    · rintro ⟨d, hd, rfl⟩
      exact ⟨_, group_mem_groups hd, rfl⟩
  sorted := List.pairwise_map.2 (ascending_ordered_gather.imp compare_lt_iff_lt.1)
  grouped x hx := by
    rw [(mem_ordered_gather_iff.1 hx).2]
    exact List.mergeSort_perm _ _
  displayed x hx := by
    rw [(mem_ordered_gather_iff.1 hx).2]
    exact h.pairwise_precedes x.1
  length_eq := h.flatMap_groups_perm.length_eq
  isEmpty_iff := by
    rw [isEmpty, List.isEmpty_iff]
    constructor
    · intro hnone
      have hperm := h.flatMap_groups_perm
      rw [hnone] at hperm
      exact hperm.nil_eq.symm
    · rintro rfl
      rfl
  attribute?_iff timestamp entityType code d := h.attribute?_eq_some_iff timestamp

/-- **What an index is built of, and what it then tells.** There is one
exactly where every definition is valid and belongs to a known entity type
and no two of one type have one code. Otherwise the error is that of the
first definition that breaks one of the rules beside those before it. An
index that is built tells the definitions and nothing more, whatever order
they come in. -/
theorem build_indexes (m : NamespaceMap) (ds : List AttributeDefinition) :
    ((∃ index, build m ds = .ok index) ↔ Accepted m ds) ∧
    (∀ error, build m ds = .error error ↔ ∃ before d after, ds = before ++ d :: after ∧
      Accepted m before ∧ Refused m before d error) ∧
    ∀ index, build m ds = .ok index →
      index.Indexes ds ∧ ∀ ds', ds.Perm ds' → build m ds' = .ok index := by
  refine ⟨⟨?_, fun h => ⟨_, build_eq_ok_iff.2 ⟨h, rfl⟩⟩⟩, fun error => build_eq_error_iff, ?_⟩
  · rintro ⟨index, hindex⟩
    exact (build_eq_ok_iff.1 hindex).1
  · intro index hindex
    obtain ⟨haccepted, rfl⟩ := build_eq_ok_iff.1 hindex
    refine ⟨haccepted.indexes, fun ds' hperm => build_eq_ok_iff.2 ⟨haccepted.perm hperm, ?_⟩⟩
    exact ordered_gather_perm haccepted hperm

/-- Two entity types, and definitions that go from one to the other and back. -/
def shopTypes : NamespaceMap :=
  ⟨[⟨"app", ["app.Order", "app.User"]⟩]⟩

def shopDefinitions : List AttributeDefinition :=
  [{ AttributeDefinition.plain .string "app.Order" "note" with order := 2 },
    AttributeDefinition.plain .boolean "app.User" "note",
    { AttributeDefinition.plain .integer "app.Order" "weight" with order := -1 }]

/-- An index is built of them, and not with a code of one type once more. -/
theorem build_indexes_shop :
    (∃ index, build shopTypes shopDefinitions = .ok index ∧ index.Indexes shopDefinitions ∧
      build shopTypes shopDefinitions.reverse = .ok index) ∧
    build shopTypes (shopDefinitions ++ [.plain .date "app.Order" "note"]) =
      .error (.duplicateAttribute "app.Order" "note") := by
  have haccepted : Accepted shopTypes shopDefinitions :=
    ⟨by decide +kernel, by decide +kernel, by decide +kernel⟩
  obtain ⟨hiff, -, hindexes⟩ := build_indexes shopTypes shopDefinitions
  obtain ⟨-, herror, -⟩ :=
    build_indexes shopTypes (shopDefinitions ++ [.plain .date "app.Order" "note"])
  refine ⟨?_, ?_⟩
  · obtain ⟨index, hindex⟩ := hiff.2 haccepted
    obtain ⟨hall, hperm⟩ := hindexes index hindex
    exact ⟨index, hindex, hall, hperm _ (List.reverse_perm _).symm⟩
  · refine (herror _).2 ⟨shopDefinitions, _, [], rfl, haccepted, ?_⟩
    exact .duplicate (by decide +kernel) (by decide +kernel) List.mem_cons_self rfl rfl

end AttributeIndex

end AttributeCache
