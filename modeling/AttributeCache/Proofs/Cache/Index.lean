import AttributeCache.Cache.Index
import AttributeCache.Proofs.Folding
import AttributeCache.Proofs.Keyed
import AttributeCache.Proofs.Sorting
import Mathlib.Data.List.Induction
import Mathlib.Data.List.Nodup
import Mathlib.Order.Compare
/-!
# What an index holds

An index is built exactly of definitions that are valid, belong to known
entity types and have codes of their own (`Accepted`), and then it holds
under each entity type the definitions of that type in display order
(`build_eq_ok_iff`). Codes being different, display order leaves no choice,
so the order the definitions come in does not show (`ordered_gather_perm`).
-/

namespace AttributeCache

namespace AttributeIndex

open Folding

variable {m : NamespaceMap} {index index' : AttributeIndex} {d : AttributeDefinition}
variable {ds ds' : List AttributeDefinition} {entityType : String}

/-! ## Definitions by entity type -/

/-- The definitions of an entity type, in order. -/
def declaredFor (entityType : String) (ds : List AttributeDefinition) :
    List AttributeDefinition :=
  ds.filter (·.entityType == entityType)

/-- The index with a definition behind those of its entity type. -/
def put (index : AttributeIndex) (d : AttributeDefinition) : AttributeIndex :=
  let group := (Keyed.find? d.entityType index.groups).getD []
  ⟨Keyed.insert d.entityType (group ++ [d]) index.groups⟩

/-- Definitions put into an index one after the other. -/
def gather (ds : List AttributeDefinition) : AttributeIndex :=
  ds.foldl put {}

theorem gather_concat : gather (ds ++ [d]) = (gather ds).put d := by
  rw [gather, List.foldl_append]
  rfl

theorem ascending_gather : Keyed.Ascending (gather ds).groups := by
  induction ds using List.reverseRecOn with
  | nil => exact .nil
  | append_singleton ds d ih =>
    rw [gather_concat]
    exact ih.insert

theorem getD_of_ne_nil {group : List AttributeDefinition} :
    (if group = [] then none else some group).getD [] = group := by
  split
  · rename_i hnil
    rw [hnil, Option.getD_none]
  · rfl

/-- **Under each entity type stand its definitions**, in the order they came
in. -/
theorem find?_gather : Keyed.find? entityType (gather ds).groups =
    if declaredFor entityType ds = [] then none else some (declaredFor entityType ds) := by
  induction ds using List.reverseRecOn generalizing entityType with
  | nil => rfl
  | append_singleton ds d ih =>
    rw [gather_concat, put, Keyed.find?_insert, ih, ih, getD_of_ne_nil]
    by_cases h : entityType = d.entityType
    · simp [declaredFor, h]
    · simp [declaredFor, h, Ne.symm h]

theorem getD_find?_gather :
    (Keyed.find? entityType (gather ds).groups).getD [] = declaredFor entityType ds := by
  rw [find?_gather, getD_of_ne_nil]

/-! ## What is taken in -/

/-- Nothing is wrong with the definitions, alone or together. -/
structure Accepted (m : NamespaceMap) (ds : List AttributeDefinition) : Prop where
  /-- Each is valid. -/
  valid : ∀ d ∈ ds, d.validate = .ok ()
  /-- Each belongs to a known entity type. -/
  known : ∀ d ∈ ds, m.contains d.entityType = true
  /-- No two of one entity type have one code. -/
  distinct : (ds.map fun d => (d.entityType, d.code)).Nodup

theorem accepted_concat_iff (h : Accepted m ds) :
    Accepted m (ds ++ [d]) ↔ d.validate = .ok () ∧ m.contains d.entityType = true ∧
      ∀ e ∈ declaredFor d.entityType ds, e.code ≠ d.code := by
  have hnew : (d.entityType, d.code) ∉ ds.map (fun d => (d.entityType, d.code)) ↔
      ∀ e ∈ declaredFor d.entityType ds, e.code ≠ d.code := by
    simp only [declaredFor, List.mem_filter, beq_iff_eq, List.mem_map, Prod.mk.injEq, not_exists,
      not_and, and_imp]
  rw [← hnew]
  constructor
  · intro hall
    have hdistinct := hall.distinct
    rw [List.map_append, List.map_singleton, ← List.concat_eq_append,
      List.nodup_concat] at hdistinct
    have hmem : d ∈ ds ++ [d] := List.mem_append_right _ List.mem_cons_self
    exact ⟨hall.valid d hmem, hall.known d hmem, hdistinct.1⟩
  · rintro ⟨hvalid, hknown, hnew⟩
    refine ⟨fun e he => ?_, fun e he => ?_, ?_⟩
    · rcases List.mem_append.1 he with he | he
      · exact h.valid e he
      · rwa [List.mem_singleton.1 he]
    · rcases List.mem_append.1 he with he | he
      · exact h.known e he
      · rwa [List.mem_singleton.1 he]
    · rw [List.map_append, List.map_singleton, ← List.concat_eq_append, List.nodup_concat]
      exact ⟨hnew, h.distinct⟩

theorem Accepted.of_append (h : Accepted m (ds ++ ds')) : Accepted m ds where
  valid d hd := h.valid d (List.mem_append_left _ hd)
  known d hd := h.known d (List.mem_append_left _ hd)
  distinct := by
    have hdistinct := h.distinct
    rw [List.map_append] at hdistinct
    exact (List.nodup_append.1 hdistinct).1

/-- A definition is taken in where it may stand beside those before it. -/
theorem add_eq_ok_iff (h : Accepted m ds) :
    add m (gather ds) d = .ok index ↔ Accepted m (ds ++ [d]) ∧ index = gather (ds ++ [d]) := by
  rw [accepted_concat_iff h, gather_concat, add]
  cases hvalid : d.validate with
  | error e => simp
  | ok u =>
    simp only [getD_find?_gather]
    by_cases hknown : m.contains d.entityType = true
    · rw [if_neg (by simp [hknown])]
      by_cases hsame : (declaredFor d.entityType ds).any (·.code == d.code) = true
      · rw [if_pos hsame]
        refine iff_of_false (by simp) fun hall => ?_
        obtain ⟨e, he, hcode⟩ := List.any_eq_true.1 hsame
        exact hall.1.2.2 e he (eq_of_beq hcode)
      · rw [if_neg hsame]
        have hnew : ∀ e ∈ declaredFor d.entityType ds, e.code ≠ d.code := fun e he hcode =>
          hsame (List.any_eq_true.2 ⟨e, he, beq_iff_eq.2 hcode⟩)
        rw [Except.ok.injEq, eq_comm, put, getD_find?_gather]
        exact (and_iff_right ⟨trivial, hknown, hnew⟩).symm
    · rw [if_pos (by simp [hknown])]
      exact iff_of_false (by simp) fun hall => hknown hall.1.2.1

theorem settles_add :
    Settles (add m) (fun d => [d]) fun ds index => Accepted m ds ∧ index = gather ds where
  step := by
    rintro ds _ d index' ⟨h, rfl⟩
    exact add_eq_ok_iff h
  of_append h := ⟨_, h.1.of_append, rfl⟩
  unique h h' := h.2.trans h'.2.symm

theorem foldlM_add_eq_ok_iff :
    ds.foldlM (add m) {} = .ok index ↔ Accepted m ds ∧ index = gather ds := by
  have hnone : Accepted m [] ∧ ({} : AttributeIndex) = gather [] := by
    refine ⟨⟨?_, ?_, List.nodup_nil⟩, rfl⟩
    all_goals exact fun d hd => absurd hd List.not_mem_nil
  rw [settles_add.foldlM_eq_ok_iff hnone, List.nil_append, List.flatMap_singleton']

/-- **What is built**, and that anything is. -/
theorem build_eq_ok_iff : build m ds = .ok index ↔ Accepted m ds ∧ index = (gather ds).ordered := by
  rw [build]
  constructor
  · intro h
    cases hgathered : ds.foldlM (add m) {} with
    | error e =>
      rw [hgathered] at h
      exact nomatch h
    | ok gathered =>
      obtain ⟨haccepted, rfl⟩ := foldlM_add_eq_ok_iff.1 hgathered
      rw [hgathered] at h
      exact ⟨haccepted, (Except.ok.inj h).symm⟩
  · rintro ⟨haccepted, rfl⟩
    rw [foldlM_add_eq_ok_iff.2 ⟨haccepted, rfl⟩]
    rfl

/-! ## Display order -/

/-- How two definitions stand to each other in display order. -/
def displayOrder : AttributeDefinition → AttributeDefinition → Ordering :=
  compareLex (compareOn fun d => d.order.toInt) (compareOn fun d => d.code)

instance : Std.TransCmp displayOrder := by
  unfold displayOrder
  infer_instance

theorem inDisplayOrder_trans (a b c : AttributeDefinition) (hab : inDisplayOrder a b = true)
    (hbc : inDisplayOrder b c = true) : inDisplayOrder a c = true :=
  @Std.TransCmp.isLE_trans _ displayOrder _ a b c hab hbc

theorem inDisplayOrder_total (a b : AttributeDefinition) :
    (inDisplayOrder a b || inDisplayOrder b a) = true :=
  @Sorting.isLE_or_isLE _ displayOrder _ a b

/-- Definitions that may each stand before the other have one code. -/
theorem code_eq_of_inDisplayOrder {a b : AttributeDefinition} (hab : inDisplayOrder a b = true)
    (hba : inDisplayOrder b a = true) : a.code = b.code := by
  have heq : displayOrder a b = .eq := Std.OrientedCmp.isLE_antisymm hab hba
  exact Std.LawfulEqOrd.eq_of_compare (Ordering.then_eq_eq.1 heq).2

/-- **Display order does not show where the definitions came in**, as long
as their codes are different. -/
theorem mergeSort_perm_eq (h : ds.Perm ds') (hcodes : (ds.map (·.code)).Nodup) :
    ds.mergeSort inDisplayOrder = ds'.mergeSort inDisplayOrder := by
  have hsorted := List.pairwise_mergeSort inDisplayOrder_trans inDisplayOrder_total
  refine List.Perm.eq_of_pairwise (fun a b ha hb hab hba => ?_) (hsorted ds) (hsorted ds') ?_
  · have ha' := (List.mergeSort_perm ds _).mem_iff.1 ha
    have hb' := h.mem_iff.2 ((List.mergeSort_perm ds' _).mem_iff.1 hb)
    exact List.inj_on_of_nodup_map hcodes ha' hb' (code_eq_of_inDisplayOrder hab hba)
  · exact ((List.mergeSort_perm ds _).trans h).trans (List.mergeSort_perm ds' _).symm

/-- The definitions of one entity type have codes of their own. -/
theorem Accepted.nodup_codes (h : Accepted m ds) (entityType : String) :
    ((declaredFor entityType ds).map (·.code)).Nodup := by
  have hpairs : ((declaredFor entityType ds).map fun d => (d.entityType, d.code)).Nodup :=
    h.distinct.sublist (List.filter_sublist.map _)
  refine List.Nodup.of_map (fun code => (entityType, code)) ?_
  have hsame : (declaredFor entityType ds).map (fun d => (d.entityType, d.code)) =
      ((declaredFor entityType ds).map (·.code)).map fun code => (entityType, code) := by
    rw [List.map_map]
    refine List.map_congr_left fun d hd => ?_
    rw [declaredFor, List.mem_filter, beq_iff_eq] at hd
    rw [hd.2]
    rfl
  rwa [← hsame]

theorem Accepted.perm (h : Accepted m ds) (hperm : ds.Perm ds') : Accepted m ds' where
  valid d hd := h.valid d (hperm.mem_iff.2 hd)
  known d hd := h.known d (hperm.mem_iff.2 hd)
  distinct := (hperm.map _).nodup_iff.1 h.distinct

theorem find?_ordered : Keyed.find? entityType index.ordered.groups =
    (Keyed.find? entityType index.groups).map fun group => group.mergeSort inDisplayOrder :=
  Keyed.find?_map fun _ => rfl

theorem ascending_ordered_gather : Keyed.Ascending (gather ds).ordered.groups :=
  ascending_gather.map fun _ => rfl

/-- The groups are those of the entity types there are definitions of. -/
theorem mem_ordered_gather_iff {x : String × List AttributeDefinition} :
    x ∈ (gather ds).ordered.groups ↔
      declaredFor x.1 ds ≠ [] ∧ x.2 = (declaredFor x.1 ds).mergeSort inDisplayOrder := by
  rw [← ascending_ordered_gather.find?_eq_some_iff, find?_ordered, find?_gather]
  split
  · rename_i hnil
    simp [hnil]
  · rename_i hne
    rw [Option.map_some, Option.some.injEq, eq_comm]
    exact (and_iff_right hne).symm

/-- **The order the definitions come in does not show.** -/
theorem ordered_gather_perm (h : Accepted m ds) (hperm : ds.Perm ds') :
    (gather ds).ordered = (gather ds').ordered := by
  have hgroups : (gather ds).ordered.groups = (gather ds').ordered.groups := by
    refine ascending_ordered_gather.eq_of_find? ascending_ordered_gather fun entityType => ?_
    have hfor : (declaredFor entityType ds).Perm (declaredFor entityType ds') :=
      hperm.filter _
    have hnil : declaredFor entityType ds = [] ↔ declaredFor entityType ds' = [] := by
      rw [← List.length_eq_zero_iff, hfor.length_eq, List.length_eq_zero_iff]
    rw [find?_ordered, find?_ordered, find?_gather, find?_gather]
    simp only [hnil]
    split
    · rfl
    · rw [Option.map_some, Option.map_some, mergeSort_perm_eq hfor (h.nodup_codes entityType)]
  cases hindex : (gather ds).ordered
  cases hindex' : (gather ds').ordered
  rw [hindex, hindex'] at hgroups
  exact congrArg AttributeIndex.mk hgroups

end AttributeIndex

end AttributeCache
