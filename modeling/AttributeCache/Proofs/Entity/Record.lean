import AttributeCache.Entity.Json
import AttributeCache.Proofs.Json.Record
/-!
# An entity from its record

An entity comes back from its record if there is room for its static and its
dynamic attributes, and else the record is refused (`ofTree_tree`). That
dynamic attributes are left out where there are none does not show: none are
read where the field is missing. An entity that was itself read has
attributes for which there was room, with their keys in order
(`sound_of_ofTree`).
-/

namespace AttributeCache

namespace Entity

open Json

variable {room : Nat} {e : Entity}

/-- The keys are in order throughout, those of the dynamic attributes too. -/
structure Canonical (e : Entity) : Prop where
  data : e.data.Canonical
  dynamic : e.dynamicJson.Canonical

/-- There is room for the attributes of either kind. -/
def Fits (room : Nat) (e : Entity) : Prop :=
  e.data.depth ≤ room ∧ e.dynamicJson.depth ≤ room

instance : DecidablePred (Fits room) := fun e =>
  inferInstanceAs (Decidable (e.data.depth ≤ room ∧ e.dynamicJson.depth ≤ room))

/-- The numbers among the attributes are read back. -/
structure ReadsBack (e : Entity) : Prop where
  data : e.data.ReadsBack
  dynamic : e.dynamicJson.ReadsBack

/-! ## Reading the record -/

/-- The field of the dynamic attributes, if there are any. -/
def dynamicField (e : Entity) : List (String × Value) :=
  if e.dynamicAttributes.isEmpty then [] else [("dynamic_attributes", e.dynamicJson)]

theorem json_eq (e : Entity) :
    e.json = .object ([("id", .string e.id), ("entity_type", .string e.entityType)] ++
      [("data", e.data)] ++ e.dynamicField) :=
  rfl

theorem reads_names (e : Entity) :
    record.Reads room [("id", .string e.id), ("entity_type", .string e.entityType)] {}
      { id := some e.id, entityType := some e.entityType } :=
  .cons rfl rfl (.single rfl rfl)

theorem readFields_data {draft : Draft} (hdraft : draft.data = none) (h : e.data.Canonical) :
    record.readFields room (Value.treesOfFields [("data", e.data)]) draft =
      ifRoom (e.data.depth ≤ room) { draft with data := some e.data } := by
  refine (Record.readFields_single rfl).trans ?_
  rw [Tree.asValue_tree h, hdraft, Record.once_ifRoom]
  exact ifRoom_bind_ok rfl

/-- Left out or not, the dynamic attributes end up in the draft. -/
theorem readFields_dynamicField (room : Nat) (draft : Draft)
    (hdraft : draft.dynamicAttributes = none) (h : e.dynamicJson.Canonical) :
    ∃ entries, entries.getD [] = e.dynamicAttributes ∧
      record.readFields (room + 1) (Value.treesOfFields e.dynamicField) draft =
        ifRoom (e.dynamicJson.depth ≤ room + 1) { draft with dynamicAttributes := entries } := by
  by_cases hempty : e.dynamicAttributes = []
  · refine ⟨none, hempty.symm, ?_⟩
    have hdepth : e.dynamicJson.depth ≤ room + 1 := by
      rw [dynamicJson, hempty, Value.depth, Value.depthOfFields]
      omega
    rw [dynamicField, hempty, if_pos List.isEmpty_nil, ifRoom_pos hdepth, ← hdraft]
    rfl
  · refine ⟨some e.dynamicAttributes, rfl, ?_⟩
    rw [dynamicField, if_neg (by rwa [List.isEmpty_iff])]
    refine (Record.readFields_single rfl).trans ?_
    rw [dynamicJson, Tree.asMap_asValue_tree h, hdraft]
    change Record.once none _ >>= _ = _
    rw [Record.once_ifRoom]
    exact ifRoom_bind_ok rfl

/-- **An entity comes back from its record if there is room for it**; else
the record is refused. -/
theorem ofTree_tree (h : e.Canonical) :
    ofTree (room + 2) e.json.tree = ifRoom (e.Fits (room + 1)) e := by
  let named : Draft := { id := some e.id, entityType := some e.entityType }
  obtain ⟨entries, hentries, hdynamic⟩ :=
    readFields_dynamicField room { named with data := some e.data } rfl h.dynamic
  have hdata : record.readFields (room + 1) (Value.treesOfFields [("data", e.data)]) named =
      ifRoom (e.data.depth ≤ room + 1) { named with data := some e.data } :=
    readFields_data rfl h.data
  have hfields : record.readFields (room + 1) (Value.treesOfFields
      ([("id", .string e.id), ("entity_type", .string e.entityType)] ++ [("data", e.data)] ++
        e.dynamicField)) {} =
      ifRoom (e.Fits (room + 1))
        { named with data := some e.data, dynamicAttributes := entries } := by
    rw [Value.treesOfFields_append, Value.treesOfFields_append, Record.readFields_append,
      Record.readFields_append, e.reads_names]
    change (record.readFields (room + 1) _ named >>= _) = _
    rw [hdata]
    exact ifRoom_bind hdynamic
  rw [ofTree, json_eq, Value.tree]
  change (record.readFields (room + 1) _ {} >>= record.finish) = _
  rw [hfields]
  refine ifRoom_bind_ok ?_
  change Except.ok (Entity.mk e.id e.entityType e.data (entries.getD [])) = _
  rw [hentries]

/-- Every number of the record is read back if those of the attributes are. -/
theorem readsBack_json (h : e.ReadsBack) : e.json.ReadsBack := by
  have hdynamic : ∀ x ∈ e.dynamicField, x.2.ReadsBack := by
    intro x hx
    rw [dynamicField] at hx
    split at hx
    · exact absurd hx List.not_mem_nil
    · rw [List.mem_singleton.1 hx]
      exact h.dynamic
  rw [json_eq, Value.ReadsBack, Value.fieldsReadBack_iff]
  simp only [List.forall_mem_append, List.forall_mem_cons]
  exact ⟨⟨⟨trivial, trivial, List.forall_mem_nil _⟩, h.data, List.forall_mem_nil _⟩, hdynamic⟩

/-! ## What is read -/

/-- What an entity that was read has for attributes. -/
structure Sound (room : Nat) (e : Entity) : Prop where
  canonical : e.Canonical
  fits : e.Fits room

/-- Attributes are read into the draft with the room there is for a field. -/
theorem maintains_attributes : record.Maintains room fun draft =>
    (∀ v ∈ draft.data, v.Canonical ∧ v.depth ≤ room) ∧
      ∀ entries ∈ draft.dynamicAttributes,
        (Value.object entries).Canonical ∧ (Value.object entries).depth ≤ room where
  blank := ⟨fun _ h => (nomatch h), fun _ h => (nomatch h)⟩
  field := by
    intro key put t draft draft' hfield hdraft hput
    simp only [record] at hfield
    split at hfield
    case h_3 =>
      cases hfield
      obtain ⟨value, honce, hout⟩ := Folding.bind_eq_ok_iff.1 hput
      cases hout
      obtain ⟨-, data, hread, rfl⟩ := Record.once_eq_ok_iff.1 honce
      refine ⟨?_, hdraft.2⟩
      rintro _ ⟨⟩
      exact Tree.canonical_of_value? t room _ (Tree.value?_of_asValue hread)
    case h_4 =>
      cases hfield
      obtain ⟨value, honce, hout⟩ := Folding.bind_eq_ok_iff.1 hput
      cases hout
      obtain ⟨-, entries, hread, rfl⟩ := Record.once_eq_ok_iff.1 honce
      refine ⟨hdraft.1, ?_⟩
      rintro _ ⟨⟩
      exact Tree.canonical_of_value? t room _ (Tree.value?_of_asMap hread)
    case h_5 => exact nomatch hfield
    all_goals
      cases hfield
      obtain ⟨value, -, hout⟩ := Folding.bind_eq_ok_iff.1 hput
      cases hout
      exact hdraft

/-- The attributes of an entity are those of the draft. -/
theorem attributes_of_finish {draft : Draft} (h : record.finish draft = .ok e) :
    draft.data = some e.data ∧ e.dynamicAttributes = draft.dynamicAttributes.getD [] := by
  simp only [record] at h
  obtain ⟨id, -, h⟩ := Folding.bind_eq_ok_iff.1 h
  obtain ⟨entityType, -, h⟩ := Folding.bind_eq_ok_iff.1 h
  obtain ⟨data, hdata, h⟩ := Folding.bind_eq_ok_iff.1 h
  cases h
  exact ⟨Record.need_eq_ok_iff.1 hdata, rfl⟩

/-- **An entity that was read is sound**, in the room it was read in. -/
theorem sound_of_ofTree {t : Tree} (h : ofTree (room + 2) t = .ok e) : e.Sound (room + 1) := by
  obtain ⟨draft, ⟨hdata, hdynamic⟩, hfinish⟩ := maintains_attributes.read h
  obtain ⟨hdata', hdynamic'⟩ := attributes_of_finish hfinish
  have hfirst := hdata _ hdata'
  have hsecond : e.dynamicJson.Canonical ∧ e.dynamicJson.depth ≤ room + 1 := by
    rw [dynamicJson, hdynamic']
    cases hentries : draft.dynamicAttributes with
    | none =>
      -- no field was read, and an empty object opens no more than itself
      refine ⟨⟨.nil, trivial⟩, ?_⟩
      rw [Option.getD_none, Value.depth, Value.depthOfFields]
      omega
    | some entries => exact hdynamic entries hentries
  exact ⟨⟨hfirst.1, hsecond.1⟩, hfirst.2, hsecond.2⟩

end Entity

end AttributeCache
