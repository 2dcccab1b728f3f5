import AttributeCache.Attribute.Json
import AttributeCache.Proofs.Json.Record
/-!
# A definition from its record

Everything of a definition comes back from its record but for the default.
A default that is `null` is written as such and read as none, and one for
which there is no room is refused with the whole record
(`ofTree_tree`). A definition that was itself read has a default that was
read with that much room, and it is not `null` (`sound_of_ofTree`).
-/

namespace AttributeCache

open Json

variable {room : Nat}

theorem ValueType.ofName?_name (t : ValueType) : ofName? t.name = some t := by
  cases t <;> decide

theorem map_asInt_ofInt32 (n : Int32) :
    ((Tree.number (some (.ofInt32 n))).asInt (-0x80000000) 0x80000000).map Int32.ofInt = .ok n := by
  have hlow : -0x80000000 ≤ n.toInt := n.le_toInt
  have hhigh : n.toInt < 0x80000000 := n.toInt_lt
  rw [Number.ofInt32, Tree.asInt, if_pos ⟨hlow, hhigh⟩, Except.map, Int32.ofInt_toInt]

namespace AttributeDefinition

/-- The definition as it is read: a default that is `null` is none. -/
def withoutNull (d : AttributeDefinition) : AttributeDefinition :=
  { d with default := d.default.filter (!·.isNull) }

/-- There is room for the default. -/
def Fits (room : Nat) (d : AttributeDefinition) : Prop :=
  d.default.all (·.depth ≤ room) = true

instance : DecidablePred (Fits room) := fun d =>
  inferInstanceAs (Decidable (d.default.all (·.depth ≤ room) = true))

theorem fits_iff {d : AttributeDefinition} : d.Fits room ↔ ∀ v ∈ d.default, v.depth ≤ room := by
  rw [Fits, Option.all_eq_true]
  simp

/-- The keys are in order throughout the default. -/
def Canonical (d : AttributeDefinition) : Prop :=
  ∀ v ∈ d.default, v.Canonical

/-- The numbers of the default are read back. -/
def ReadsBack (d : AttributeDefinition) : Prop :=
  ∀ v ∈ d.default, v.ReadsBack

/-- The definition arrives as it is. -/
def Arrives (room : Nat) (d : AttributeDefinition) : Prop :=
  ∀ v ∈ d.default, v ≠ .null ∧ v.depth ≤ room

theorem isNull_iff {v : Value} : v.isNull = true ↔ v = .null := by
  cases v <;> simp [Value.isNull]

instance : DecidablePred (Arrives room) := fun d =>
  decidable_of_iff (d.default.all (fun v => !v.isNull && v.depth ≤ room) = true) <| by
    rw [Option.all_eq_true, Arrives]
    simp [← isNull_iff]

theorem withoutNull_eq_self_iff {d : AttributeDefinition} :
    d.withoutNull = d ↔ ∀ v ∈ d.default, v ≠ .null := by
  obtain ⟨_, _, _, _, _, _, default, _, _⟩ := d
  rw [withoutNull, AttributeDefinition.mk.injEq]
  cases default with
  | none => simp
  | some v => cases v <;> simp [Option.filter, Value.isNull]

theorem arrives_iff {d : AttributeDefinition} :
    d.Arrives room ↔ d.Fits room ∧ d.withoutNull = d := by
  rw [Arrives, fits_iff, withoutNull_eq_self_iff, ← forall₂_and]
  simp only [and_comm]

/-! ## Reading the record -/

/-- The fields in front of the default. -/
def front (d : AttributeDefinition) : List (String × Value) :=
  [("code", .string d.code), ("entity_type", .string d.entityType),
    ("value_type", .string d.valueType.name)] ++
  Value.optional "category" (d.category.map .string) ++
  [("order_no", .number (.ofInt32 d.order)), ("required", .bool d.required)]

/-- The fields behind it. -/
def behind (d : AttributeDefinition) : List (String × Value) :=
  Value.optional "enumeration" (d.options.map Value.strings) ++
  Value.optional "target_entity" (d.target.map .string)

theorem json_eq (d : AttributeDefinition) :
    d.json = .object (d.front ++ Value.optional "default_value" d.default ++ d.behind) := by
  rw [json, front, behind, List.append_assoc _ _ (Value.optional "target_entity" _)]

/-- What the fields in front of the default leave. -/
def draft (d : AttributeDefinition) : Draft where
  code := some d.code
  entityType := some d.entityType
  valueType := some d.valueType
  category := d.category.map some
  order := some d.order
  required := some d.required

theorem reads_front (d : AttributeDefinition) :
    record.Reads room d.front {} d.draft := by
  have htype : valueTypeOfTree room (Value.string d.valueType.name).tree = .ok d.valueType := by
    rw [Value.tree, valueTypeOfTree, Tree.asName, ValueType.ofName?_name]
  let named : Draft := { d.draft with category := none, order := none, required := none }
  have hnames : record.Reads room
      [("code", .string d.code), ("entity_type", .string d.entityType),
        ("value_type", .string d.valueType.name)] {} named := by
    refine .cons rfl rfl <| .cons rfl rfl <| .single rfl ?_
    rw [htype]
    rfl
  have hcategory : record.Reads room (Value.optional "category" (d.category.map .string))
      named { named with category := d.category.map some } := by
    refine .optional rfl (fun s hs => ?_) fun hnone => ?_
    · rw [hs]
      rfl
    · rw [hnone]
      rfl
  refine (hnames.append hcategory).append <| .cons (e := { d.draft with required := none }) rfl ?_
    (.single rfl rfl)
  rw [Value.tree, map_asInt_ofInt32]
  rfl

theorem stringsOfTree_tree (items : List String) :
    stringsOfTree (room + 1) (Value.strings items).tree = .ok items := by
  have hread : stringsOfTree (room + 1) (Value.strings items).tree =
      ifRoom (∀ s ∈ items, True) (items.map id) :=
    Tree.asList_tree .string (fun _ => True) id fun _ _ => rfl
  rw [hread, ifRoom_pos fun _ _ => trivial, List.map_id]

/-- The fields behind the default, whatever is there of it. -/
theorem reads_behind (d : AttributeDefinition) (value : Option (Option Value)) :
    record.Reads (room + 1) d.behind { d.draft with default := value }
      { d.draft with
        default := value, options := d.options.map some, target := d.target.map some } := by
  have hoptions : record.Reads (room + 1)
      (Value.optional "enumeration" (d.options.map Value.strings))
      { d.draft with default := value }
      { d.draft with default := value, options := d.options.map some } := by
    refine .optional rfl (fun items hitems => ?_) fun hnone => ?_
    · rw [hitems, putOptions, Tree.asOptional_tree (by simp [Value.strings]),
        stringsOfTree_tree]
      rfl
    · rw [hnone]
      rfl
  refine hoptions.append <| .optional rfl (fun s hs => ?_) fun hnone => ?_
  · rw [hs]
    rfl
  · rw [hnone]
    rfl

/-- The default, if there is room for it. -/
theorem readFields_default {d : AttributeDefinition} (h : d.Canonical) :
    record.readFields room (Value.treesOfFields (Value.optional "default_value" d.default))
        d.draft =
      ifRoom (d.Fits room)
        { d.draft with default := d.default.map fun v => if v.isNull then none else some v } := by
  obtain ⟨_, _, _, _, _, _, default, _, _⟩ := d
  cases default with
  | none => rfl
  | some v =>
    by_cases hnull : v = .null
    · rw [hnull, ifRoom_pos (by simp [Fits, Value.depth])]
      rfl
    · have hisNull : v.isNull = false := by cases v <;> simp_all [Value.isNull]
      have hread : v.tree.asOptional (·.asValue room) = ifRoom (v.depth ≤ room) (some v) := by
        rw [Tree.asOptional_tree hnull, Tree.asValue_tree (h v rfl), map_ifRoom]
      refine (Record.readFields_single rfl).trans ?_
      rw [hread, ifRoom_congr (by simp [Fits] : Fits room _ ↔ v.depth ≤ room)]
      change Record.once none _ >>= _ = _
      rw [Record.once_ifRoom]
      exact ifRoom_bind_ok (by simp only [Option.map_some, hisNull]; rfl)

/-- **A definition comes back from its record if there is room for its
default**, without it where it is `null`; else the record is refused. -/
theorem ofTree_tree {d : AttributeDefinition} (h : d.Canonical) :
    ofTree (room + 2) d.json.tree = ifRoom (d.Fits (room + 1)) d.withoutNull := by
  let value := d.default.map fun v => if v.isNull then none else some v
  have hfields : record.readFields (room + 1) (Value.treesOfFields
      (d.front ++ Value.optional "default_value" d.default ++ d.behind)) {} =
      ifRoom (d.Fits (room + 1)) { d.draft with
        default := value, options := d.options.map some, target := d.target.map some } := by
    rw [Value.treesOfFields_append, Value.treesOfFields_append, Record.readFields_append,
      Record.readFields_append, d.reads_front]
    change (record.readFields (room + 1) _ d.draft >>= _) = _
    rw [readFields_default h]
    exact ifRoom_bind_ok (d.reads_behind value)
  rw [ofTree, json_eq, Value.tree]
  change (record.readFields (room + 1) _ {} >>= record.finish) = _
  rw [hfields]
  have hdefault : value.join = d.default.filter (!·.isNull) := by
    cases hd : d.default with
    | none => simp [value, hd]
    | some v => cases hv : v.isNull <;> simp [value, hd, hv, Option.filter]
  have hjoin : ∀ {γ : Type} (o : Option γ), (o.map some).join = o := by
    rintro γ (_ | a) <;> rfl
  refine ifRoom_bind_ok ?_
  change Except.ok _ = Except.ok _
  simp only [draft, withoutNull, hdefault, hjoin, Option.getD_some]

/-- Every number of the record is read back if those of the default are. -/
theorem readsBack_json {d : AttributeDefinition} (h : d.ReadsBack) : d.json.ReadsBack := by
  have hstring : ∀ (o : Option String), ∀ v ∈ o.map Value.string, v.ReadsBack := by
    rintro (_ | s) v hv
    · exact nomatch hv
    · cases hv
      exact trivial
  have hstrings : ∀ v ∈ d.options.map Value.strings, v.ReadsBack := by
    intro v hv
    obtain ⟨items, -, rfl⟩ := Option.map_eq_some_iff.1 hv
    rw [Value.strings, Value.ReadsBack, Value.itemsReadBack_iff, List.forall_mem_map]
    exact fun _ _ => trivial
  rw [json_eq, Value.ReadsBack, Value.fieldsReadBack_iff]
  simp only [front, behind, List.forall_mem_append, List.forall_mem_cons,
    Value.forall_mem_optional]
  exact ⟨⟨⟨⟨⟨trivial, trivial, trivial, by simp⟩, hstring _⟩, readsBack_integer _ _, trivial,
    by simp⟩, h⟩, hstrings, hstring _⟩

/-! ## What is read -/

/-- What a definition that was read has for a default. -/
structure Sound (room : Nat) (d : AttributeDefinition) : Prop where
  canonical : d.Canonical
  arrives : d.Arrives room

/-- Only the default is read into the default. -/
theorem maintains_default : record.Maintains room fun draft => ∀ v ∈ draft.default.join,
    v.Canonical ∧ v ≠ .null ∧ v.depth ≤ room where
  blank _ h := nomatch h
  field := by
    intro key put t draft draft' hfield hdraft hput
    simp only [record] at hfield
    split at hfield
    case h_7 =>
      cases hfield
      obtain ⟨value, honce, hout⟩ := Folding.bind_eq_ok_iff.1 hput
      cases hout
      obtain ⟨-, default, hread, rfl⟩ := Record.once_eq_ok_iff.1 honce
      rintro v ⟨⟩
      obtain ⟨hne, hvalue⟩ := Tree.asOptional_eq_some hread
      have hvalue' := Tree.value?_of_asValue hvalue
      have hread' := Tree.canonical_of_value? t room v hvalue'
      exact ⟨hread'.1, fun hnull => hne (Tree.eq_null_of_value? (hnull ▸ hvalue')), hread'.2⟩
    case h_11 => exact nomatch hfield
    all_goals
      cases hfield
      obtain ⟨value, -, hout⟩ := Folding.bind_eq_ok_iff.1 hput
      cases hout
      exact hdraft

/-- **A definition that was read is sound**, in the room it was read in. -/
theorem sound_of_ofTree {t : Tree} {d : AttributeDefinition}
    (h : ofTree (room + 1) t = .ok d) : d.Sound room := by
  obtain ⟨draft, hdraft, hfinish⟩ := maintains_default.read h
  have hdefault : d.default = draft.default.join := by
    simp only [record] at hfinish
    obtain ⟨code, -, hfinish⟩ := Folding.bind_eq_ok_iff.1 hfinish
    obtain ⟨entityType, -, hfinish⟩ := Folding.bind_eq_ok_iff.1 hfinish
    obtain ⟨valueType, -, hfinish⟩ := Folding.bind_eq_ok_iff.1 hfinish
    cases hfinish
    rfl
  rw [← hdefault] at hdraft
  exact ⟨fun v hv => (hdraft v hv).1, fun v hv => (hdraft v hv).2⟩

end AttributeDefinition

end AttributeCache
