import AttributeCache.Proofs.Folding
import AttributeCache.Proofs.Json.Nesting
/-!
# What readers make of what was written

The fields of a record are read one after the other, each into the draft
that those before it have left; so what holds of the draft all the way holds
of the record (`Maintains.read`), and a record that was written can be read
part by part (`Reads.append`). Lists and maps are read item by item,
and where each item comes back or is refused, so does the whole
(`asList_tree`, `asMap_tree`).
-/

namespace AttributeCache.Json

variable {α β δ : Type} {room : Nat} {v : Value} {key : String}

namespace Value

theorem treesOfItems_eq_map (items : List Value) : treesOfItems items = items.map tree := by
  induction items with
  | nil => rw [treesOfItems, List.map_nil]
  | cons v rest ih => rw [treesOfItems, ih, List.map_cons]

theorem treesOfFields_append (fields others : List (String × Value)) :
    treesOfFields (fields ++ others) = treesOfFields fields ++ treesOfFields others := by
  induction fields with
  | nil => rw [treesOfFields, List.nil_append, List.nil_append]
  | cons x rest ih => rw [List.cons_append, treesOfFields, treesOfFields, ih, List.cons_append]

theorem itemsReadBack_iff {items : List Value} :
    ItemsReadBack items ↔ ∀ v ∈ items, v.ReadsBack := by
  induction items with
  | nil => simp [ItemsReadBack]
  | cons v rest ih => rw [ItemsReadBack, ih, List.forall_mem_cons]

theorem fieldsReadBack_iff {fields : List (String × Value)} :
    FieldsReadBack fields ↔ ∀ x ∈ fields, x.2.ReadsBack := by
  induction fields with
  | nil => simp [FieldsReadBack]
  | cons x rest ih => rw [FieldsReadBack, ih, List.forall_mem_cons]

theorem forall_mem_optional {p : String × Value → Prop} {value : Option Value} :
    (∀ x ∈ optional key value, p x) ↔ ∀ v ∈ value, p (key, v) := by
  cases value <;> simp [optional]

end Value

/-! ## Records -/

namespace Record

variable {r : Record δ α} {t : Tree} {d e : δ} {put : Tree → δ → Except Fault δ}
variable {rest fields others : List (Option String × Tree)}

/-- One field that is asked for, and the others behind it. -/
theorem readFields_cons (hfield : r.field room key = some put) (hput : put t d = .ok e) :
    r.readFields room ((some key, t) :: rest) d = r.readFields room rest e := by
  rw [readFields, hfield]
  simp only [hput]
  rfl

theorem readFields_single (hfield : r.field room key = some put) :
    r.readFields room [(some key, t)] d = put t d := by
  rw [readFields, hfield]
  dsimp only
  cases put t d <;> rfl

/-- The fields are read from the first to the last. -/
theorem readFields_append : r.readFields room (fields ++ others) d =
    r.readFields room fields d >>= r.readFields room others := by
  induction fields generalizing d with
  | nil => rfl
  | cons field rest ih =>
    obtain ⟨_ | key, t⟩ := field
    · rfl
    · rw [List.cons_append, readFields, readFields]
      cases r.field room key with
      | none =>
        dsimp only
        split
        · rfl
        · split
          · exact ih
          · rfl
      | some put =>
        dsimp only
        cases put t d with
        | error e => rfl
        | ok e => exact ih

/-- Written fields lead from one draft to another. -/
def Reads (r : Record δ α) (room : Nat) (fields : List (String × Value)) (d e : δ) : Prop :=
  r.readFields room (Value.treesOfFields fields) d = .ok e

section Reads

variable {fields others : List (String × Value)} {e' : δ}

theorem Reads.cons (hfield : r.field room key = some put) (hput : put v.tree d = .ok e)
    (h : r.Reads room fields e e') : r.Reads room ((key, v) :: fields) d e' :=
  (readFields_cons hfield hput).trans h

theorem Reads.single (hfield : r.field room key = some put) (hput : put v.tree d = .ok e) :
    r.Reads room [(key, v)] d e :=
  readFields_cons hfield hput

/-- A field that is left out leaves the draft as it is. -/
theorem Reads.optional {value : Option β} {json : β → Value}
    (hfield : r.field room key = some put)
    (hput : ∀ b, value = some b → put (json b).tree d = .ok e) (hnone : value = none → d = e) :
    r.Reads room (Value.optional key (value.map json)) d e := by
  cases value with
  | none => exact congrArg Except.ok (hnone rfl)
  | some b => exact .single hfield (hput b rfl)

theorem Reads.append (h : r.Reads room fields d e) (h' : r.Reads room others e e') :
    r.Reads room (fields ++ others) d e' := by
  rw [Reads, Value.treesOfFields_append, readFields_append, h]
  exact h'

end Reads

/-- What every field keeps true of the draft is true of the draft in the
end. -/
structure Maintains (r : Record δ α) (room : Nat) (Holds : δ → Prop) : Prop where
  blank : Holds r.blank
  field : ∀ {key put t d e}, r.field room key = some put → Holds d → put t d = .ok e → Holds e

theorem Maintains.readFields {Holds : δ → Prop} (hr : r.Maintains room Holds) (hd : Holds d)
    (h : r.readFields room fields d = .ok e) : Holds e := by
  induction fields generalizing d with
  | nil => exact Except.ok.inj h ▸ hd
  | cons field rest ih =>
    obtain ⟨_ | key, t⟩ := field
    · exact nomatch h
    · rw [Record.readFields] at h
      cases hfield : r.field room key with
      | none =>
        simp only [hfield] at h
        split at h
        · exact nomatch h
        · split at h
          · exact ih hd h
          · exact nomatch h
      | some put =>
        simp only [hfield] at h
        obtain ⟨between, hput, hrest⟩ := Folding.bind_eq_ok_iff.1 h
        exact ih (hr.field hfield hd hput) hrest

theorem Maintains.readItems {Holds : δ → Prop} {names : List String} {items : List Tree}
    (hr : r.Maintains room Holds) (hd : Holds d)
    (h : r.readItems room names items d = .ok e) : Holds e := by
  induction items generalizing names d with
  | nil =>
    rw [Record.readItems] at h
    exact Except.ok.inj h ▸ hd
  | cons t rest ih =>
    cases names with
    | nil => exact nomatch h
    | cons name names =>
      rw [Record.readItems] at h
      cases hfield : r.field room name with
      | none =>
        rw [hfield] at h
        exact nomatch h
      | some put =>
        simp only [hfield] at h
        obtain ⟨between, hput, hrest⟩ := Folding.bind_eq_ok_iff.1 h
        exact ih (hr.field hfield hd hput) hrest

/-- **A record is made of such a draft**, whether it was written with names
or without. -/
theorem Maintains.read {Holds : δ → Prop} {a : α} (hr : r.Maintains room Holds)
    (h : r.read (room + 1) t = .ok a) : ∃ d, Holds d ∧ r.finish d = .ok a := by
  cases t with
  | object fields =>
    obtain ⟨d, hd, hfinish⟩ := Folding.bind_eq_ok_iff.1 h
    exact ⟨d, hr.readFields hr.blank hd, hfinish⟩
  | array items =>
    obtain ⟨d, hd, hfinish⟩ := Folding.bind_eq_ok_iff.1 h
    exact ⟨d, hr.readItems hr.blank hd, hfinish⟩
  | _ => exact nomatch h

/-- A field is read once, so what it was is what it is. -/
theorem once_eq_ok_iff {before out : Option β} {value : Except Fault β} :
    once before value = .ok out ↔ before = none ∧ ∃ b, value = .ok b ∧ out = some b := by
  rw [once]
  cases before with
  | some b => simp
  | none => cases value <;> simp [Except.map, eq_comm]

/-- A field that may not be missing is there. -/
theorem need_eq_ok_iff {field : Option β} {b : β} : need field = .ok b ↔ field = some b := by
  cases field <;> simp [need]

end Record

/-! ## Values, lists and maps -/

/-- What is read where there is room for it; the text is refused where there
is not. -/
def ifRoom (p : Prop) [Decidable p] (a : α) : Except Fault α :=
  if p then .ok a else .error .grammar

section IfRoom

variable {p q : Prop} [Decidable p] [Decidable q] {a : α} {b : β}

theorem ifRoom_pos (h : p) : ifRoom p a = .ok a := if_pos h

theorem ifRoom_congr (h : p ↔ q) : ifRoom p a = ifRoom q a := by
  simp only [ifRoom, h]

/-- There has to be room for all that is read one after the other. -/
theorem ifRoom_bind {next : α → Except Fault β} (h : next a = ifRoom q b) :
    ifRoom p a >>= next = ifRoom (p ∧ q) b := by
  by_cases hp : p
  · simp only [ifRoom, hp, if_true, true_and] at h ⊢
    exact h
  · simp only [ifRoom, hp, if_false, false_and]
    rfl

theorem ifRoom_bind_ok {next : α → Except Fault β} (h : next a = .ok b) :
    ifRoom p a >>= next = ifRoom p b := by
  rw [ifRoom_bind (q := True) h]
  exact ifRoom_congr (and_iff_left trivial)

theorem map_ifRoom {f : α → β} : (ifRoom p a).map f = ifRoom p (f a) := by
  rw [ifRoom, ifRoom]
  split <;> rfl

theorem Record.once_ifRoom : once none (ifRoom p a) = ifRoom p (some a) :=
  map_ifRoom

theorem ifRoom_eq_ok_iff {a' : α} : ifRoom p a = .ok a' ↔ p ∧ a = a' := by
  rw [ifRoom]
  split <;> simp_all

end IfRoom

namespace Tree

theorem asValue_tree (h : v.Canonical) : v.tree.asValue room = ifRoom (v.depth ≤ room) v := by
  rw [asValue, v.value?_tree room h, ifRoom]
  by_cases hv : v.depth ≤ room <;> simp [hv]

theorem asOptional_tree {read : Tree → Except Fault α} (h : v ≠ .null) :
    v.tree.asOptional read = (read v.tree).map some := by
  cases v with
  | null => exact absurd rfl h
  | _ => rw [Value.tree, asOptional]; exact fun he => nomatch he

theorem asOptional_eq_some {read : Tree → Except Fault α} {t : Tree} {a : α}
    (h : t.asOptional read = .ok (some a)) : t ≠ .null ∧ read t = .ok a := by
  have hne : t ≠ .null := by
    rintro rfl
    exact nomatch h
  rw [asOptional.eq_2 _ _ hne] at h
  refine ⟨hne, ?_⟩
  cases hread : read t with
  | error e =>
    rw [hread] at h
    exact nomatch h
  | ok a' =>
    rw [hread] at h
    exact congrArg Except.ok (Option.some.inj (Except.ok.inj h))

theorem value?_of_asValue {t : Tree} (h : t.asValue room = .ok v) : t.value? room = some v := by
  rw [asValue] at h
  cases hv : t.value? room with
  | none =>
    rw [hv] at h
    exact nomatch h
  | some v' =>
    rw [hv] at h
    exact congrArg some (Except.ok.inj h)

variable {read : Nat → Tree → Except Fault α} (json : β → Value) (Fits : β → Prop)
variable [DecidablePred Fits] (got : β → α)

/-- What is asked of each item is asked of the whole. -/
theorem mapM_tree {items : List β}
    (h : ∀ b ∈ items, read room (json b).tree = ifRoom (Fits b) (got b)) :
    (items.map fun b => (json b).tree).mapM (read room) =
      ifRoom (∀ b ∈ items, Fits b) (items.map got) := by
  induction items with
  | nil => rfl
  | cons b rest ih =>
    have hrest := ih fun b hb => h b (List.mem_cons_of_mem _ hb)
    rw [List.map_cons, List.mapM_cons, h b List.mem_cons_self, hrest,
      ifRoom_congr List.forall_mem_cons]
    refine ifRoom_bind ?_
    rw [bind_pure_comp]
    exact map_ifRoom

/-- What every item that is read has, the items of a list have. -/
theorem forall_of_asList {p : α → Prop} {t : Tree} {out : List α}
    (hread : ∀ {t a}, read room t = .ok a → p a) (h : t.asList read (room + 1) = .ok out) :
    ∀ a ∈ out, p a := by
  cases t with
  | array items =>
    rw [asList] at h
    induction items generalizing out with
    | nil =>
      cases h
      exact List.forall_mem_nil _
    | cons t rest ih =>
      rw [List.mapM_cons] at h
      obtain ⟨a, ha, h⟩ := Folding.bind_eq_ok_iff.1 h
      obtain ⟨others, hothers, h⟩ := Folding.bind_eq_ok_iff.1 h
      cases h
      exact List.forall_mem_cons.2 ⟨hread ha, ih hothers⟩
  | _ => cases h

/-- **A list comes back where each of its items does.** -/
theorem asList_tree {items : List β}
    (h : ∀ b ∈ items, read room (json b).tree = ifRoom (Fits b) (got b)) :
    (Value.array (items.map json)).tree.asList read (room + 1) =
      ifRoom (∀ b ∈ items, Fits b) (items.map got) := by
  rw [Value.tree, Value.treesOfItems_eq_map, List.map_map, asList]
  exact mapM_tree json Fits got h

/-- Entries behind all that were read before. -/
theorem entriesInto_tree {entries : List (String × β)} {before : List (String × α)}
    (hkeys : Keyed.Ascending (before ++ entries.map fun x => (x.1, got x.2)))
    (h : ∀ x ∈ entries, read room (json x.2).tree = ifRoom (Fits x.2) (got x.2)) :
    entriesInto (read room) before
        (Value.treesOfFields (entries.map fun x => (x.1, json x.2))) =
      ifRoom (∀ x ∈ entries, Fits x.2) (before ++ entries.map fun x => (x.1, got x.2)) := by
  induction entries generalizing before with
  | nil => simp [Value.treesOfFields, entriesInto, ifRoom]
  | cons x rest ih =>
    rw [List.map_cons, List.append_cons] at hkeys
    have hlast : Keyed.insert x.1 (got x.2) before = before ++ [(x.1, got x.2)] :=
      Keyed.Ascending.insert_last (List.pairwise_append.1 hkeys).1
    rw [List.map_cons, Value.treesOfFields, entriesInto, h x List.mem_cons_self,
      ifRoom_congr List.forall_mem_cons]
    refine ifRoom_bind ?_
    rw [hlast, ih hkeys fun y hy => h y (List.mem_cons_of_mem _ hy), List.append_assoc]
    rfl

/-- **A map comes back where each of its entries does.** -/
theorem asMap_tree {entries : List (String × β)} (hkeys : Keyed.Ascending entries)
    (h : ∀ x ∈ entries, read room (json x.2).tree = ifRoom (Fits x.2) (got x.2)) :
    (Value.object (entries.map fun x => (x.1, json x.2))).tree.asMap read (room + 1) =
      ifRoom (∀ x ∈ entries, Fits x.2) (entries.map fun x => (x.1, got x.2)) := by
  rw [Value.tree, asMap]
  exact entriesInto_tree json Fits got (hkeys.map fun _ => rfl) h

/-- Entries that may be any values are read as the fields of one are. -/
theorem entriesInto_asValue {before : List (String × Value)}
    {fields : List (Option String × Tree)} :
    entriesInto (asValue room) before fields =
      (fields? room before fields).elim (.error .grammar) .ok := by
  induction fields generalizing before with
  | nil => rfl
  | cons field rest ih =>
    obtain ⟨_ | key, t⟩ := field
    · rfl
    · rw [entriesInto, fields?, asValue]
      cases t.value? room with
      | none => rfl
      | some v => exact ih

/-- So a map of them is read as the object is that they make. -/
theorem value?_of_asMap {t : Tree} {entries : List (String × Value)}
    (h : t.asMap asValue room = .ok entries) : t.value? room = some (.object entries) := by
  cases t with
  | object fields =>
    cases room with
    | zero => cases h
    | succ room =>
      rw [asMap, entriesInto_asValue] at h
      rw [value?]
      cases hfields : fields? room [] fields with
      | none =>
        rw [hfields] at h
        cases h
      | some out =>
        rw [hfields] at h
        rw [Except.ok.inj h, Option.map_some]
  | _ => cases h

theorem asMap_asValue_tree {entries : List (String × Value)}
    (h : (Value.object entries).Canonical) :
    (Value.object entries).tree.asMap asValue (room + 1) =
      ifRoom ((Value.object entries).depth ≤ room + 1) entries := by
  rw [Value.Canonical] at h
  rw [Value.tree, asMap, entriesInto_asValue, Value.fields?_trees entries room [] h.1 h.2,
    Value.depth, ifRoom, List.nil_append]
  simp only [Nat.add_le_add_iff_right]
  split <;> rfl

end Tree

/-- What a text decodes to was read from a tree, with all the room there is. -/
theorem exists_tree_of_decode {read : Nat → Tree → Except Fault α} {s : Input} {a : α}
    (h : decode read s = .ok a) : ∃ t, read maxDepth t = .ok a := by
  rw [decode] at h
  obtain ⟨a', ha, hafter⟩ := Folding.bind_eq_ok_iff.1 h
  dsimp only at hafter
  split at hafter
  · cases hafter
    exact ⟨_, ha⟩
  · cases hafter

theorem exists_tree_of_decodeBytes {read : Nat → Tree → Except Fault α} {bytes : Text.Bytes} {a : α}
    (h : decodeBytes read bytes = .ok a) : ∃ t, read maxDepth t = .ok a :=
  exists_tree_of_decode h

end AttributeCache.Json
