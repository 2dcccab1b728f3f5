import AttributeCache.Proofs.EntityOrder
/-!
# What an order reads is what its path leads to

An order settles when it is made how it reads an entity, and reads direct
paths without walking them. This file says what a path leads to without
either: names lead down through nested objects, from the static attributes
or from the dynamic ones (`valueAt?_eq_some_iff`). An order reads just that
with `null` left out (`read?_ofPath`), so two entities compare as the
standings of what the path leads to in them, whatever the shape of the path.
-/

namespace AttributeCache

open Json (Value)

variable {e : Entity} {p : PropertyPath} {v w : Value} {name : String} {names : List String}

/-! ## What a path leads to -/

/-- Names lead from a value down through the fields of nested objects. -/
inductive Json.Value.Leads : Value → List String → Value → Prop
  | here {v : Value} : Leads v [] v
  | field {fields : List (String × Value)} {name : String} {rest : List String} {v w : Value} :
      Keyed.find? name fields = some v → Leads v rest w → Leads (.object fields) (name :: rest) w

/-- What a path leads to in an entity: from a code among the dynamic
attributes where the first segment is marked, else from the static ones. -/
def Entity.Leads (e : Entity) (p : PropertyPath) (v : Value) : Prop :=
  match PropertyPath.dynamicCode? p.first with
  | some code => (Value.object e.dynamicAttributes).Leads (code :: p.rest) v
  | none => e.data.Leads p.segments v

/-- Nothing but an object is left by a name. -/
theorem Json.Value.leads_cons_iff :
    v.Leads (name :: names) w ↔ ∃ next, v.get? name = some next ∧ next.Leads names w := by
  constructor
  · rintro (_ | ⟨hfind, hrest⟩)
    exact ⟨_, hfind, hrest⟩
  · rintro ⟨next, hget, hrest⟩
    cases v with
    | object fields => exact .field hget hrest
    | _ => exact nomatch hget

/-- Getting field after field follows the names. -/
theorem Json.Value.foldlM_get?_eq_some_iff :
    names.foldlM (fun value name => value.get? name) v = some w ↔ v.Leads names w := by
  induction names generalizing v with
  | nil =>
    constructor
    · rintro ⟨⟩
      exact .here
    · rintro ⟨⟩
      rfl
  | cons name rest ih =>
    rw [List.foldlM_cons, leads_cons_iff]
    simp only [Option.bind_eq_bind, Option.bind_eq_some_iff, ih]

/-- **What a path leads to is what is found by walking it.** -/
theorem Entity.valueAt?_eq_some_iff : e.valueAt? p = some v ↔ e.Leads p v := by
  rw [valueAt?, Option.bind_eq_bind, Option.bind_eq_some_iff, root?, Entity.Leads]
  cases PropertyPath.dynamicCode? p.first with
  | some code =>
    simp only [Value.leads_cons_iff, Value.foldlM_get?_eq_some_iff]
    rfl
  | none =>
    simp only [PropertyPath.segments, Value.leads_cons_iff, Value.foldlM_get?_eq_some_iff]
    rfl

/-! ## What an order reads -/

/-- **An order reads what its path leads to**, whether it walks the path or
not; `null` is left out. -/
theorem Accessor.read?_ofPath (p : PropertyPath) (e : Entity) :
    (ofPath p).read? e = (e.valueAt? p).filter (!·.isNull) := by
  obtain ⟨first, rest⟩ := p
  rw [ofPath]
  split
  · rename_i hdirect
    -- a direct path is over at its first segment
    have hrest : rest = [] := List.isEmpty_iff.1 hdirect
    subst hrest
    have hroot : e.valueAt? ⟨first, []⟩ = e.root? first := by
      rw [Entity.valueAt?]
      cases e.root? first <;> rfl
    rw [hroot, Entity.root?]
    cases PropertyPath.dynamicCode? first <;> rfl
  · rfl

/-- Where a value stands by its own kind: missing and `null` alike in front
of all others or behind them, then truth values, numbers by what they are
worth, and text, which arrays and objects are by their JSON text. -/
def Standing.ofValue (nulls : NullPlace) : Option Value → Standing
  | none | some .null => { kind := if nulls = .first then 0 else 4 }
  | some (.bool b) => { kind := 1, truth := b }
  | some (.number n) => { kind := 2, worth := n.value }
  | some (.string s) => { kind := 3, text := s }
  | some (.array items) => { kind := 3, text := (Value.array items).text }
  | some (.object fields) => { kind := 3, text := (Value.object fields).text }

theorem Standing.of_filter (nulls : NullPlace) (value : Option Value) :
    of nulls (value.filter (!·.isNull)) = ofValue nulls value := by
  cases value with
  | none => rfl
  | some v => cases v <;> rfl

namespace EntityOrder

/-- **Two entities compare by what the path leads to in them.** Whatever
shape the path has, the value compared by is the one that walking the path
finds, missing and `null` alike; and the walk finds what the names of the
path lead to. The two values compare by kind first and then within the kind,
and a descending order turns all of that round. -/
theorem compare_resolved (p : PropertyPath) (ascending : Bool) (nulls : NullPlace) :
    (∀ e, (ofPath p ascending nulls).accessor.read? e = (e.valueAt? p).filter (!·.isNull)) ∧
      (∀ (e : Entity) v, e.valueAt? p = some v ↔ e.Leads p v) ∧
      ∀ a b, (ofPath p ascending nulls).compare a b =
        let ordering := Ord.compare (Standing.ofValue nulls (a.valueAt? p))
          (Standing.ofValue nulls (b.valueAt? p))
        if ascending then ordering else ordering.swap := by
  refine ⟨Accessor.read?_ofPath p, fun e v => Entity.valueAt?_eq_some_iff, fun a b => ?_⟩
  have hstanding : ∀ e, (ofPath p ascending nulls).standing e =
      Standing.ofValue nulls (e.valueAt? p) := by
    intro e
    rw [standing, ← Standing.of_filter, ← Accessor.read?_ofPath]
    rfl
  rw [compare_eq, hstanding, hstanding]
  cases ascending with
  | true => rfl
  | false => exact Std.OrientedOrd.eq_swap

end EntityOrder

end AttributeCache
