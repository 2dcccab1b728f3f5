import AttributeCache.Datasource.Notifier
import Mathlib.Data.List.Nodup
import Mathlib.Logic.Function.Basic
/-!
# A notifier is an ordered map

What a notifier holds can be said without its list of actions: ids in the
order they were added, and what is registered under each (`Registry`). There
an action that is added again is written over where it stands, and one that
is removed is gone from the order and from the map. Any calls, made on both
one after the other, are answered alike (`runCalls_registry`).

What carries over a call is that no id stands twice. Adding and looking up
do not need it, for both go to the first action of an id; removing does,
for it takes all of them, and so does notifying, which calls them all.
-/

namespace AttributeCache

namespace Datasource

variable {H : Type} {n : Notifier H} {a old : Action H} {actions before after : List (Action H)}
variable {id x : String} {event : Event}

/-! ## Who hears of what -/

/-- Of which events a listener in a role hears. -/
inductive Role.HearsOf : Role → Event → Prop
  | state {datasource : String} {previous current : State} :
      HearsOf .datasource (.stateChanged datasource previous current)
  | item {datasource : String} {previous current : Option Entity} :
      HearsOf .datasource (.itemChanged datasource previous current)
  | collection {datasource : String} {operation : Operation} :
      HearsOf .collection (.collectionChanged datasource operation)
  | value {item : Entity} {property : String} {previous current : Option Json.Value} :
      HearsOf .value (.valueChanged item property previous current)
  /-- A datasource listener hears what a value listener hears as well. -/
  | ofValue {event : Event} : HearsOf .value event → HearsOf .datasource event
  /-- And a collection listener what a datasource listener hears. -/
  | ofDatasource {event : Event} : HearsOf .datasource event → HearsOf .collection event

/-- **A role accepts the role of just the events it hears of.** -/
theorem Role.accepts_iff {role : Role} : role.accepts event.role = true ↔ role.HearsOf event := by
  constructor
  · intro h
    cases event with
    | stateChanged =>
      cases role with
      | datasource => exact .state
      | collection => exact .ofDatasource .state
      | value => exact absurd h Bool.false_ne_true
    | itemChanged =>
      cases role with
      | datasource => exact .item
      | collection => exact .ofDatasource .item
      | value => exact absurd h Bool.false_ne_true
    | collectionChanged =>
      cases role with
      | datasource => exact absurd h Bool.false_ne_true
      | collection => exact .collection
      | value => exact absurd h Bool.false_ne_true
    | valueChanged =>
      cases role with
      | datasource => exact .ofValue .value
      | collection => exact .ofDatasource (.ofValue .value)
      | value => exact .value
  · intro h
    induction h with
    | state | item | collection | value => rfl
    | @ofValue event _ ih =>
      have hrole : event.role = .value := by
        rw [accepts, beq_iff_eq] at ih
        exact ih
      rw [hrole]
      rfl
    | ofDatasource => rfl

instance (role : Role) (event : Event) : Decidable (role.HearsOf event) :=
  decidable_of_iff _ Role.accepts_iff

theorem Action.hears_iff : a.hears event.role = true ↔ ∃ role ∈ a.roles, role.HearsOf event := by
  rw [hears, List.any_eq_true]
  simp only [Role.accepts_iff]

/-! ## Calls one after the other -/

/-- The answers to some calls, and what is left behind the last of them. -/
def runCalls {σ : Type} (answer : σ → Call H → Answer H × σ) :
    σ → List (Call H) → List (Answer H) × σ
  | s, [] => ([], s)
  | s, call :: calls =>
    let (first, next) := answer s call
    let (rest, last) := runCalls answer next calls
    (first :: rest, last)

/-! ## The ordered map -/

/-- Ids in the order they were added, and the roles and the handler that are
registered under each. -/
structure Registry (H : Type) where
  order : List String := []
  entry? : String → Option (List Role × H) := fun _ => none

namespace Registry

/-- A known id keeps its place, a new one goes to the end. -/
def register (m : Registry H) (action : Action H) : Registry H where
  order := if (m.entry? action.id).isSome then m.order else m.order ++ [action.id]
  entry? := Function.update m.entry? action.id (some (action.roles, action.handler))

/-- The id is gone, and the others stay in their order. -/
def unregister (m : Registry H) (id : String) : Registry H where
  order := m.order.erase id
  entry? := Function.update m.entry? id none

/-- Whether one of the roles under an id hears of an event. -/
def hears (m : Registry H) (event : Event) (id : String) : Bool :=
  (m.entry? id).any fun entry => decide (∃ role ∈ entry.1, role.HearsOf event)

/-- The handlers under the ids that hear of an event, in order. -/
def called (m : Registry H) (event : Event) : List H :=
  (m.order.filter (m.hears event)).filterMap fun id => (m.entry? id).map (·.2)

/-- What an ordered map does for a call. -/
def answer (m : Registry H) : Call H → Answer H × Registry H
  | .add action => (.added, m.register action)
  | .remove id => (.removed (m.entry? id).isSome, m.unregister id)
  | .notify event => (.notified (m.called event) (m.order.countP (m.hears event)), m)

end Registry

namespace Notifier

/-- What a notifier holds, without its actions. -/
def registry (n : Notifier H) : Registry H where
  order := n.ids
  entry? id := (n.actions.find? (·.id == id)).map fun action => (action.roles, action.handler)

/-! ## Adding -/

theorem put_append (hbefore : a.id ∉ before.map (·.id)) (hold : old.id = a.id) :
    put a (before ++ old :: after) = before ++ a :: after := by
  induction before with
  | nil => rw [List.nil_append, put, if_pos hold, List.nil_append]
  | cons b before ih =>
    rw [List.map_cons, List.mem_cons, not_or] at hbefore
    rw [List.cons_append, put, if_neg (Ne.symm hbefore.1), ih hbefore.2, List.cons_append]

theorem put_of_not_mem (h : a.id ∉ actions.map (·.id)) : put a actions = actions ++ [a] := by
  induction actions with
  | nil => rfl
  | cons b rest ih =>
    rw [List.map_cons, List.mem_cons, not_or] at h
    rw [put, if_neg (Ne.symm h.1), ih h.2, List.cons_append]

theorem map_id_put_of_mem (h : a.id ∈ actions.map (·.id)) :
    (put a actions).map (·.id) = actions.map (·.id) := by
  induction actions with
  | nil => exact absurd h List.not_mem_nil
  | cons b rest ih =>
    rw [put]
    split
    · rename_i hb
      rw [List.map_cons, List.map_cons, hb]
    · rename_i hb
      have hrest : a.id ∈ rest.map (·.id) := (List.mem_cons.1 h).resolve_left (Ne.symm hb)
      rw [List.map_cons, List.map_cons, ih hrest]

/-- What was put is found. -/
theorem find?_put_self : (put a actions).find? (·.id == a.id) = some a := by
  induction actions with
  | nil => rw [put, List.find?_cons_of_pos (by simp)]
  | cons b rest ih =>
    rw [put]
    split
    · rw [List.find?_cons_of_pos (by simp)]
    · rename_i hb
      rw [List.find?_cons_of_neg (by simpa using hb), ih]

/-- And all else is found as before. -/
theorem find?_put_of_ne (h : x ≠ a.id) :
    (put a actions).find? (·.id == x) = actions.find? (·.id == x) := by
  induction actions with
  | nil => rw [put, List.find?_cons_of_neg (by simpa using Ne.symm h)]
  | cons b rest ih =>
    rw [put]
    split
    · rename_i hb
      have hid : b.id ≠ x := fun hx => h (hx ▸ hb)
      rw [List.find?_cons_of_neg (by simpa using Ne.symm h),
        List.find?_cons_of_neg (by simpa using hid)]
    · rw [List.find?_cons, List.find?_cons, ih]

/-! ## Removing -/

theorem find?_remove_self : (n.remove id).actions.find? (·.id == id) = none := by
  rw [List.find?_eq_none]
  intro b hb
  have hne := (List.mem_filter.1 hb).2
  simpa using hne

theorem find?_remove_of_ne (h : x ≠ id) :
    (n.remove id).actions.find? (·.id == x) = n.actions.find? (·.id == x) := by
  have hpred : ∀ b : Action H, decide ((b.id != id) = true ∧ (b.id == x) = true) = (b.id == x) := by
    intro b
    by_cases hb : b.id = x
    · simp [hb, h]
    · simp [hb]
  rw [remove, List.find?_filter]
  simp only [hpred]

/-- Where no id stands twice the id of an action stands nowhere around it. -/
theorem not_mem_around (h : n.ids.Nodup) (hn : n.actions = before ++ old :: after) :
    old.id ∉ before.map (·.id) ∧ old.id ∉ after.map (·.id) := by
  have hnodup : ((before ++ old :: after).map (·.id)).Nodup := hn ▸ h
  rw [List.map_append, List.map_cons, List.nodup_middle, List.nodup_cons, List.mem_append,
    not_or] at hnodup
  exact hnodup.1

/-- Nothing is taken where the id does not stand. -/
theorem filter_eq_self (h : id ∉ actions.map (·.id)) : actions.filter (·.id != id) = actions := by
  refine List.filter_eq_self.2 fun b hb => ?_
  have hne : b.id ≠ id := fun hid => h (hid ▸ List.mem_map_of_mem hb)
  simpa using hne

/-- The actions around one that is removed are left as they stood. -/
theorem remove_append (h : n.ids.Nodup) (hn : n.actions = before ++ old :: after) :
    (n.remove old.id).actions = before ++ after := by
  obtain ⟨hbefore, hafter⟩ := not_mem_around h hn
  rw [remove, hn, List.filter_append, List.filter_cons_of_neg (by simp), filter_eq_self hbefore,
    filter_eq_self hafter]

theorem remove_of_not_mem (h : id ∉ n.ids) : n.remove id = n := by
  rw [remove, filter_eq_self h]

/-! ## What is registered -/

theorem isSome_entry?_iff : (n.registry.entry? id).isSome = true ↔ id ∈ n.ids := by
  rw [registry, Option.isSome_map, List.find?_isSome, ids, List.mem_map]
  simp only [beq_iff_eq]

theorem contains_iff : n.contains id = true ↔ id ∈ n.ids := by
  rw [contains, List.any_eq_true, ids, List.mem_map]
  simp only [beq_iff_eq]

/-- **Adding registers.** -/
theorem registry_add : (n.add a).registry = n.registry.register a := by
  rw [registry, Registry.register, Registry.mk.injEq]
  constructor
  · by_cases hknown : a.id ∈ n.ids
    · rw [if_pos (isSome_entry?_iff.2 hknown)]
      exact map_id_put_of_mem hknown
    · rw [if_neg (mt isSome_entry?_iff.1 hknown), ids, add, put_of_not_mem hknown, List.map_append]
      rfl
  · funext x
    rw [add, Function.update_apply]
    split
    · rename_i hx
      rw [hx, find?_put_self]
      rfl
    · rename_i hx
      rw [find?_put_of_ne hx]
      rfl

/-- **Removing takes the registration away**, where no id stands twice. -/
theorem registry_remove (h : n.ids.Nodup) : (n.remove id).registry = n.registry.unregister id := by
  rw [registry, Registry.unregister, Registry.mk.injEq]
  constructor
  · have herase : n.ids.erase id = n.ids.filter (· != id) := h.erase_eq_filter id
    rw [registry, herase, ids, ids, remove, List.filter_map]
    rfl
  · funext x
    rw [Function.update_apply]
    split
    · rename_i hx
      rw [hx, find?_remove_self]
      rfl
    · rename_i hx
      rw [find?_remove_of_ne hx]
      rfl

/-! ## Notifying -/

/-- Where no id stands twice each action is the one found under its id. -/
theorem find?_of_mem (h : (actions.map (·.id)).Nodup) (ha : a ∈ actions) :
    actions.find? (·.id == a.id) = some a := by
  induction actions with
  | nil => exact absurd ha List.not_mem_nil
  | cons b rest ih =>
    rw [List.map_cons, List.nodup_cons] at h
    rcases List.mem_cons.1 ha with rfl | ha
    · rw [List.find?_cons_of_pos (by simp)]
    · have hb : b.id ≠ a.id := fun hid => h.1 (hid ▸ List.mem_map_of_mem ha)
      rw [List.find?_cons_of_neg (by simpa using hb), ih h.2 ha]

theorem entry?_of_mem (h : n.ids.Nodup) (ha : a ∈ n.actions) :
    n.registry.entry? a.id = some (a.roles, a.handler) := by
  show (n.actions.find? (·.id == a.id)).map _ = _
  rw [find?_of_mem h ha]
  rfl

theorem hears_of_mem (h : n.ids.Nodup) (ha : a ∈ n.actions) :
    n.registry.hears event a.id = a.hears event.role := by
  rw [Registry.hears, entry?_of_mem h ha, Option.any_some, Bool.eq_iff_iff, decide_eq_true_iff,
    Action.hears_iff]

/-- **Those are called that hear of the event**, each once. -/
theorem handlers_eq_called (h : n.ids.Nodup) : n.handlers event = n.registry.called event := by
  have hids : n.registry.order.filter (n.registry.hears event) =
      (n.actions.filter (·.hears event.role)).map (·.id) := by
    show (n.actions.map (·.id)).filter _ = _
    rw [List.filter_map]
    exact congrArg _ (List.filter_congr fun b hb => hears_of_mem h hb)
  rw [handlers, Registry.called, hids, List.filterMap_map, ← List.filterMap_eq_map]
  refine List.filterMap_congr fun b hb => ?_
  rw [Function.comp_apply, Function.comp_apply, entry?_of_mem h (List.mem_of_mem_filter hb)]
  rfl

/-- And as many as there are of these are counted. -/
theorem length_handlers (h : n.ids.Nodup) :
    (n.handlers event).length = n.registry.order.countP (n.registry.hears event) := by
  have hcount : n.registry.order.countP (n.registry.hears event) =
      n.actions.countP (·.hears event.role) := by
    show (n.actions.map (·.id)).countP _ = _
    rw [List.countP_map]
    exact List.countP_congr fun b hb => by rw [Function.comp_apply, hears_of_mem h hb]
  rw [hcount, handlers, List.length_map, List.countP_eq_length_filter]

/-! ## What a call keeps -/

theorem nodup_add (h : n.ids.Nodup) : (n.add a).ids.Nodup := by
  by_cases hknown : a.id ∈ n.ids
  · rw [ids, add, map_id_put_of_mem hknown]
    exact h
  · rw [ids, add, put_of_not_mem hknown, List.map_append, List.map_singleton,
      ← List.concat_eq_append]
    exact h.concat hknown

theorem nodup_remove (h : n.ids.Nodup) : (n.remove id).ids.Nodup :=
  h.sublist (List.filter_sublist.map _)

/-- **One call is answered alike** by a notifier and by the map it is. -/
theorem answer_registry (h : n.ids.Nodup) (call : Call H) :
    (n.answer call).1 = (n.registry.answer call).1 ∧
      (n.answer call).2.registry = (n.registry.answer call).2 ∧ (n.answer call).2.ids.Nodup := by
  cases call with
  | add action => exact ⟨rfl, registry_add, nodup_add h⟩
  | remove id =>
    refine ⟨congrArg Answer.removed ?_, registry_remove h, nodup_remove h⟩
    rw [Bool.eq_iff_iff, contains_iff, isSome_entry?_iff]
  | notify event =>
    refine ⟨?_, rfl, h⟩
    show Answer.notified (n.handlers event) (n.handlers event).length = _
    rw [length_handlers h, handlers_eq_called h]
    rfl

/-- And so is any sequence of them. -/
theorem runCalls_registry (h : n.ids.Nodup) (calls : List (Call H)) :
    (runCalls answer n calls).1 = (runCalls Registry.answer n.registry calls).1 ∧
      (runCalls answer n calls).2.registry = (runCalls Registry.answer n.registry calls).2 ∧
      (runCalls answer n calls).2.ids.Nodup := by
  induction calls generalizing n with
  | nil => exact ⟨rfl, rfl, h⟩
  | cons call calls ih =>
    obtain ⟨hfirst, hnext, hnodup⟩ := answer_registry h call
    obtain ⟨hrest, hlast, hkept⟩ := ih hnodup
    rw [hnext] at hrest hlast
    exact ⟨congrArg₂ List.cons hfirst hrest, hlast, hkept⟩

/-! ## What the next call does -/

/-- What each call does to the actions where they stand. -/
structure Orderly (n : Notifier H) : Prop where
  /-- No id stands twice. -/
  nodup : n.ids.Nodup
  /-- A known id is written over in its place. -/
  add_known : ∀ before old after action, n.actions = before ++ old :: after →
    old.id = action.id → (n.add action).actions = before ++ action :: after
  /-- A new one goes to the end. -/
  add_new : ∀ action, action.id ∉ n.ids → (n.add action).actions = n.actions ++ [action]
  /-- Of what is removed only the one action is gone. -/
  remove_known : ∀ before old after, n.actions = before ++ old :: after →
    (n.remove old.id).actions = before ++ after
  remove_unknown : ∀ id, id ∉ n.ids → n.remove id = n
  /-- It was there exactly if there are fewer actions without it. -/
  found : ∀ id, n.contains id = true ↔ (n.remove id).actions.length ≠ n.actions.length

theorem orderly_of_nodup (h : n.ids.Nodup) : n.Orderly where
  nodup := h
  add_known before old after action hn hold := by
    rw [add, hn]
    exact put_append (hold ▸ (not_mem_around h hn).1) hold
  add_new action hnew := put_of_not_mem hnew
  remove_known before old after hn := remove_append h hn
  remove_unknown id hid := remove_of_not_mem hid
  found id := by
    rw [contains_iff]
    constructor
    · intro hid
      obtain ⟨old, hmem, rfl⟩ := List.mem_map.1 hid
      obtain ⟨before, after, hn⟩ := List.append_of_mem hmem
      have hlength : (n.remove old.id).actions.length = before.length + after.length := by
        rw [remove_append h hn, List.length_append]
      rw [hlength, hn, List.length_append, List.length_cons]
      omega
    · intro hlength
      by_contra hid
      exact hlength (congrArg (fun n => n.actions.length) (remove_of_not_mem hid))

/-- **A notifier is an ordered map**, whatever is asked of it one call after
the other: its answers are those of the map, it holds what the map holds, and
each further call changes the one place it is about. -/
theorem registry_run (calls : List (Call H)) :
    (runCalls answer ({} : Notifier H) calls).1 =
        (runCalls Registry.answer ({} : Registry H) calls).1 ∧
      (runCalls answer ({} : Notifier H) calls).2.registry =
        (runCalls Registry.answer ({} : Registry H) calls).2 ∧
      (runCalls answer ({} : Notifier H) calls).2.Orderly := by
  have hempty : ({} : Notifier H).registry = {} := rfl
  have hnil : ({} : Notifier H).ids.Nodup := List.nodup_nil
  obtain ⟨hanswers, hlast, hnodup⟩ := runCalls_registry hnil calls
  rw [hempty] at hanswers hlast
  exact ⟨hanswers, hlast, orderly_of_nodup hnodup⟩

/-- An action that is added again is called in its old place, by its new
handler, and once although two of its roles hear. -/
example : (runCalls answer ({} : Notifier String) [.add ⟨"edit", [.value], "first"⟩,
      .add ⟨"refresh", [.collection], "second"⟩, .add ⟨"edit", [.datasource, .value], "third"⟩,
      .notify (.valueChanged ⟨"o1", "Order", .null, []⟩ "amount" none none), .remove "sum",
      .remove "edit", .notify (.collectionChanged "orders" .clear)]).1 =
    [.added, .added, .added, .notified ["third", "second"] 2, .removed false, .removed true,
      .notified ["second"] 1] := by
  decide

end Notifier

end Datasource

end AttributeCache
