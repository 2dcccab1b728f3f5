import Mathlib.Data.List.Induction
import Mathlib.Data.List.Nodup
/-!
# First occurrences

`List.eraseDups` keeps of each element its first occurrence. What comes
behind a list adds to it only what the list does not hold, so occurrences
may be dropped early or late.

Where elements are told by a key, `List.find?` looks for the first that has
it, and there is no other.
-/

namespace AttributeCache

namespace FirstOccurrences

variable {α : Type} [BEq α] [LawfulBEq α] {a b : List α} {x : α}

/-- A list without repetitions is its own first occurrences. -/
theorem eraseDups_of_nodup (h : a.Nodup) : a.eraseDups = a := by
  induction a with
  | nil => rfl
  | cons y a ih =>
    obtain ⟨hy, ha⟩ := List.nodup_cons.1 h
    rw [List.eraseDups_cons, List.filter_eq_self.2, ih ha]
    intro z hz
    have hne : z ≠ y := fun he => hy (he ▸ hz)
    simpa using hne

/-- What a list holds already adds nothing behind it. -/
theorem eraseDups_append_of_subset (h : ∀ y ∈ b, y ∈ a) : (a ++ b).eraseDups = a.eraseDups := by
  have hnone : b.removeAll a = [] := by
    rw [List.removeAll, List.filter_eq_nil_iff]
    intro y hy
    simpa using h y hy
  rw [List.eraseDups_append, hnone, List.eraseDups_nil, List.append_nil]

/-- A new element stays where it is. -/
theorem eraseDups_append_singleton (h : x ∉ a) : (a ++ [x]).eraseDups = a.eraseDups ++ [x] := by
  have hall : [x].removeAll a = [x] := by
    rw [List.removeAll, List.filter_eq_self]
    intro y hy
    rw [List.mem_singleton.1 hy]
    simpa using h
  rw [List.eraseDups_append, hall]
  rfl

/-- No element occurs twice among the first occurrences. -/
theorem nodup_eraseDups (a : List α) : a.eraseDups.Nodup := by
  induction a using List.reverseRecOn with
  | nil => exact List.nodup_nil
  | append_singleton a x ih =>
    by_cases hx : x ∈ a
    · rwa [eraseDups_append_of_subset fun y hy => List.mem_singleton.1 hy ▸ hx]
    · rw [eraseDups_append_singleton hx, List.nodup_append]
      refine ⟨ih, List.nodup_singleton x, fun y hy z hz hyz => hx ?_⟩
      rw [← List.mem_singleton.1 hz, ← hyz]
      exact List.mem_eraseDups.1 hy

/-- Occurrences dropped early make no difference later. -/
theorem eraseDups_eraseDups_append : (a.eraseDups ++ b).eraseDups = (a ++ b).eraseDups := by
  have hsame : b.removeAll a.eraseDups = b.removeAll a := by
    rw [List.removeAll, List.removeAll]
    congr 1
    funext y
    rw [Bool.eq_iff_iff]
    simp
  rw [List.eraseDups_append, List.eraseDups_append, hsame,
    eraseDups_of_nodup (nodup_eraseDups a)]

/-- Where no two elements have one key, the first with a key is the only
one. -/
theorem find?_eq_some_iff_of_nodup {β κ : Type} [DecidableEq κ] {key : β → κ} {k : κ}
    {l : List β} {y : β} (h : (l.map key).Nodup) :
    l.find? (key · == k) = some y ↔ y ∈ l ∧ key y = k := by
  constructor
  · intro hfind
    exact ⟨List.mem_of_find?_eq_some hfind, by simpa using List.find?_some hfind⟩
  · rintro ⟨hy, rfl⟩
    cases hfind : l.find? (key · == key y) with
    | none => exact absurd (beq_self_eq_true (key y)) (List.find?_eq_none.1 hfind y hy)
    | some z =>
      have hkey : key z = key y := by simpa using List.find?_some hfind
      rw [List.inj_on_of_nodup_map h (List.mem_of_find?_eq_some hfind) hy hkey]

end FirstOccurrences

end AttributeCache
