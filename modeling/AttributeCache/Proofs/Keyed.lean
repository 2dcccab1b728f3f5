import AttributeCache.Keyed
import Mathlib.Data.List.Perm.Basic
import Mathlib.Data.List.Nodup
/-!
# Looking up what was inserted

An entry that is inserted is found under its key, and nothing else changes
for who looks up. Inserting keeps the keys ascending, and entries with
ascending keys are told by what is found under each key
(`Ascending.eq_of_find?`): what they were inserted in the order of does not
show.
-/

namespace AttributeCache

namespace Keyed

variable {α β : Type} {key other : String} {value : α} {l l' : List (String × α)}

/-! ## Looking up -/

/-- What was inserted is found. -/
theorem find?_insert_self : find? key (insert key value l) = some value := by
  induction l with
  | nil => rw [insert, find?, if_pos rfl]
  | cons x rest ih =>
    rw [insert]
    split
    · rw [find?, if_pos rfl]
    · rw [find?, if_pos rfl]
    · rename_i hgt
      have hne : x.1 ≠ key := by
        rintro rfl
        rw [Std.ReflOrd.compare_self] at hgt
        exact Ordering.noConfusion hgt
      rw [find?, if_neg hne, ih]

/-- And all else is found as before. -/
theorem find?_insert_of_ne (h : other ≠ key) :
    find? other (insert key value l) = find? other l := by
  induction l with
  | nil => simp only [insert, find?, if_neg (Ne.symm h)]
  | cons x rest ih =>
    rw [insert]
    split
    · rw [find?, if_neg (Ne.symm h)]
    · rename_i heq
      have hx : x.1 = key := (Std.LawfulEqOrd.eq_of_compare heq).symm
      rw [find?, find?, if_neg (Ne.symm h), if_neg (hx ▸ Ne.symm h)]
    · rw [find?, find?, ih]

theorem find?_insert :
    find? other (insert key value l) = if other = key then some value else find? other l := by
  split
  · rename_i h
    rw [h, find?_insert_self]
  · rename_i h
    exact find?_insert_of_ne h

theorem find?_map {f : String × α → String × β} {g : α → β} (h : ∀ x, f x = (x.1, g x.2)) :
    find? key (l.map f) = (find? key l).map g := by
  induction l with
  | nil => rfl
  | cons x rest ih =>
    rw [List.map_cons, h, find?, find?, ih]
    split <;> rfl

theorem mem_of_find? (h : find? key l = some value) : (key, value) ∈ l := by
  induction l with
  | nil => exact absurd h (by simp [find?])
  | cons x rest ih =>
    rw [find?] at h
    split at h
    · rename_i hx
      rw [← hx, ← Option.some.inj h]
      exact List.mem_cons_self
    · exact List.mem_cons_of_mem _ (ih h)

/-- A key that is not there yet makes one entry more. -/
theorem length_insert (h : find? key l = none) : (insert key value l).length = l.length + 1 := by
  induction l with
  | nil => rfl
  | cons x rest ih =>
    rw [find?] at h
    split at h
    · exact nomatch h
    · rename_i hne
      rw [insert]
      split
      · rfl
      · rename_i heq
        exact absurd (Std.LawfulEqOrd.eq_of_compare heq).symm hne
      · rw [List.length_cons, ih h, List.length_cons]

/-! ## Keys in order -/

/-- The keys ascend, each standing once. -/
def Ascending (l : List (String × α)) : Prop :=
  l.Pairwise fun x y => compare x.1 y.1 = .lt

theorem mem_insert {x : String × α} (h : x ∈ insert key value l) : x = (key, value) ∨ x ∈ l := by
  induction l with
  | nil => exact .inl (List.mem_singleton.1 h)
  | cons y rest ih =>
    rw [insert] at h
    split at h
    · exact List.mem_cons.1 h
    · rcases List.mem_cons.1 h with h | h
      · exact .inl h
      · exact .inr (List.mem_cons_of_mem _ h)
    · rcases List.mem_cons.1 h with rfl | h
      · exact .inr List.mem_cons_self
      · exact (ih h).imp_right (List.mem_cons_of_mem _)

namespace Ascending

theorem nil : Ascending ([] : List (String × α)) := List.Pairwise.nil

theorem insert (h : Ascending l) : Ascending (Keyed.insert key value l) := by
  induction l with
  | nil => exact List.pairwise_singleton _ _
  | cons y rest ih =>
    obtain ⟨hy, hrest⟩ := List.pairwise_cons.1 h
    rw [Keyed.insert]
    split
    · rename_i hlt
      refine List.pairwise_cons.2 ⟨fun x hx => ?_, h⟩
      rcases List.mem_cons.1 hx with rfl | hx
      · exact hlt
      · exact Std.TransCmp.lt_trans hlt (hy x hx)
    · rename_i heq
      have hkey : key = y.1 := Std.LawfulEqOrd.eq_of_compare heq
      exact List.pairwise_cons.2 ⟨fun x hx => hkey ▸ hy x hx, hrest⟩
    · rename_i hgt
      refine List.pairwise_cons.2 ⟨fun x hx => ?_, ih hrest⟩
      rcases mem_insert hx with rfl | hx
      · exact Std.OrientedCmp.gt_iff_lt.1 hgt
      · exact hy x hx

theorem map {f : String × α → String × β} (h : Ascending l) (hf : ∀ x, (f x).1 = x.1) :
    Ascending (l.map f) := by
  refine List.pairwise_map.2 (h.imp fun {x y} hxy => ?_)
  rw [hf, hf]
  exact hxy

/-- An entry whose key is behind all others is inserted at the end. -/
theorem insert_last (h : Ascending (l ++ [(key, value)])) :
    Keyed.insert key value l = l ++ [(key, value)] := by
  induction l with
  | nil => rfl
  | cons y rest ih =>
    obtain ⟨hy, hrest⟩ := List.pairwise_cons.1 h
    have hgt : compare key y.1 = .gt :=
      Std.OrientedCmp.gt_iff_lt.2 (hy _ (List.mem_append_right _ (List.mem_singleton_self _)))
    rw [Keyed.insert, hgt]
    simp only [ih hrest, List.cons_append]

/-- No key stands in front of itself. -/
theorem nodup (h : Ascending l) : l.Nodup := by
  refine h.imp fun {x y} hxy => ?_
  rintro rfl
  rw [Std.ReflOrd.compare_self] at hxy
  exact Ordering.noConfusion hxy

theorem find?_of_mem (h : Ascending l) (hmem : (key, value) ∈ l) : find? key l = some value := by
  induction l with
  | nil => exact absurd hmem List.not_mem_nil
  | cons x rest ih =>
    obtain ⟨hx, hrest⟩ := List.pairwise_cons.1 h
    rw [find?]
    rcases List.mem_cons.1 hmem with rfl | hmem
    · exact if_pos rfl
    · have hne : x.1 ≠ key := by
        intro he
        have hlt := hx _ hmem
        rw [he, Std.ReflOrd.compare_self] at hlt
        exact Ordering.noConfusion hlt
      rw [if_neg hne, ih hrest hmem]

theorem find?_eq_some_iff (h : Ascending l) : find? key l = some value ↔ (key, value) ∈ l :=
  ⟨mem_of_find?, h.find?_of_mem⟩

/-- **Entries with ascending keys are told by what is found.** -/
theorem eq_of_find? (h : Ascending l) (h' : Ascending l')
    (hfind : ∀ key, find? key l = find? key l') : l = l' := by
  have hperm : l.Perm l' := by
    refine (List.perm_ext_iff_of_nodup h.nodup h'.nodup).2 fun x => ?_
    rw [← h.find?_eq_some_iff, hfind, h'.find?_eq_some_iff]
  refine List.Perm.eq_of_pairwise (fun x y _ _ hxy hyx => ?_) h h' hperm
  exact absurd hyx (Std.OrientedCmp.not_lt_of_lt hxy)

end Ascending

end Keyed

end AttributeCache
