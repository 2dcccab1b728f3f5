import AttributeCache.Proofs.Text.Pieces
import AttributeCache.Resources.Basic
import AttributeCache.Resources.NormalPath
/-!
# Normal forms

Every path a text or an include leads to has plain segments only
(`normal_of_ofText?`, `normal_of_resolve?`). Among such paths the text
tells the path (`text_injective`), so documents that are looked up by text
are told apart by path, and no slash in front is taken off the text
(`relative_text`).
-/

namespace AttributeCache

namespace NormalPath

variable {p q : NormalPath} {s : String} {segments taken out : List String}

/-- A segment that leads one step down. -/
structure IsPlain (s : String) : Prop where
  ne_empty : s ≠ ""
  ne_here : s ≠ "."
  ne_up : s ≠ ".."
  no_slash : '/' ∉ s.toList

instance : Decidable (IsPlain s) :=
  decidable_of_iff (s ≠ "" ∧ s ≠ "." ∧ s ≠ ".." ∧ '/' ∉ s.toList)
    ⟨fun h => ⟨h.1, h.2.1, h.2.2.1, h.2.2.2⟩,
      fun h => ⟨h.ne_empty, h.ne_here, h.ne_up, h.no_slash⟩⟩

/-- All segments lead down. -/
def Normal (p : NormalPath) : Prop := ∀ s ∈ p.segments, IsPlain s

instance : Decidable p.Normal := inferInstanceAs (Decidable (∀ s ∈ p.segments, IsPlain s))

/-! ## What leads to normal paths -/

/-- Climbing takes in plain segments only. -/
theorem isPlain_of_climb (htaken : ∀ s ∈ taken, IsPlain s)
    (hsegments : ∀ s ∈ segments, '/' ∉ s.toList) (h : climb taken segments = some out) :
    ∀ s ∈ out, IsPlain s := by
  induction segments generalizing taken with
  | nil =>
    rw [climb, Option.some.injEq] at h
    exact h ▸ htaken
  | cons a rest ih =>
    have hrest : ∀ s ∈ rest, '/' ∉ s.toList := fun s hs => hsegments s (List.mem_cons_of_mem _ hs)
    unfold climb at h
    split at h
    · exact ih htaken hrest h
    · rename_i hstays
      split at h
      · cases taken with
        | nil => exact absurd h (by simp)
        | cons b taken => exact ih (fun s hs => htaken s (List.mem_cons_of_mem _ hs)) hrest h
      · rename_i hup
        refine ih (fun s hs => ?_) hrest h
        rcases List.mem_cons.1 hs with rfl | hs
        · exact ⟨fun h => hstays (.inl h), fun h => hstays (.inr h), hup,
            hsegments s List.mem_cons_self⟩
        · exact htaken s hs

theorem normal_of_descend? {directory : List String} (hdir : ∀ s ∈ directory, IsPlain s)
    (hsegments : ∀ s ∈ segments, '/' ∉ s.toList) (h : descend? directory segments = some p) :
    p.Normal := by
  rw [descend?, Option.map_eq_some_iff] at h
  obtain ⟨out, hout, rfl⟩ := h
  intro s hs
  exact isPlain_of_climb (fun s hs => hdir s (List.mem_reverse.1 hs)) hsegments hout s
    (List.mem_reverse.1 hs)

/-- A text leads to a normal path, if anywhere. -/
theorem normal_of_ofText? (h : ofText? s = some p) : p.Normal :=
  normal_of_descend? (fun _ hs => absurd hs List.not_mem_nil)
    (fun _ => Text.not_mem_of_mem_pieces) h

/-- And so does an include in a document that has one. -/
theorem normal_of_resolve? (hp : p.Normal) (h : p.resolve? s = some q) : q.Normal := by
  rw [resolve?] at h
  split at h
  · exact normal_of_descend? (fun _ hs => absurd hs List.not_mem_nil)
      (fun _ => Text.not_mem_of_mem_pieces) h
  · exact normal_of_descend? (fun s hs => hp s (List.dropLast_subset _ hs))
      (fun _ => Text.not_mem_of_mem_pieces) h

/-! ## The text of a normal path -/

theorem pieces_text (hp : p.Normal) (hne : p.segments ≠ []) :
    Text.pieces '/' p.text = p.segments :=
  Text.pieces_join rfl hne fun s hs => (hp s hs).no_slash

theorem text_ne_empty (hp : p.Normal) (hne : p.segments ≠ []) : p.text ≠ "" := by
  intro h
  have hpieces := pieces_text hp hne
  rw [h, Text.pieces_eq_singleton (by simp)] at hpieces
  exact (hp "" (hpieces ▸ List.mem_singleton_self _)).ne_empty rfl

theorem segments_eq_nil_of_text (hp : p.Normal) (h : p.text = "") : p.segments = [] :=
  Classical.byContradiction fun hne => text_ne_empty hp hne h

/-- **A normal path is told by its text.** -/
theorem text_injective (hp : p.Normal) (hq : q.Normal) (h : p.text = q.text) : p = q := by
  suffices hs : p.segments = q.segments by
    cases p
    cases q
    cases hs
    rfl
  by_cases hne : p.segments = []
  · have hempty : q.text = "" := by
      rw [← h, text, hne]
      rfl
    rw [hne, segments_eq_nil_of_text hq hempty]
  · have hne' : q.segments ≠ [] := by
      intro hnil
      refine text_ne_empty hp hne ?_
      rw [h, text, hnil]
      rfl
    rw [← pieces_text hp hne, h, pieces_text hq hne']

/-- No slash stands in front of the text of a normal path. -/
theorem head?_text_ne_slash (hp : p.Normal) : p.text.toList.head? ≠ some '/' := by
  obtain ⟨segments⟩ := p
  cases segments with
  | nil => simp [text, Text.join]
  | cons a rest =>
    obtain ⟨hempty, -, -, hslash⟩ := hp a List.mem_cons_self
    cases ha : a.toList with
    | nil => exact absurd (String.toList_eq_nil_iff.1 ha) hempty
    | cons c cs =>
      have hc : c ≠ '/' := fun h => hslash (ha ▸ h ▸ List.mem_cons_self)
      cases rest with
      | nil =>
        change a.toList.head? ≠ _
        simp [ha, hc]
      | cons b rest =>
        change (a ++ "/" ++ Text.join "/" (b :: rest)).toList.head? ≠ _
        simp [ha, hc]

/-- So nothing is taken off it where documents are looked up. -/
theorem relative_text (hp : p.Normal) : Resources.relative p.text = p.text := by
  have hhead := head?_text_ne_slash hp
  rw [Resources.relative]
  cases h : p.text.toList with
  | nil =>
    rw [List.dropWhile_nil, ← h, String.ofList_toList]
  | cons c cs =>
    rw [h, List.head?_cons] at hhead
    rw [List.dropWhile_cons_of_neg, ← h, String.ofList_toList]
    simpa using hhead

end NormalPath

end AttributeCache
