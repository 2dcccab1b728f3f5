import AttributeCache.Text.Split
/-!
# Pieces and joining

Cutting at a separator distributes over every separator there is, and a
piece holds none. So texts that hold no separator come back from the text
they are joined to (`pieces_join`), and a text set in front with a
separator behind it only puts pieces in front (`pieces_append`).
-/

namespace AttributeCache

namespace Text

variable {α : Type} {p : α → Bool} {a : α} {s t : List α}

/-! ## Cutting -/

theorem splitWhere_ne_nil : splitWhere p s ≠ [] := by
  cases s with
  | nil => exact List.cons_ne_nil _ _
  | cons a rest =>
    rw [splitWhere]
    split
    · exact List.cons_ne_nil _ _
    · split <;> exact List.cons_ne_nil _ _

/-- A list without separators is one piece. -/
theorem splitWhere_eq_singleton (h : ∀ a ∈ s, p a = false) : splitWhere p s = [s] := by
  induction s with
  | nil => rfl
  | cons a rest ih =>
    rw [splitWhere, h a List.mem_cons_self, ih fun b hb => h b (List.mem_cons_of_mem _ hb)]
    rfl

/-- **Cutting distributes over a separator.** -/
theorem splitWhere_append_cons (h : p a = true) :
    splitWhere p (s ++ a :: t) = splitWhere p s ++ splitWhere p t := by
  induction s with
  | nil =>
    rw [List.nil_append]
    simp only [splitWhere, h, if_true, List.singleton_append]
  | cons b rest ih =>
    rw [List.cons_append, splitWhere, splitWhere, ih]
    split
    · rfl
    · cases hr : splitWhere p rest with
      | nil => exact absurd hr splitWhere_ne_nil
      | cons piece others => rfl

/-- A piece holds no separator. -/
theorem not_of_mem_splitWhere {piece : List α} (h : piece ∈ splitWhere p s) :
    ∀ a ∈ piece, p a = false := by
  induction s generalizing piece with
  | nil =>
    rw [splitWhere, List.mem_singleton] at h
    rw [h]
    exact fun a ha => absurd ha List.not_mem_nil
  | cons b rest ih =>
    rw [splitWhere] at h
    cases hr : splitWhere p rest with
    | nil => exact absurd hr splitWhere_ne_nil
    | cons first others =>
      rw [hr] at h ih
      by_cases hb : p b = true
      · rw [if_pos hb, List.mem_cons] at h
        rcases h with rfl | h
        · exact fun a ha => absurd ha List.not_mem_nil
        · exact ih h
      · rw [if_neg hb] at h
        rcases List.mem_cons.1 h with rfl | h
        · intro a ha
          rcases List.mem_cons.1 ha with rfl | ha
          · exact Bool.not_eq_true _ ▸ hb
          · exact ih List.mem_cons_self a ha
        · exact ih (List.mem_cons_of_mem _ h)

/-- Cutting takes the separators off and nothing else. -/
theorem length_splitWhere :
    (splitWhere p s).flatten.length + (splitWhere p s).length = s.length + 1 := by
  induction s with
  | nil => rfl
  | cons a rest ih =>
    rw [splitWhere]
    split
    · rw [List.flatten_cons, List.nil_append, List.length_cons, List.length_cons]
      omega
    · cases hr : splitWhere p rest with
      | nil => exact absurd hr splitWhere_ne_nil
      | cons piece others =>
        rw [hr] at ih
        simp only [List.flatten_cons, List.length_append, List.length_cons] at ih ⊢
        omega

variable {c : Char} {before after : List Char}

/-- The first separator is the one behind a text that holds none. -/
theorem cut_append (h : c ∉ before) : cut c (before ++ c :: after) = some (before, after) := by
  induction before with
  | nil => rw [List.nil_append, cut, if_pos (beq_self_eq_true _)]
  | cons d before ih =>
    rw [List.mem_cons, not_or] at h
    rw [List.cons_append, cut, if_neg (by simpa using Ne.symm h.1), ih h.2]
    rfl

/-- What is cut is put together with the separator between, and nothing is
cut where there is none. -/
theorem cut_cases (c : Char) (s : List Char) :
    (cut c s = none ∧ c ∉ s) ∨
      ∃ before after, cut c s = some (before, after) ∧ s = before ++ c :: after ∧ c ∉ before := by
  induction s with
  | nil => exact .inl ⟨rfl, List.not_mem_nil⟩
  | cons d rest ih =>
    by_cases hd : d = c
    · subst hd
      refine .inr ⟨[], rest, ?_, rfl, List.not_mem_nil⟩
      rw [cut, if_pos (beq_self_eq_true _)]
    · have hne : ¬ (d == c) = true := by simpa using hd
      rcases ih with ⟨hnone, hmem⟩ | ⟨before, after, hcut, rfl, hmem⟩
      · refine .inl ⟨by rw [cut, if_neg hne, hnone]; rfl, ?_⟩
        rw [List.mem_cons, not_or]
        exact ⟨Ne.symm hd, hmem⟩
      · refine .inr ⟨d :: before, after, by rw [cut, if_neg hne, hcut]; rfl, rfl, ?_⟩
        rw [List.mem_cons, not_or]
        exact ⟨Ne.symm hd, hmem⟩

/-! ## Pieces of a text -/

variable {x y : String} {l : List String}

/-- A piece holds no separator. -/
theorem not_mem_of_mem_pieces (h : y ∈ pieces c x) : c ∉ y.toList := by
  rw [pieces, List.mem_map] at h
  obtain ⟨piece, hpiece, rfl⟩ := h
  rw [String.toList_ofList]
  intro hc
  have := not_of_mem_splitWhere hpiece c hc
  exact absurd this (by simp)

/-- A text without separators is one piece. -/
theorem pieces_eq_singleton (h : c ∉ x.toList) : pieces c x = [x] := by
  rw [pieces, splitWhere_eq_singleton]
  · rw [List.map_singleton, String.ofList_toList]
  · intro a ha
    rw [beq_eq_false_iff_ne]
    rintro rfl
    exact h ha

theorem pieces_append {sep : String} (h : sep.toList = [c]) :
    pieces c (x ++ sep ++ y) = pieces c x ++ pieces c y := by
  rw [pieces, String.toList_append, String.toList_append, h, List.append_assoc,
    List.singleton_append, splitWhere_append_cons (by simp), List.map_append]
  rfl

/-- **Joining is undone by cutting**, if no text holds the separator. -/
theorem pieces_join {sep : String} (h : sep.toList = [c]) (hne : l ≠ [])
    (hl : ∀ x ∈ l, c ∉ x.toList) : pieces c (join sep l) = l := by
  induction l with
  | nil => exact absurd rfl hne
  | cons x rest ih =>
    have hx := pieces_eq_singleton (hl x List.mem_cons_self)
    cases rest with
    | nil => exact hx
    | cons y rest =>
      rw [join, pieces_append h, hx,
        ih (List.cons_ne_nil _ _) fun z hz => hl z (List.mem_cons_of_mem _ hz)]
      rfl

/-- And cutting by joining, whatever the text. -/
theorem join_pieces {sep : String} (h : sep.toList = [c]) (x : String) :
    join sep (pieces c x) = x := by
  have hcons : ∀ (y z : String) rest, (join sep (y :: z :: rest)).toList =
      y.toList ++ c :: (join sep (z :: rest)).toList := by
    intro y z rest
    rw [join, String.toList_append, String.toList_append, h, List.append_assoc,
      List.singleton_append]
  suffices hs : ∀ s : List Char,
      (join sep ((splitWhere (· == c) s).map String.ofList)).toList = s from
    String.toList_inj.1 (hs x.toList)
  intro s
  induction s with
  | nil => rfl
  | cons a rest ih =>
    rw [splitWhere]
    cases hrest : splitWhere (· == c) rest with
    | nil => exact absurd hrest splitWhere_ne_nil
    | cons piece others =>
      rw [hrest] at ih
      split
      · rename_i ha
        rw [List.map_cons, List.map_cons, hcons, ← List.map_cons, ih, String.toList_ofList,
          eq_of_beq ha, List.nil_append]
      · cases others with
        | nil =>
          have hpiece : piece = rest := by simpa [join] using ih
          simp [join, hpiece]
        | cons next others =>
          rw [List.map_cons, List.map_cons, hcons, String.toList_ofList] at ih
          simp only [List.map_cons, hcons, String.toList_ofList, List.cons_append, ih]

end Text

end AttributeCache
