import AttributeCache.Proofs.Text.Pieces
import AttributeCache.Proofs.Text.Trim
import AttributeCache.PropertyPath
/-!
# Paths and their texts

Blanks are taken off a text before it is cut at the points, and off each
piece afterwards, and only then is it asked whether the pieces make a path.
So a piece can become empty, or a bare `+`, by the second trimming
(`parse_eq_ok_iff`). What a path is made of is neither trimmed nor cut any
further, so a path comes back from its text (`parse_text`), and every list
of such segments is that of a path.
-/

namespace AttributeCache.PropertyPath

variable {s : String} {l rest : List String} {p : PropertyPath}

/-- The pieces of a text between its points, blanks taken off. -/
def segmentsIn (s : String) : List String :=
  (Text.pieces '.' (Text.trim s)).map Text.trim

/-- What is asked of the segments of a path: none is empty, none but the
first begins with the mark of a dynamic attribute, and the first is not the
mark alone. -/
structure Acceptable (l : List String) : Prop where
  ne_empty : ∀ x ∈ l, x ≠ ""
  nested : ∀ x ∈ l.tail, x.toList.head? ≠ some dynamicMark
  named : l.head? ≠ some dynamicMark.toString

instance : Decidable (Acceptable l) :=
  decidable_of_iff ((∀ x ∈ l, x ≠ "") ∧ (∀ x ∈ l.tail, x.toList.head? ≠ some dynamicMark) ∧
      l.head? ≠ some dynamicMark.toString)
    ⟨fun h => ⟨h.1, h.2.1, h.2.2⟩, fun h => ⟨h.ne_empty, h.nested, h.named⟩⟩

/-- A text that neither trimming nor cutting changes. -/
structure IsSegment (x : String) : Prop where
  trimmed : Text.trim x = x
  no_point : '.' ∉ x.toList

/-! ## What is accepted -/

theorem segmentsIn_ne_nil : segmentsIn s ≠ [] := by
  rw [segmentsIn, Text.pieces, ne_eq, List.map_eq_nil_iff, List.map_eq_nil_iff]
  exact Text.splitWhere_ne_nil

theorem isSome_dynamicCode?_iff {x : String} :
    (dynamicCode? x).isSome = true ↔ x.toList.head? = some dynamicMark := by
  rw [dynamicCode?, dynamicMark]
  split
  · rename_i code hx
    simp [hx]
  · rename_i hx
    cases hlist : x.toList with
    | nil => simp
    | cons c rest =>
      have hc : c ≠ '+' := by
        rintro rfl
        exact hx rest hlist
      simp [hc]

/-- **A text is a path exactly if its pieces are acceptable**, and they are
the segments of the path. -/
theorem parse_eq_ok_iff :
    parse s = .ok p ↔ Acceptable (segmentsIn s) ∧ p.segments = segmentsIn s := by
  rw [parse]
  by_cases hempty : (Text.trim s).isEmpty = true
  · -- nothing is left, and its one piece is empty
    have hpieces : segmentsIn s = [""] := by
      rw [segmentsIn, String.isEmpty_iff.1 hempty]
      decide
    rw [if_pos hempty, hpieces]
    exact iff_of_false (by simp) fun h => h.1.ne_empty "" List.mem_cons_self rfl
  · rw [if_neg hempty]
    cases hcut : segmentsIn s with
    | nil => exact absurd hcut segmentsIn_ne_nil
    | cons first rest =>
      rw [segmentsIn] at hcut
      simp only [hcut]
      have hsegments : p.segments = first :: rest ↔ (⟨first, rest⟩ : PropertyPath) = p := by
        obtain ⟨first', rest'⟩ := p
        rw [segments, PropertyPath.mk.injEq, List.cons.injEq, eq_comm, @eq_comm _ rest]
      rw [hsegments]
      split
      · rename_i hany
        refine iff_of_false (by simp) fun h => ?_
        obtain ⟨x, hx, hxempty⟩ := List.any_eq_true.1 hany
        exact h.1.ne_empty x hx (String.isEmpty_iff.1 hxempty)
      · rename_i hnone
        split
        · rename_i hany
          refine iff_of_false (by simp) fun h => ?_
          obtain ⟨x, hx, hmark⟩ := List.any_eq_true.1 hany
          exact h.1.nested x hx (isSome_dynamicCode?_iff.1 hmark)
        · rename_i hplain
          split
          · rename_i hbare
            exact iff_of_false (by simp) fun h => h.1.named (congrArg some hbare)
          · rename_i hnamed
            rw [Except.ok.injEq, iff_and_self]
            refine fun _ => ⟨fun x hx hxempty => hnone ?_, fun x hx hmark => hplain ?_,
              fun hbare => hnamed (Option.some.inj hbare)⟩
            · exact List.any_eq_true.2 ⟨x, hx, String.isEmpty_iff.2 hxempty⟩
            · exact List.any_eq_true.2 ⟨x, hx, isSome_dynamicCode?_iff.2 hmark⟩

/-- The pieces of a text are segments. -/
theorem isSegment_of_mem_segmentsIn {x : String} (h : x ∈ segmentsIn s) : IsSegment x := by
  obtain ⟨piece, hpiece, rfl⟩ := List.mem_map.1 h
  refine ⟨Text.trim_trim, fun hpoint => Text.not_mem_of_mem_pieces hpiece ?_⟩
  rw [Text.toList_trim] at hpoint
  exact Text.mem_of_mem_trimBoth hpoint

/-! ## What comes back -/

/-- Segments with points between begin with the first of them and end with
the last, so there is nothing to trim. -/
theorem trim_join (hl : ∀ x ∈ l, IsSegment x) (hempty : ∀ x ∈ l, x ≠ "") :
    Text.trim (Text.join "." l) = Text.join "." l := by
  induction l with
  | nil => decide
  | cons x rest ih =>
    cases rest with
    | nil => exact (hl x List.mem_cons_self).trimmed
    | cons y rest =>
      have hrest := ih (fun z hz => hl z (List.mem_cons_of_mem _ hz))
        fun z hz => hempty z (List.mem_cons_of_mem _ hz)
      have hx := (hl x List.mem_cons_self).trimmed
      rw [Text.trim_eq_self_iff] at hrest hx ⊢
      have hlist : (Text.join "." (x :: y :: rest)).toList =
          x.toList ++ '.' :: (Text.join "." (y :: rest)).toList := by
        simp [Text.join]
      rw [hlist]
      refine ⟨fun c hc => hx.1 c ?_, fun c hc => ?_⟩
      · have hne : x.toList ≠ [] := mt String.toList_eq_nil_iff.1 (hempty x List.mem_cons_self)
        rwa [List.head?_append_of_ne_nil _ hne] at hc
      · rw [List.getLast?_append, List.getLast?_cons] at hc
        cases hlast : (Text.join "." (y :: rest)).toList.getLast? with
        | none =>
          rw [hlast] at hc
          cases hc
          rfl
        | some d =>
          rw [hlast] at hc
          cases hc
          exact hrest.2 _ hlast

/-- **Joining segments and cutting the text gives them back.** -/
theorem segmentsIn_join (hne : l ≠ []) (hl : ∀ x ∈ l, IsSegment x) (hempty : ∀ x ∈ l, x ≠ "") :
    segmentsIn (Text.join "." l) = l := by
  rw [segmentsIn, trim_join hl hempty, Text.pieces_join rfl hne fun x hx => (hl x hx).no_point]
  exact (List.map_congr_left fun x hx => (hl x hx).trimmed).trans (List.map_id' l)

/-- Acceptable segments are those of the path that their text is. -/
theorem exists_parse_join (hne : l ≠ []) (hl : ∀ x ∈ l, IsSegment x) (h : Acceptable l) :
    ∃ p, parse (Text.join "." l) = .ok p ∧ p.segments = l := by
  obtain ⟨first, rest, rfl⟩ := List.exists_cons_of_ne_nil hne
  have hcut := segmentsIn_join hne hl h.ne_empty
  exact ⟨⟨first, rest⟩, parse_eq_ok_iff.2 ⟨hcut.symm ▸ h, hcut.symm⟩, rfl⟩

/-- **A path that was read comes back from its text.** -/
theorem parse_text (h : parse s = .ok p) : parse p.text = .ok p := by
  obtain ⟨haccept, hsegments⟩ := parse_eq_ok_iff.1 h
  have hne : p.segments ≠ [] := List.cons_ne_nil _ _
  have hcut : segmentsIn p.text = p.segments := by
    refine segmentsIn_join hne (fun x hx => ?_) fun x hx => ?_
    · exact isSegment_of_mem_segmentsIn (hsegments ▸ hx)
    · exact haccept.ne_empty x (hsegments ▸ hx)
  exact parse_eq_ok_iff.2 ⟨by rwa [hcut, hsegments], hcut.symm⟩

/-- **Which texts are paths, and of what segments.** A text is one exactly
if the pieces it is cut into are acceptable, and these are its segments.
They are segments for good: a path comes back from its text, and every
acceptable list of texts that are neither trimmed nor cut any further is
what the text with points between is read as. -/
theorem parse_exactly :
    (∀ s, (∃ p, parse s = .ok p) ↔ Acceptable (segmentsIn s)) ∧
      (∀ s p, parse s = .ok p → p.segments = segmentsIn s ∧ (∀ x ∈ p.segments, IsSegment x) ∧
        parse p.text = .ok p) ∧
      ∀ l, l ≠ [] → (∀ x ∈ l, IsSegment x) → Acceptable l →
        ∃ p, parse (Text.join "." l) = .ok p ∧ p.segments = l := by
  refine ⟨fun s => ⟨?_, fun h => ?_⟩, fun s p h => ?_, fun l => exists_parse_join⟩
  · rintro ⟨p, h⟩
    exact (parse_eq_ok_iff.1 h).1
  · obtain ⟨first, rest, hcut⟩ := List.exists_cons_of_ne_nil (segmentsIn_ne_nil (s := s))
    exact ⟨⟨first, rest⟩, parse_eq_ok_iff.2 ⟨h, hcut.symm⟩⟩
  · have hsegments := (parse_eq_ok_iff.1 h).2
    exact ⟨hsegments, fun x hx => isSegment_of_mem_segmentsIn (hsegments ▸ hx), parse_text h⟩

/-- Blanks around the points are taken off and those within a code are not.
With nothing but a blank behind it the mark is bare. -/
theorem parse_exactly_blanks :
    (∃ p, parse "\t+ net . city\u3000" = .ok p ∧ p.segments = ["+ net", "city"] ∧
      parse p.text = .ok p) ∧ (¬ ∃ p, parse "+ .city" = .ok p) ∧
      ∃ p, parse "+ net.city" = .ok p ∧ p.segments = ["+ net", "city"] := by
  obtain ⟨haccepts, hreads, hlists⟩ := parse_exactly
  have hcut : segmentsIn "\t+ net . city\u3000" = ["+ net", "city"] := by decide +kernel
  have hlist : Acceptable ["+ net", "city"] := by decide +kernel
  refine ⟨?_, fun h => ?_, ?_⟩
  · obtain ⟨p, hp⟩ := (haccepts _).2 (hcut.symm ▸ hlist)
    obtain ⟨hsegments, -, htext⟩ := hreads _ p hp
    exact ⟨p, hp, hsegments.trans hcut, htext⟩
  · exact absurd ((haccepts _).1 h) (by decide +kernel)
  · refine hlists ["+ net", "city"] (List.cons_ne_nil _ _) (fun x hx => ?_) hlist
    rcases List.mem_pair.1 hx with rfl | rfl
    · exact ⟨by decide +kernel, by decide +kernel⟩
    · exact ⟨by decide +kernel, by decide +kernel⟩

end AttributeCache.PropertyPath
