import AttributeCache.Text.Blank
import Mathlib.Data.List.DropRight
/-!
# Trimming

Blanks are taken off in front first and then at the end. So behind a
character that is no blank only the end is trimmed (`trimBoth_cons`), and a
text without blanks is left as it is (`trim_eq_self`). What is left of any
text is the part of it that no blank is at the ends of (`trims_trimBoth`).

Names are written with or without blanks around them, and a list of them may
hold texts that are blank altogether. What is named then is `namesIn`.
-/

namespace AttributeCache

namespace Text

variable {c : Char} {s : List Char} {x : String}

/-- A digit is no blank. -/
theorem isBlank_of_isDigit (h : c.isDigit = true) : isBlank c = false := by
  have hdigit : 48 ≤ c.toNat ∧ c.toNat ≤ 57 := by
    rw [Char.isDigit] at h
    simpa [UInt32.le_iff_toNat_le] using h
  simp [isBlank]
  omega

/-- The text without the blanks it ends with. -/
def trimEnd (x : String) : String :=
  String.ofList (x.toList.rdropWhile isBlank)

theorem trimBoth_eq : trimBoth s = (s.dropWhile isBlank).rdropWhile isBlank := rfl

@[simp] theorem toList_trim : (trim x).toList = trimBoth x.toList :=
  String.toList_ofList

@[simp] theorem toList_trimEnd : (trimEnd x).toList = x.toList.rdropWhile isBlank :=
  String.toList_ofList

theorem rdropWhile_cons (h : isBlank c = false) :
    (c :: s).rdropWhile isBlank = c :: s.rdropWhile isBlank := by
  induction s using List.reverseRecOn with
  | nil => rw [List.rdropWhile_singleton, if_neg (by simp [h]), List.rdropWhile_nil]
  | append_singleton s d ih =>
    rw [← List.cons_append, List.rdropWhile_concat, List.rdropWhile_concat, ih]
    split <;> rfl

/-- **Behind a character that is no blank only the end is trimmed.** -/
theorem trimBoth_cons (h : isBlank c = false) :
    trimBoth (c :: s) = c :: s.rdropWhile isBlank := by
  rw [trimBoth_eq, List.dropWhile_cons_of_neg (by simp [h]), rdropWhile_cons h]

/-- Trimming only the end leaves something where trimming does. -/
theorem rdropWhile_ne_nil (h : trimBoth s ≠ []) : s.rdropWhile isBlank ≠ [] := by
  intro hnil
  rw [List.rdropWhile_eq_nil_iff] at hnil
  rw [trimBoth_eq, List.dropWhile_eq_nil_iff.2 hnil, List.rdropWhile_nil] at h
  exact h rfl

/-- **What trimming leaves as it is**: what neither begins nor ends with a
blank. -/
theorem trimBoth_eq_self_iff : trimBoth s = s ↔
    (∀ c ∈ s.head?, isBlank c = false) ∧ ∀ c ∈ s.getLast?, isBlank c = false := by
  cases s with
  | nil => simp [trimBoth_eq]
  | cons c s =>
    cases hc : isBlank c with
    | false =>
      have hlast : (c :: s).getLast? = some ((c :: s).getLast (List.cons_ne_nil _ _)) :=
        List.getLast?_eq_some_getLast _
      rw [trimBoth_eq, List.dropWhile_cons_of_neg (by simp [hc]), List.rdropWhile_eq_self_iff,
        hlast]
      simp [hc]
    | true =>
      -- the blank in front is gone, so the text is shorter than it was
      refine iff_of_false (fun h => ?_) fun h => ?_
      · rw [trimBoth_eq, List.dropWhile_cons_of_pos hc] at h
        have hdrop := (List.dropWhile_suffix isBlank (l := s)).length_le
        have hlength := (List.rdropWhile_prefix isBlank (s.dropWhile isBlank)).length_le
        rw [h, List.length_cons] at hlength
        omega
      · have := h.1 c rfl
        rw [hc] at this
        exact Bool.noConfusion this

theorem trim_eq_self_iff : trim x = x ↔
    (∀ c ∈ x.toList.head?, isBlank c = false) ∧ ∀ c ∈ x.toList.getLast?, isBlank c = false := by
  rw [← String.toList_inj, toList_trim, trimBoth_eq_self_iff]

theorem mem_of_mem_trimBoth (h : c ∈ trimBoth s) : c ∈ s :=
  (List.dropWhile_suffix _).subset ((List.rdropWhile_prefix _ _).subset h)

/-- Trimming leaves nothing to trim. -/
theorem trimBoth_trimBoth : trimBoth (trimBoth s) = trimBoth s := by
  rw [trimBoth_eq (s := s)]
  cases hdrop : s.dropWhile isBlank with
  | nil => rfl
  | cons c rest =>
    have hc : isBlank c = false := by
      have hhead := List.head?_dropWhile_not isBlank s
      rwa [hdrop] at hhead
    rw [rdropWhile_cons hc, trimBoth_cons hc, List.rdropWhile_idempotent]

theorem trim_trim : trim (trim x) = trim x := by
  rw [← String.toList_inj, toList_trim, toList_trim, trimBoth_trimBoth]

/-- **A text without blanks is left as it is.** -/
theorem trimBoth_eq_self (h : ∀ c ∈ s, isBlank c = false) : trimBoth s = s := by
  cases s with
  | nil => rfl
  | cons c s =>
    have hlast : s.rdropWhile isBlank = s := by
      refine List.rdropWhile_eq_self_iff.2 fun hne => ?_
      rw [h _ (List.mem_cons_of_mem _ (List.getLast_mem hne))]
      exact Bool.false_ne_true
    rw [trimBoth_cons (h c List.mem_cons_self), hlast]

theorem trim_eq_self (h : ∀ c ∈ x.toList, isBlank c = false) : trim x = x := by
  rw [trim, trimBoth_eq_self h, String.ofList_toList]

/-! ## What is left -/

/-- A part of a text that has nothing but blanks around it, and none at its
own ends. -/
structure Trims (s t : List Char) : Prop where
  within : ∃ front back, s = front ++ t ++ back ∧ (∀ c ∈ front, isBlank c = true) ∧
    ∀ c ∈ back, isBlank c = true
  head : ∀ c ∈ t.head?, isBlank c = false
  last : ∀ c ∈ t.getLast?, isBlank c = false

theorem trims_trimBoth (s : List Char) : Trims s (trimBoth s) := by
  have hends := trimBoth_eq_self_iff.1 (trimBoth_trimBoth (s := s))
  refine ⟨⟨s.takeWhile isBlank, (s.dropWhile isBlank).rtakeWhile isBlank, ?_, fun c hc => ?_,
    fun c hc => ?_⟩, hends.1, hends.2⟩
  · have hback : trimBoth s ++ (s.dropWhile isBlank).rtakeWhile isBlank = s.dropWhile isBlank := by
      rw [trimBoth_eq, List.rdropWhile, List.rtakeWhile, ← List.reverse_append,
        List.takeWhile_append_dropWhile, List.reverse_reverse]
    rw [List.append_assoc, hback, List.takeWhile_append_dropWhile]
  · exact List.mem_takeWhile_imp hc
  · exact List.mem_rtakeWhile_imp hc

/-! ## Names among texts -/

variable {texts : List String}

/-- The names that some texts write, in order. Blanks around a name are no
part of it, and a blank text writes none. -/
def namesIn : List String → List String
  | [] => []
  | text :: rest => if trim text = "" then namesIn rest else trim text :: namesIn rest

theorem mem_namesIn : x ∈ namesIn texts ↔ x ≠ "" ∧ ∃ text ∈ texts, trim text = x := by
  induction texts with
  | nil => simp [namesIn]
  | cons text rest ih =>
    rw [namesIn]
    split
    · rename_i hblank
      rw [ih]
      refine and_congr_right fun hx => ?_
      have hother : trim text ≠ x := fun h => hx (h ▸ hblank)
      simp [hother]
    · rename_i hname
      rw [List.mem_cons, ih]
      constructor
      · rintro (rfl | ⟨hx, written, hwritten, rfl⟩)
        · exact ⟨hname, text, List.mem_cons_self, rfl⟩
        · exact ⟨hx, written, List.mem_cons_of_mem _ hwritten, rfl⟩
      · rintro ⟨hx, written, hwritten, rfl⟩
        rcases List.mem_cons.1 hwritten with rfl | hwritten
        · exact .inl rfl
        · exact .inr ⟨hx, written, hwritten, rfl⟩

/-- They are what is left of the texts when the blank ones are taken out. -/
theorem filter_map_trim : (texts.map trim).filter (!·.isEmpty) = namesIn texts := by
  induction texts with
  | nil => rfl
  | cons text rest ih =>
    rw [List.map_cons, namesIn]
    split
    · rename_i hblank
      rw [hblank, List.filter_cons_of_neg (by decide), ih]
    · rename_i hname
      rw [List.filter_cons_of_pos (by simpa using hname), ih]

end Text

end AttributeCache
