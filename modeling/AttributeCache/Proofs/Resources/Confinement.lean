import AttributeCache.Proofs.Resources.Disk
/-!
# No path leads out

A text has no normal form exactly if somewhere on the way more of its
segments have gone up than led down (`ofText?_eq_none_iff`); for the
induction this is said of any number of segments taken in before. What does
have a normal form has one that is its own (`ofText?_text`), and the texts
in normal form are those that say where they lead and nothing else.

Below a directory `..` is refused in whatever path is asked for, and the
rest of the path has no slash in front. So what is opened is the root with
a path behind it that only leads down, and a file that is read stands below
the place where the root leads to (`exists_file?_of_read_below`).
-/

namespace AttributeCache

open Text (Bytes)

variable {s a : String} {p : NormalPath} {segments first rest taken here : List String}
variable {t : FileTree} {bytes : Bytes}

namespace NormalPath

/-! ## Climbing out -/

/-- A segment that leads down. -/
def LeadsDown (x : String) : Prop := x ≠ "" ∧ x ≠ "." ∧ x ≠ ".."

instance : DecidablePred LeadsDown := fun x =>
  inferInstanceAs (Decidable (x ≠ "" ∧ x ≠ "." ∧ x ≠ ".."))

/-- How many segments go up. -/
def ups (segments : List String) : Nat :=
  segments.countP fun x => x = ".."

/-- How many segments lead down. -/
def downs (segments : List String) : Nat :=
  segments.countP fun x => LeadsDown x

/-- Somewhere on the way more segments have gone up than led down. -/
def ClimbsOut (segments : List String) : Prop :=
  ∃ front, front <+: segments ∧ downs front < ups front

/-- A segment stays, goes up or leads down. -/
theorem segment_cases (a : String) : (a = "" ∨ a = ".") ∨ a = ".." ∨ LeadsDown a := by
  by_cases hstays : a = "" ∨ a = "."
  · exact .inl hstays
  · by_cases hup : a = ".."
    · exact .inr (.inl hup)
    · rw [not_or] at hstays
      exact .inr (.inr ⟨hstays.1, hstays.2, hup⟩)

theorem climb_stays (h : a = "" ∨ a = ".") : climb taken (a :: rest) = climb taken rest := by
  rw [climb.eq_def]
  exact if_pos h

theorem climb_up_nil : climb [] (".." :: rest) = none := rfl

theorem climb_up_cons : climb (a :: taken) (".." :: rest) = climb taken rest := rfl

theorem climb_down (h : LeadsDown a) : climb taken (a :: rest) = climb (a :: taken) rest := by
  rw [climb.eq_def]
  dsimp only
  rw [if_neg (not_or.2 ⟨h.1, h.2.1⟩), if_neg h.2.2]

/-- A segment in front is in front on every way but the empty one. -/
theorem exists_prefix_cons_iff {Q : List String → Prop} (hnil : ¬ Q []) :
    (∃ front, front <+: a :: rest ∧ Q front) ↔ ∃ front, front <+: rest ∧ Q (a :: front) := by
  constructor
  · rintro ⟨front, hfront, hq⟩
    rcases List.prefix_cons_iff.1 hfront with rfl | ⟨front, rfl, hrest⟩
    · exact absurd hq hnil
    · exact ⟨front, hrest, hq⟩
  · rintro ⟨front, hfront, hq⟩
    exact ⟨a :: front, List.cons_prefix_cons.2 ⟨rfl, hfront⟩, hq⟩

/-- **Climbing fails where it would leave** the segments taken before and
those on the way. -/
theorem climb_eq_none_iff : climb taken segments = none ↔
    ∃ front, front <+: segments ∧ taken.length + downs front < ups front := by
  induction segments generalizing taken with
  | nil =>
    refine iff_of_false (by simp [climb]) ?_
    rintro ⟨front, hfront, hlt⟩
    rw [List.prefix_nil.1 hfront] at hlt
    exact absurd hlt (Nat.not_lt_zero _)
  | cons a rest ih =>
    rw [exists_prefix_cons_iff (Nat.not_lt_zero _)]
    rcases segment_cases a with hstays | rfl | hdown
    · rw [climb_stays hstays, ih]
      have hnot : ¬ LeadsDown a ∧ a ≠ ".." := by
        rcases hstays with rfl | rfl <;> decide
      simp [downs, ups, hnot]
    · cases taken with
      | nil => exact iff_of_true climb_up_nil ⟨[], List.nil_prefix, by decide⟩
      | cons b taken =>
        rw [climb_up_cons, ih]
        refine exists_congr fun front => and_congr_right fun _ => ?_
        have hnot : ¬ LeadsDown ".." := by decide
        simp only [downs, ups, List.countP_cons, List.length_cons, hnot, decide_true, decide_false,
          if_true, Bool.false_eq_true, if_false]
        omega
    · rw [climb_down hdown, ih]
      refine exists_congr fun front => and_congr_right fun _ => ?_
      simp only [downs, ups, List.countP_cons, List.length_cons, hdown, hdown.2.2, decide_true,
        decide_false, if_true, Bool.false_eq_true, if_false]
      omega

/-- **A text has no normal form exactly if it climbs out.** -/
theorem ofText?_eq_none_iff : ofText? s = none ↔ ClimbsOut (Text.pieces '/' s) := by
  rw [ofText?, descend?, Option.map_eq_none_iff, climb_eq_none_iff]
  simp [ClimbsOut]

/-! ## Texts in normal form -/

/-- A text that says where it leads and nothing else: it is empty, or all
of its segments lead down. -/
def InNormalForm (s : String) : Prop :=
  s = "" ∨ ∀ x ∈ Text.pieces '/' s, LeadsDown x

theorem IsPlain.leadsDown (h : IsPlain a) : LeadsDown a := ⟨h.ne_empty, h.ne_here, h.ne_up⟩

/-- Segments that lead down are all taken in. -/
theorem climb_append_of_leadsDown (h : ∀ x ∈ segments, LeadsDown x) :
    climb taken (segments ++ rest) = climb (segments.reverse ++ taken) rest := by
  induction segments generalizing taken with
  | nil => rfl
  | cons a segments ih =>
    rw [List.cons_append, climb_down (h a List.mem_cons_self),
      ih fun x hx => h x (List.mem_cons_of_mem _ hx), List.reverse_cons, List.append_assoc,
      List.singleton_append]

theorem climb_of_leadsDown (h : ∀ x ∈ segments, LeadsDown x) :
    climb taken segments = some (segments.reverse ++ taken) := by
  rw [← List.append_nil segments, climb_append_of_leadsDown h, List.append_nil, climb]

/-- **A normal path is what its text leads to.** -/
theorem ofText?_text (hp : p.Normal) : ofText? p.text = some p := by
  obtain ⟨segments⟩ := p
  by_cases hne : segments = []
  · subst hne
    rfl
  · rw [ofText?, pieces_text hp hne, descend?, climb_of_leadsDown fun x hx => (hp x hx).leadsDown]
    simp

theorem inNormalForm_text (hp : p.Normal) : InNormalForm p.text := by
  by_cases hne : p.segments = []
  · left
    rw [text, hne]
    rfl
  · right
    rw [pieces_text hp hne]
    exact fun x hx => (hp x hx).leadsDown

/-- **The texts in normal form are those that are their own.** -/
theorem inNormalForm_iff : InNormalForm s ↔ (ofText? s).map text = some s := by
  constructor
  · rintro (rfl | h)
    · rfl
    · rw [ofText?, descend?, climb_of_leadsDown h]
      simp [text, Text.join_pieces]
  · intro h
    obtain ⟨p, hp, rfl⟩ := Option.map_eq_some_iff.1 h
    exact inNormalForm_text (normal_of_ofText? hp)

/-! ## Includes -/

/-- An include in a document as it reads from the root. -/
def fromRoot (p : NormalPath) (target : String) : String :=
  if target.toList.head? = some '/' ∨ p.directory = [] then target
  else Text.join "/" p.directory ++ "/" ++ target

/-- **An include leads where its text leads from the root**, so it fails if
that climbs out. -/
theorem resolve?_eq_ofText? (hp : p.Normal) (target : String) :
    p.resolve? target = ofText? (p.fromRoot target) := by
  rw [resolve?, fromRoot]
  by_cases hroot : target.toList.head? = some '/'
  · rw [if_pos hroot, if_pos (.inl hroot), ofText?]
  · rw [if_neg hroot]
    by_cases hdir : p.directory = []
    · rw [if_pos (.inr hdir), hdir, ofText?]
    · rw [if_neg (not_or.2 ⟨hroot, hdir⟩), ofText?, Text.pieces_append rfl]
      have hplain : ∀ s ∈ p.directory, IsPlain s := fun s hs => hp s (List.dropLast_subset _ hs)
      have hpieces : Text.pieces '/' (Text.join "/" p.directory) = p.directory :=
        Text.pieces_join rfl hdir fun s hs => (hplain s hs).no_slash
      rw [hpieces, descend?, descend?, List.reverse_nil,
        climb_append_of_leadsDown fun s hs => (hplain s hs).leadsDown, List.append_nil]

end NormalPath

/-! ## Below a root -/

open NormalPath

/-- **What is followed first is climbed**, and from where that ends the rest
leads straight down, if it does not go up. -/
theorem FileTree.file?_of_follow_append (hup : ".." ∉ segments) (hne : segments ≠ [])
    (h : t.follow here (first ++ segments) = .ok bytes) :
    ∃ start, climb here.reverse first = some start ∧
      t.file? (start.reverse ++ segments.filter fun s => s != "" && s != ".") = some bytes := by
  induction first generalizing here with
  | nil =>
    refine ⟨here.reverse, rfl, ?_⟩
    rw [List.reverse_reverse]
    exact Resources.file?_of_follow_ok hup h
  | cons a rest ih =>
    rw [List.cons_append, follow] at h
    rcases segment_cases a with hstays | rfl | hdown
    · rw [if_pos hstays] at h
      rw [climb_stays hstays]
      exact ih h
    · rw [if_neg (by decide), if_pos rfl] at h
      split at h
      · cases h
      · rename_i hhere
        -- going up takes away the last segment taken
        obtain ⟨front, last, rfl⟩ := (List.eq_nil_or_concat' here).resolve_left hhere
        rw [List.dropLast_concat] at h
        rw [List.reverse_append, List.reverse_singleton, List.singleton_append, climb_up_cons]
        exact ih h
    · rw [if_neg (not_or.2 ⟨hdown.1, hdown.2.1⟩), if_neg hdown.2.2] at h
      rw [climb_down hdown]
      have hnext : (here ++ [a]).reverse = a :: here.reverse := by
        rw [List.reverse_append, List.reverse_singleton, List.singleton_append]
      rw [← hnext]
      split at h
      · cases h
      · simp only at h
        split at h
        · rw [if_neg (by simp [hne])] at h
          cases h
        · split at h
          · exact ih h
          · cases h

namespace Resources

variable {root path : String}

/-- No slash is left in front. -/
theorem head?_relative_ne_slash : (relative path).toList.head? ≠ some '/' := by
  rw [relative, String.toList_ofList]
  have hhead := List.head?_dropWhile_not (· == '/') path.toList
  intro hslash
  rw [hslash] at hhead
  exact absurd hhead (by decide)

/-- A slash at the end leads nowhere else. -/
theorem climb_concat_empty : climb taken (segments ++ [""]) = climb taken segments := by
  induction segments generalizing taken with
  | nil => exact climb_stays (.inl rfl)
  | cons a rest ih =>
    rw [List.cons_append]
    rcases segment_cases a with hstays | rfl | hdown
    · rw [climb_stays hstays, climb_stays hstays, ih]
    · cases taken with
      | nil => rfl
      | cons b taken => rw [climb_up_cons, climb_up_cons, ih]
    · rw [climb_down hdown, climb_down hdown, ih]

/-- What a root puts in front of every path leads where the root leads to. -/
theorem exists_first_below (root : String) :
    ∃ first, (∀ path, Text.pieces '/' (below root path) = first ++ Text.pieces '/' path) ∧
      climb [] first = climb [] (Text.pieces '/' root) := by
  obtain ⟨first, hfirst⟩ := exists_pieces_below root
  refine ⟨first, hfirst, ?_⟩
  have hempty : Text.pieces '/' "" = [""] := Text.pieces_eq_singleton List.not_mem_nil
  -- the empty path shows what stands in front
  calc climb [] first = climb [] (Text.pieces '/' (below root "")) := by
        rw [hfirst, hempty, climb_concat_empty]
    _ = climb [] (Text.pieces '/' root) := by
        rw [below]
        split
        · rename_i hroot
          rw [String.isEmpty_iff.1 hroot]
        · split
          · rw [String.append_empty]
          · rw [Text.pieces_append rfl, hempty, climb_concat_empty]

/-- A path with `..` in it opens nothing, whatever is there. -/
theorem read_directory_of_mem (hup : ".." ∈ Text.pieces '/' (relative path)) (tree : FileTree)
    (root : String) : (directory tree root).read path = .error .missing := by
  rw [read, if_pos (List.contains_iff_mem.2 hup)]

/-- For all others the root is opened with the path behind it. -/
theorem read_directory_of_not_mem (hup : ".." ∉ Text.pieces '/' (relative path)) (tree : FileTree)
    (root : String) :
    (directory tree root).read path = tree.read (below root (relative path)) := by
  rw [read, if_neg fun hcontains => hup (List.contains_iff_mem.1 hcontains)]

/-- **What is opened stands below where the root leads to**, by any path that
does not go up. -/
theorem exists_file?_of_read_below {tree : FileTree} (hup : ".." ∉ Text.pieces '/' path)
    (h : tree.read (below root path) = .ok bytes) : ∃ start, ofText? root = some start ∧
      tree.file? (start.segments ++ FileTree.segmentsOf path) = some bytes := by
  obtain ⟨first, hfirst, hclimb⟩ := exists_first_below root
  rw [FileTree.read, hfirst] at h
  split at h
  · cases h
  · split at h
    · cases h
    · have hne : Text.pieces '/' path ≠ [] := by
        rw [Text.pieces, ne_eq, List.map_eq_nil_iff]
        exact Text.splitWhere_ne_nil
      obtain ⟨start, hstart, hfile⟩ := FileTree.file?_of_follow_append hup hne h
      rw [List.reverse_nil, hclimb] at hstart
      exact ⟨⟨start.reverse⟩, by rw [ofText?, descend?, List.reverse_nil, hstart]; rfl, hfile⟩

/-- A path in normal form does not go up. -/
theorem up_not_mem_relative_text (hp : p.Normal) : ".." ∉ Text.pieces '/' (relative p.text) := by
  rw [relative_text hp]
  intro hmem
  rcases inNormalForm_text hp with hempty | hdown
  · rw [hempty, Text.pieces_eq_singleton List.not_mem_nil] at hmem
    exact absurd hmem (by decide)
  · exact (hdown _ hmem).2.2 rfl

/-! ## Where documents stand -/

/-- Where the document a path leads to stands: under its name in memory, or
among the files. -/
def place (r : Resources) (path : String) : List String :=
  match r with
  | .memory _ => [relative path]
  | .directory _ root =>
    ((ofText? root).map (·.segments)).getD [] ++ FileTree.segmentsOf (relative path)

/-- The document that stands somewhere. -/
def contentsAt? (r : Resources) (place : List String) : Option Bytes :=
  match r, place with
  | .memory documents, [name] => documents.lookup name
  | .memory _, _ => none
  | .directory tree _, _ => tree.file? place

variable {r : Resources} {q : NormalPath}

/-- **What is read is the document at its place.** -/
theorem contentsAt?_place (h : r.read path = .ok bytes) :
    r.contentsAt? (r.place path) = some bytes := by
  cases r with
  | memory documents =>
    rw [read] at h
    split at h
    · rename_i contents hlookup
      rw [← Except.ok.inj h]
      exact hlookup
    · cases h
  | directory tree root =>
    have hup : ".." ∉ Text.pieces '/' (relative path) := by
      intro hup
      rw [read_directory_of_mem hup] at h
      cases h
    rw [read_directory_of_not_mem hup] at h
    obtain ⟨start, hstart, hfile⟩ := exists_file?_of_read_below hup h
    rw [place, hstart]
    exact hfile

theorem segmentsOf_text (hp : p.Normal) : FileTree.segmentsOf p.text = p.segments := by
  by_cases hne : p.segments = []
  · have hempty : p.text = "" := by
      rw [text, hne]
      rfl
    rw [hempty, hne]
    decide
  · rw [FileTree.segmentsOf, pieces_text hp hne]
    refine List.filter_eq_self.2 fun x hx => ?_
    have hplain := hp x hx
    simp [hplain.ne_empty, hplain.ne_here]

/-- **Different normal paths lead to different places.** -/
theorem place_injective (hp : p.Normal) (hq : q.Normal) (h : r.place p.text = r.place q.text) :
    p = q := by
  cases r with
  | memory documents =>
    rw [place, place, relative_text hp, relative_text hq, List.singleton_inj] at h
    exact text_injective hp hq h
  | directory tree root =>
    rw [place, place, relative_text hp, relative_text hq, segmentsOf_text hp,
      segmentsOf_text hq] at h
    cases p
    cases q
    cases List.append_cancel_left h
    rfl

end Resources

end AttributeCache
