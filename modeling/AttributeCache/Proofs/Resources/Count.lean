import AttributeCache.Proofs.Resources.NormalForm
import Mathlib.Data.List.Nodup
import Mathlib.Data.List.Perm.Subperm
/-!
# No more documents than there are

Different normal paths lead to different documents: in memory because a
normal path is told by its text, below a directory because the segments of
the root are followed the same way each time and those of the path then
lead straight down. So at most `Resources.count` normal paths can be read
(`length_le_count`), which is what bounds the include walk.
-/

namespace AttributeCache

open NormalPath

variable {r : Resources} {t : FileTree} {p : NormalPath} {bytes : Text.Bytes}

/-! ## Files below a directory -/

namespace FileTree

/-- Plain segments lead straight down to the file they name. -/
theorem file?_of_follow {here segments : List String} (hs : ∀ s ∈ segments, IsPlain s)
    (h : t.follow here segments = .ok bytes) : t.file? (here ++ segments) = some bytes := by
  induction segments generalizing here with
  | nil => exact absurd h (by simp [follow])
  | cons a rest ih =>
    obtain ⟨hempty, hhere, hup, -⟩ := hs a List.mem_cons_self
    rw [follow, if_neg (by simp [hempty, hhere]), if_neg hup] at h
    split at h
    · exact absurd h (by simp)
    · simp only at h
      split at h
      · rename_i contents hfile
        split at h
        · rename_i hrest
          rw [hrest, hfile, ← Except.ok.inj h]
        · exact absurd h (by simp)
      · split at h
        · rw [List.append_cons]
          exact ih (fun s hs' => hs s (List.mem_cons_of_mem _ hs')) h
        · exact absurd h (by simp)

/-- **Whatever is followed first is followed to one place**, from which
plain segments lead straight down. -/
theorem exists_start_of_follow (t : FileTree) (here first : List String) :
    ∃ start, ∀ segments bytes, segments ≠ [] → (∀ s ∈ segments, IsPlain s) →
      t.follow here (first ++ segments) = .ok bytes →
      t.file? (start ++ segments) = some bytes := by
  -- on what is followed first; no step of it looks at what comes behind
  induction first generalizing here with
  | nil => exact ⟨here, fun segments bytes _ hs h => file?_of_follow hs h⟩
  | cons a rest ih =>
    by_cases hstays : a = "" ∨ a = "."
    · obtain ⟨start, hstart⟩ := ih here
      refine ⟨start, fun segments bytes hne hs h => hstart segments bytes hne hs ?_⟩
      rwa [List.cons_append, follow, if_pos hstays] at h
    · by_cases hup : a = ".."
      · obtain ⟨start, hstart⟩ := ih here.dropLast
        refine ⟨start, fun segments bytes hne hs h => hstart segments bytes hne hs ?_⟩
        rw [List.cons_append, follow, if_neg hstays, if_pos hup] at h
        split at h
        · exact absurd h (by simp)
        · exact h
      · obtain ⟨start, hstart⟩ := ih (here ++ [a])
        refine ⟨start, fun segments bytes hne hs h => hstart segments bytes hne hs ?_⟩
        rw [List.cons_append, follow, if_neg hstays, if_neg hup] at h
        split at h
        · exact absurd h (by simp)
        · simp only at h
          split at h
          · rw [if_neg (by simp [hne])] at h
            exact absurd h (by simp)
          · split at h
            · exact h
            · exact absurd h (by simp)

/-- Behind a slash at the end there is nothing to read. -/
theorem follow_append_empty_ne_ok {here first : List String} :
    t.follow here (first ++ [""]) ≠ .ok bytes := by
  induction first generalizing here with
  | nil => simp [follow]
  | cons a rest ih =>
    rw [List.cons_append, follow]
    split
    · exact ih
    · split
      · split
        · simp
        · exact ih
      · split
        · simp
        · simp only
          split
          · rw [if_neg (by simp)]
            simp
          · split
            · exact ih
            · simp

/-- What is looked up is there. -/
theorem mem_map_of_lookup {κ β : Type} [BEq κ] [LawfulBEq κ] {entries : List (κ × β)} {k : κ}
    {b : β} (h : entries.lookup k = some b) : k ∈ entries.map (·.1) := by
  obtain ⟨before, after, rfl, -⟩ := List.lookup_eq_some_iff.1 h
  simp

end FileTree

/-! ## Documents -/

namespace Resources

/-- A document is had where its bytes are, and are well formed. -/
theorem document_eq_ok_iff {α : Type} {read : Nat → Json.Tree → Except Json.Fault α}
    {path : String} {a : α} :
    r.document read path = .ok a ↔
      ∃ bytes, r.read path = .ok bytes ∧ Json.decodeBytes read bytes = .ok a := by
  rw [document]
  rcases r.read path with ⟨_ | _⟩ | bytes
  · simp
  · simp
  · cases hdecode : Json.decodeBytes read bytes <;> simp [hdecode]

/-- A root puts the same segments in front of every path. -/
theorem exists_pieces_below (root : String) :
    ∃ first, ∀ path, Text.pieces '/' (below root path) = first ++ Text.pieces '/' path := by
  by_cases hempty : root.isEmpty = true
  · exact ⟨[], fun path => by rw [below, if_pos hempty, List.nil_append]⟩
  · by_cases hslash : root.toList.getLast? = some '/'
    · refine ⟨Text.pieces '/' (String.ofList root.toList.dropLast), fun path => ?_⟩
      have hroot : root = String.ofList root.toList.dropLast ++ "/" := by
        apply String.toList_inj.1
        rw [String.toList_append, String.toList_ofList]
        exact (List.dropLast_append_getLast? '/' hslash).symm
      rw [below, if_neg hempty, if_pos hslash,
        ← Text.pieces_append (show "/".toList = ['/'] from rfl), ← hroot]
    · refine ⟨Text.pieces '/' root, fun path => ?_⟩
      rw [below, if_neg hempty, if_neg hslash, Text.pieces_append rfl]

/-- A file that a normal path leads to stands below the place its root
leads to. -/
theorem exists_file_of_read (t : FileTree) (root : String) :
    ∃ start : List String, ∀ (p : NormalPath) bytes, p.Normal →
      (directory t root).read p.text = .ok bytes →
      start ++ p.segments ∈ t.files.map (·.1) := by
  obtain ⟨first, hfirst⟩ := exists_pieces_below root
  obtain ⟨start, hstart⟩ := t.exists_start_of_follow [] first
  refine ⟨start, fun p bytes hp h => ?_⟩
  rw [read, relative_text hp] at h
  split at h
  · exact absurd h (by simp)
  · rw [FileTree.read] at h
    split at h
    · exact absurd h (by simp)
    · split at h
      · exact absurd h (by simp)
      · rw [hfirst] at h
        -- the empty path is read like one that ends in a slash
        by_cases hne : p.segments = []
        · have hempty : p.text = "" := by
            rw [text, hne]
            rfl
          rw [hempty, Text.pieces_eq_singleton (by simp)] at h
          exact absurd h FileTree.follow_append_empty_ne_ok
        · rw [pieces_text hp hne] at h
          exact FileTree.mem_map_of_lookup (hstart p.segments bytes hne hp h)

/-- What tells the documents of a store apart: names, one for each
document, of which each normal path that can be read has one of its own. -/
theorem exists_names (r : Resources) :
    ∃ (κ : Type) (names : List κ) (name : NormalPath → κ), names.length = r.count ∧
      (∀ p q : NormalPath, p.Normal → q.Normal → name p = name q → p = q) ∧
      ∀ (p : NormalPath) bytes, p.Normal → r.read p.text = .ok bytes → name p ∈ names := by
  cases r with
  | memory documents =>
    refine ⟨String, documents.map (·.1), NormalPath.text, List.length_map _,
      fun p q hp hq h => text_injective hp hq h, fun p bytes hp h => ?_⟩
    rw [read, relative_text hp] at h
    split at h
    · rename_i contents hlookup
      exact FileTree.mem_map_of_lookup hlookup
    · exact absurd h (by simp)
  | directory tree root =>
    obtain ⟨start, hstart⟩ := exists_file_of_read tree root
    refine ⟨List String, tree.files.map (·.1), fun p => start ++ p.segments, List.length_map _,
      fun p q _ _ h => ?_, hstart⟩
    cases p
    cases q
    cases List.append_cancel_left h
    rfl

/-- **At most as many normal paths can be read as there are documents.** -/
theorem length_le_count (r : Resources) {paths : List NormalPath} (hnodup : paths.Nodup)
    (hread : ∀ p ∈ paths, p.Normal ∧ ∃ bytes, r.read p.text = .ok bytes) :
    paths.length ≤ r.count := by
  obtain ⟨κ, names, name, hlength, hinj, hmem⟩ := r.exists_names
  rw [← hlength, ← List.length_map name]
  refine (List.Nodup.subperm ?_ ?_).length_le
  · exact hnodup.map_on fun p hp q hq h => hinj p q (hread p hp).1 (hread q hq).1 h
  · intro k hk
    obtain ⟨p, hp, rfl⟩ := List.mem_map.1 hk
    obtain ⟨hnormal, bytes, hbytes⟩ := hread p hp
    exact hmem p bytes hnormal hbytes

end Resources

end AttributeCache
