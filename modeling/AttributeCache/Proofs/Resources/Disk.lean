import AttributeCache.Proofs.Resources.Count
import Mathlib.Data.List.Induction
/-!
# The same documents in memory and on disk

Documents are given by normal paths, and stand in memory under the texts of
these or below a directory as files. Whoever reads by normal path cannot
tell the two apart (`read_text_inMemory_iff`). By any other text more can be
read below a directory: there empty segments and `.` lead nowhere else,
while in memory they are part of the name. The two agree on a text exactly
if it has no such segment, or leads to nothing (`read_inMemory_iff`).
-/

namespace AttributeCache

open NormalPath
open Text (Bytes)

variable {docs : List (NormalPath × Bytes)} {p : NormalPath} {bytes : Bytes}
variable {tree : FileTree} {root path : String} {start : List String}

namespace Resources

/-- A text whose segments all name something: none is empty or `.`, the
slashes in front apart. -/
def Direct (path : String) : Prop :=
  ∀ s ∈ Text.pieces '/' (relative path), s ≠ "" ∧ s ≠ "."

instance : Decidable (Direct path) :=
  inferInstanceAs (Decidable (∀ s ∈ Text.pieces '/' (relative path), s ≠ "" ∧ s ≠ "."))

/-- **Documents that can stand side by side as files** below a root. -/
structure Coexist (root : String) (docs : List (NormalPath × Bytes)) : Prop where
  normal : ∀ x ∈ docs, x.1.Normal
  named : ∀ x ∈ docs, x.1.segments ≠ []
  distinct : (docs.map (·.1)).Nodup
  /-- None stands where another one has a directory. -/
  apart : ∀ x ∈ docs, ∀ y ∈ docs, x.1.segments <+: y.1.segments → x.1 = y.1
  /-- No segment is too long for a file system. -/
  segments : ∀ x ∈ docs, ∀ s ∈ x.1.segments, s.utf8ByteSize ≤ FileTree.maxSegment
  /-- And no path is too long for one, or holds what none can hold. -/
  paths : ∀ x ∈ docs, '\x00' ∉ (below root x.1.text).toList ∧
    (below root x.1.text).utf8ByteSize ≤ FileTree.maxPath

/-- The documents in memory. -/
def inMemory (docs : List (NormalPath × Bytes)) : Resources :=
  .memory (docs.map fun x => (x.1.text, x.2))

/-- **A directory that holds the documents** and no other files. The root
leads to `start` in the tree, and other directories may be there. -/
structure Holds (tree : FileTree) (root : String) (start : List String)
    (docs : List (NormalPath × Bytes)) : Prop where
  follow : ∀ path, tree.follow [] (Text.pieces '/' (below root path)) =
    tree.follow start (Text.pieces '/' path)
  files : ∀ segments bytes, tree.file? (start ++ segments) = some bytes ↔
    ∃ p, (p, bytes) ∈ docs ∧ p.segments = segments
  directories : ∀ x ∈ docs, ∀ front rest, x.1.segments = front ++ rest → front ≠ [] →
    rest ≠ [] → start ++ front ∈ tree.directories

/-! ## Memory -/

/-- Where no key comes twice, looking up finds what is there. -/
theorem lookup_eq_some_iff_mem {κ β : Type} [BEq κ] [LawfulBEq κ] {entries : List (κ × β)}
    (h : (entries.map (·.1)).Nodup) {k : κ} {b : β} :
    entries.lookup k = some b ↔ (k, b) ∈ entries := by
  induction entries with
  | nil => simp
  | cons x rest ih =>
    obtain ⟨k', b'⟩ := x
    rw [List.map_cons, List.nodup_cons] at h
    rw [List.lookup_cons, List.mem_cons]
    by_cases hk : k = k'
    · subst hk
      have hnot : (k, b) ∉ rest := fun hmem => h.1 (List.mem_map.2 ⟨_, hmem, rfl⟩)
      simp [hnot, eq_comm]
    · have hother : (k == k') = false := beq_eq_false_iff_ne.2 hk
      simp [hother, ih h.2, hk]

theorem read_inMemory (h : Coexist root docs) :
    (inMemory docs).read path = .ok bytes ↔
      ∃ p, (p, bytes) ∈ docs ∧ p.text = Resources.relative path := by
  have hnodup : ((docs.map fun x => (x.1.text, x.2)).map (·.1)).Nodup := by
    have hmap : (docs.map fun x => (x.1.text, x.2)).map (·.1) =
        (docs.map (·.1)).map NormalPath.text := by
      rw [List.map_map, List.map_map]
      rfl
    rw [hmap]
    refine h.distinct.map_on fun p hp q hq => ?_
    obtain ⟨x, hx, rfl⟩ := List.mem_map.1 hp
    obtain ⟨y, hy, rfl⟩ := List.mem_map.1 hq
    exact text_injective (h.normal x hx) (h.normal y hy)
  have hlookup : (inMemory docs).read path = .ok bytes ↔
      (docs.map fun x => (x.1.text, x.2)).lookup (Resources.relative path) = some bytes := by
    rw [inMemory, read]
    cases (docs.map fun x => (x.1.text, x.2)).lookup (Resources.relative path) <;> simp
  rw [hlookup, lookup_eq_some_iff_mem hnodup, List.mem_map]
  constructor
  · rintro ⟨⟨p, b⟩, hmem, heq⟩
    obtain ⟨htext, rfl⟩ := Prod.mk.inj heq
    exact ⟨p, hmem, htext⟩
  · rintro ⟨p, hmem, htext⟩
    exact ⟨(p, bytes), hmem, by rw [htext]⟩

/-! ## Disk -/

/-- What is followed without going up ends at the file that its names
name. -/
theorem file?_of_follow_ok {t : FileTree} {here segments : List String}
    (hup : ".." ∉ segments) (h : t.follow here segments = .ok bytes) :
    t.file? (here ++ segments.filter fun s => s != "" && s != ".") = some bytes := by
  induction segments generalizing here with
  | nil => exact absurd h (by simp [FileTree.follow])
  | cons s rest ih =>
    rw [List.mem_cons, not_or] at hup
    rw [FileTree.follow] at h
    by_cases hstays : s = "" ∨ s = "."
    · rw [if_pos hstays] at h
      have hdrop : (s != "" && s != ".") = false := by
        rcases hstays with rfl | rfl <;> rfl
      rw [List.filter_cons, if_neg (by rw [hdrop]; exact Bool.false_ne_true)]
      exact ih hup.2 h
    · have hkeep : (s != "" && s != ".") = true := by
        rw [not_or] at hstays
        simp [hstays]
      rw [if_neg hstays, if_neg (Ne.symm hup.1)] at h
      rw [List.filter_cons, if_pos hkeep]
      split at h
      · exact absurd h (by simp)
      · simp only at h
        split at h
        · rename_i contents hfile
          split at h
          · rename_i hrest
            rw [hrest, List.filter_nil, hfile, ← Except.ok.inj h]
          · exact absurd h (by simp)
        · split at h
          · rw [List.append_cons]
            exact ih hup.2 h
          · exact absurd h (by simp)

/-- **What can be read below the directory is a document**, the one that the
names in the path name. -/
theorem exists_of_read (h : Holds tree root start docs)
    (hread : (directory tree root).read path = .ok bytes) :
    ∃ p, (p, bytes) ∈ docs ∧ p.segments = FileTree.segmentsOf (Resources.relative path) := by
  rw [read] at hread
  split at hread
  · exact absurd hread (by simp)
  · rename_i hup
    have hup' : ".." ∉ Text.pieces '/' (Resources.relative path) := by simpa using hup
    rw [FileTree.read] at hread
    split at hread
    · exact absurd hread (by simp)
    · split at hread
      · exact absurd hread (by simp)
      · rw [h.follow] at hread
        exact (h.files _ bytes).1 (file?_of_follow_ok hup' hread)

/-- The way down to a document is free. -/
theorem follow_of_mem (hcoexist : Coexist root docs) (h : Holds tree root start docs)
    (hmem : (p, bytes) ∈ docs) (front : List String) {rest : List String}
    (hsplit : p.segments = front ++ rest)
    (hne : rest ≠ []) : tree.follow (start ++ front) rest = .ok bytes := by
  induction rest generalizing front with
  | nil => exact absurd rfl hne
  | cons s rest ih =>
    have hs : s ∈ p.segments := by
      rw [hsplit]
      exact List.mem_append_right _ List.mem_cons_self
    obtain ⟨hempty, hhere, hup, -⟩ := hcoexist.normal _ hmem s hs
    have hsize := hcoexist.segments _ hmem s hs
    have hsplit' : p.segments = (front ++ [s]) ++ rest := by rw [hsplit, List.append_cons]
    rw [FileTree.follow, if_neg (by simp [hempty, hhere]), if_neg hup,
      if_neg (Nat.not_lt.2 hsize), List.append_assoc]
    by_cases hlast : rest = []
    · have hfile : tree.file? (start ++ (front ++ [s])) = some bytes :=
        (h.files _ bytes).2 ⟨p, hmem, by rw [hsplit', hlast, List.append_nil]⟩
      simp only [hfile, hlast, if_true]
    · -- no document stands on the way, so it goes on through the directory
      have hnone : tree.file? (start ++ (front ++ [s])) = none := by
        refine Option.eq_none_iff_forall_ne_some.2 fun b hb => hlast ?_
        obtain ⟨q, hq, hsegments⟩ := (h.files _ b).1 hb
        have heq : q = p := hcoexist.apart _ hq _ hmem ⟨rest, by rw [hsegments, hsplit']⟩
        rw [heq, hsplit'] at hsegments
        simpa using hsegments
      have hdirectory : start ++ (front ++ [s]) ∈ tree.directories :=
        h.directories _ hmem (front ++ [s]) rest hsplit' (by simp) hlast
      simp only [hnone, List.contains_iff_mem.2 hdirectory, if_true]
      exact ih (front ++ [s]) hsplit' hlast

/-- **Every document can be read by the text of its path.** -/
theorem read_of_mem (hcoexist : Coexist root docs) (h : Holds tree root start docs)
    (hmem : (p, bytes) ∈ docs) (htext : p.text = Resources.relative path) :
    (directory tree root).read path = .ok bytes := by
  have hnormal := hcoexist.normal _ hmem
  have hnamed := hcoexist.named _ hmem
  have hpieces := pieces_text hnormal hnamed
  obtain ⟨hnul, hlength⟩ := hcoexist.paths _ hmem
  have hnonempty : below root p.text ≠ "" := by
    intro hempty
    rw [below] at hempty
    split at hempty
    · exact text_ne_empty hnormal hnamed hempty
    · split at hempty <;> simp_all
  have hup : (Text.pieces '/' p.text).contains ".." = false := by
    rw [hpieces, ← Bool.not_eq_true, List.contains_iff_mem]
    exact fun hin => (hnormal _ hin).ne_up rfl
  rw [read, ← htext, if_neg (by rw [hup]; exact Bool.false_ne_true), FileTree.read,
    if_neg (by simp [hnul, Nat.not_lt.2 hlength]), if_neg (by simpa using hnonempty), h.follow,
    hpieces]
  have hdown := follow_of_mem hcoexist h hmem [] (List.nil_append _).symm hnamed
  rwa [List.append_nil] at hdown

/-! ## Memory and disk -/

/-- **Where memory and disk agree.** What can be read in memory can be read
below a directory that holds the same documents, and is the same; the other
way round, if each segment of the path names something. -/
theorem read_inMemory_iff (hcoexist : Coexist root docs) (h : Holds tree root start docs) :
    (inMemory docs).read path = .ok bytes ↔
      (directory tree root).read path = .ok bytes ∧ Direct path := by
  rw [read_inMemory hcoexist]
  constructor
  · rintro ⟨p, hmem, htext⟩
    refine ⟨read_of_mem hcoexist h hmem htext, fun s hs => ?_⟩
    rw [← htext, pieces_text (hcoexist.normal _ hmem) (hcoexist.named _ hmem)] at hs
    have hplain := hcoexist.normal _ hmem s hs
    exact ⟨hplain.ne_empty, hplain.ne_here⟩
  · rintro ⟨hread, hdirect⟩
    obtain ⟨p, hmem, hsegments⟩ := exists_of_read h hread
    have hall : FileTree.segmentsOf (Resources.relative path) =
        Text.pieces '/' (Resources.relative path) :=
      List.filter_eq_self.2 fun s hs => by simp [hdirect s hs]
    refine ⟨p, hmem, ?_⟩
    rw [NormalPath.text, hsegments, hall, Text.join_pieces rfl]

/-- **By normal path the two cannot be told apart.** -/
theorem read_text_inMemory_iff (hcoexist : Coexist root docs) (h : Holds tree root start docs)
    (hp : p.Normal) :
    (inMemory docs).read p.text = .ok bytes ↔ (directory tree root).read p.text = .ok bytes := by
  rw [read_inMemory_iff hcoexist h]
  refine and_iff_left_of_imp fun hread s hs => ?_
  obtain ⟨q, hq, hsegments⟩ := exists_of_read h hread
  rw [relative_text hp] at hs hsegments
  by_cases hne : p.segments = []
  · -- the empty path names no document
    have hnone : q.segments = [] := by
      rw [hsegments, NormalPath.text, hne]
      rfl
    exact absurd hnone (hcoexist.named _ hq)
  · rw [pieces_text hp hne] at hs
    exact ⟨(hp s hs).ne_empty, (hp s hs).ne_here⟩

/-! ## A directory that holds them -/

/-- The store with all documents written to it. -/
def written (r : Resources) (docs : List (NormalPath × Bytes)) : Resources :=
  docs.foldl (fun r x => r.write x.1.text x.2) r

/-- A file that was written is there, and the others are as they were. -/
theorem file?_write {t : FileTree} {name : String} {contents : Bytes} (segments : List String) :
    (t.write name contents).file? segments =
      if segments = FileTree.segmentsOf name then some contents else t.file? segments := by
  have hlookup : ∀ entries : List (List String × Bytes),
      (entries.filter (·.1 != FileTree.segmentsOf name)).lookup segments =
        if segments = FileTree.segmentsOf name then none else entries.lookup segments := by
    intro entries
    induction entries with
    | nil => simp
    | cons x rest ih =>
      obtain ⟨k, b⟩ := x
      by_cases hk : k = FileTree.segmentsOf name
      · rw [List.filter_cons, if_neg (by simp [hk]), ih]
        split
        · rfl
        · rename_i hne
          have hother : (segments == k) = false := beq_eq_false_iff_ne.2 (hk ▸ hne)
          rw [List.lookup_cons, hother]
      · rw [List.filter_cons, if_pos (by simp [hk]), List.lookup_cons, List.lookup_cons, ih]
        by_cases heq : segments = k
        · subst heq
          simp [hk]
        · have hother : (segments == k) = false := beq_eq_false_iff_ne.2 heq
          rw [hother]
  rw [FileTree.file?, FileTree.write]
  simp only [FileTree.addDirectories, FileTree.delete, List.lookup_append, hlookup]
  split
  · rename_i heq
    simp [heq]
  · rename_i hne
    have hother : (segments == FileTree.segmentsOf name) = false := beq_eq_false_iff_ne.2 hne
    simp [List.lookup_cons, hother, FileTree.file?]

/-- So are the directories it stands in, and those there were. -/
theorem mem_directories_write {t : FileTree} {name : String} {contents : Bytes}
    {segments : List String} (h : segments ∈ t.directories ∨
      segments ∈ FileTree.ancestors (FileTree.segmentsOf name)) :
    segments ∈ (t.write name contents).directories := by
  simp only [FileTree.write, FileTree.addDirectories, FileTree.delete, List.mem_append,
    List.mem_filter, Bool.not_eq_true', List.contains_eq_mem, decide_eq_false_iff_not]
  by_cases hold : segments ∈ t.directories
  · exact .inl hold
  · exact .inr ⟨h.resolve_left hold, hold⟩

theorem mem_ancestors {front rest : List String} (hfront : front ≠ []) (hrest : rest ≠ []) :
    front ∈ FileTree.ancestors (front ++ rest) := by
  have hpos := List.length_pos_iff.2 hfront
  have hpos' := List.length_pos_iff.2 hrest
  refine List.mem_map.2 ⟨front.length - 1, ?_, ?_⟩
  · rw [List.mem_range, List.length_append]
    omega
  · rw [Nat.sub_add_cancel hpos, List.take_left]

/-- A document is written where its segments say. -/
theorem segmentsOf_below (hnormal : p.Normal) (hnamed : p.segments ≠ []) :
    FileTree.segmentsOf (below "." (Resources.relative p.text)) = p.segments := by
  have hpieces : Text.pieces '/' (below "." p.text) = "." :: p.segments := by
    have hbelow : below "." p.text = "." ++ "/" ++ p.text := rfl
    rw [hbelow, Text.pieces_append rfl, pieces_text hnormal hnamed,
      Text.pieces_eq_singleton (by decide), List.singleton_append]
  rw [relative_text hnormal, FileTree.segmentsOf, hpieces, List.filter_cons,
    if_neg (by decide)]
  exact List.filter_eq_self.2 fun s hs => by
    simp [(hnormal s hs).ne_empty, (hnormal s hs).ne_here]

theorem written_directory (t : FileTree) :
    written (.directory t root) docs = .directory
      (docs.foldl (fun t x => t.write (below root (Resources.relative x.1.text)) x.2) t) root := by
  induction docs generalizing t with
  | nil => rfl
  | cons x rest ih => exact ih _

/-- What writing documents with different paths leaves: their files, and the
directories these stand in. -/
theorem files_written (hnormal : ∀ x ∈ docs, x.1.Normal)
    (hnamed : ∀ x ∈ docs, x.1.segments ≠ []) (hdistinct : (docs.map (·.1)).Nodup) :
    let t := docs.foldl (fun t x => t.write (below "." (Resources.relative x.1.text)) x.2)
      ({} : FileTree)
    (∀ segments bytes, t.file? segments = some bytes ↔
        ∃ p, (p, bytes) ∈ docs ∧ p.segments = segments) ∧
      ∀ x ∈ docs, ∀ front rest, x.1.segments = front ++ rest → front ≠ [] → rest ≠ [] →
        front ∈ t.directories := by
  -- on the documents from the last one, which is written over what the others left
  induction docs using List.reverseRecOn with
  | nil =>
    refine ⟨fun segments bytes => ?_, fun x hx => absurd hx List.not_mem_nil⟩
    simp [FileTree.file?]
  | append_singleton others x ih =>
    rw [List.map_append, List.map_singleton, List.nodup_append] at hdistinct
    obtain ⟨hothers, -, hnew⟩ := hdistinct
    obtain ⟨hfiles, hdirectories⟩ := ih (fun y hy => hnormal y (List.mem_append_left _ hy))
      (fun y hy => hnamed y (List.mem_append_left _ hy)) hothers
    have hx : x ∈ others ++ [x] := List.mem_append_right _ (List.mem_singleton_self x)
    have hsegments := segmentsOf_below (hnormal x hx) (hnamed x hx)
    have hinj : ∀ p : NormalPath, p.segments = x.1.segments → p = x.1 := by
      rintro ⟨segments⟩ rfl
      rfl
    simp only [List.foldl_append, List.foldl_cons, List.foldl_nil]
    refine ⟨fun segments bytes => ?_, fun y hy front rest hsplit hfront hrest => ?_⟩
    · rw [file?_write, hsegments]
      split
      · rename_i heq
        constructor
        · intro hb
          exact ⟨x.1, by rw [← Option.some.inj hb]; exact hx, heq.symm⟩
        · rintro ⟨p, hp, hpx⟩
          have hpx' := hinj p (hpx.trans heq)
          rcases List.mem_append.1 hp with hp | hp
          · exact absurd hpx' (hnew p (List.mem_map_of_mem hp) x.1 (List.mem_singleton_self _))
          · rw [← List.mem_singleton.1 hp]
      · rename_i hne
        rw [hfiles]
        refine exists_congr fun p => and_congr_left fun hp => ?_
        rw [List.mem_append, List.mem_singleton]
        refine (or_iff_left fun heq => hne ?_).symm
        rw [← hp, ← heq]
    · apply mem_directories_write
      rcases List.mem_append.1 hy with hy | hy
      · exact .inl (hdirectories y hy front rest hsplit hfront hrest)
      · rw [List.mem_singleton.1 hy] at hsplit
        rw [hsegments, hsplit]
        exact .inr (mem_ancestors hfront hrest)

/-- **The documents written below an empty directory are what it holds.** -/
theorem exists_holds_written (h : Coexist "." docs) :
    ∃ tree, written (.directory {} ".") docs = .directory tree "." ∧
      Holds tree "." [] docs := by
  obtain ⟨hfiles, hdirectories⟩ := files_written h.normal h.named h.distinct
  refine ⟨_, written_directory {}, fun path => ?_, hfiles, hdirectories⟩
  have hbelow : below "." path = "." ++ "/" ++ path := rfl
  rw [hbelow, Text.pieces_append rfl, Text.pieces_eq_singleton (by decide),
    List.singleton_append, FileTree.follow, if_pos (.inr rfl)]

end Resources

end AttributeCache
