import AttributeCache.Proofs.Text.Decimal
import AttributeCache.Proofs.Text.Pieces
import AttributeCache.Proofs.Text.Trim
import AttributeCache.Stamp
/-!
# Stamps and their texts

The text of a stamp is digits with one colon among them. So nothing is
trimmed off it, it is cut where it was put together, and both halves are
read as the numbers they were (`parse_text`).

More texts than these are stamps: blanks may stand around, zeros and a `+`
in front of either number, and the counter may be missing (`Writes`). A text
is cut at its first colon before it is known what stands there; since no
colon stands in a number, there is no other place to cut it at
(`read?_eq_some_iff`).
-/

namespace AttributeCache

namespace Stamp

variable {c : Char} {s : Stamp} {l : List Char} {m n : Nat}

theorem toList_text (s : Stamp) : s.text.toList =
    Nat.toDigits 10 s.wall.toNat ++ ':' :: Nat.toDigits 10 s.logical.toNat := by
  simp [text, Nat.toList_repr]

/-- There is nothing in the text but digits and a colon. -/
theorem mem_text (h : c ∈ s.text.toList) : c.isDigit = true ∨ c = ':' := by
  rw [toList_text, List.mem_append, List.mem_cons] at h
  rcases h with h | rfl | h
  · exact .inl (Text.isDigit_of_mem_toDigits h)
  · exact .inr rfl
  · exact .inl (Text.isDigit_of_mem_toDigits h)

theorem colon_not_mem_wall : ':' ∉ Nat.toDigits 10 s.wall.toNat := fun h =>
  absurd (Text.isDigit_of_mem_toDigits h) (by decide)

theorem read?_text (s : Stamp) : read? s.text.toList = some s := by
  rw [toList_text, read?, Text.cut_append colon_not_mem_wall]
  simp [Text.readUnsigned?_toDigits s.wall.toNat_lt_size,
    Text.readUnsigned?_toDigits s.logical.toNat_lt_size]

/-- **A stamp comes back from its text.** -/
theorem parse_text (s : Stamp) : parse s.text = .ok s := by
  have htrim : Text.trim s.text = s.text := by
    refine Text.trim_eq_self fun c hc => ?_
    rcases mem_text hc with h | rfl
    · exact Text.isBlank_of_isDigit h
    · rfl
  rw [parse, htrim, read?_text]

/-! ## Which texts are stamps -/

/-- What a text says of wall time and counter. -/
inductive Writes : List Char → Nat → Nat → Prop
  /-- A bare number has counter 0. -/
  | bare {l : List Char} {m : Nat} : Text.IsUnsigned l m → Writes l m 0
  | both {before after : List Char} {m n : Nat} : Text.IsUnsigned before m →
      Text.IsUnsigned after n → Writes (before ++ ':' :: after) m n

theorem colon_not_mem_of_isUnsigned (h : Text.IsUnsigned l n) : ':' ∉ l := fun hc => by
  rcases h.mem hc with hdigit | hsign
  · exact absurd hdigit (by decide)
  · exact absurd hsign (by decide)

theorem writes_iff_of_not_mem (h : ':' ∉ l) : Writes l m n ↔ Text.IsUnsigned l m ∧ n = 0 := by
  constructor
  · rintro (hm | ⟨-, -⟩)
    · exact ⟨hm, rfl⟩
    · exact absurd (List.mem_append_right _ List.mem_cons_self) h
  · rintro ⟨hm, rfl⟩
    exact .bare hm

theorem writes_append_iff {before after : List Char} (h : ':' ∉ before) :
    Writes (before ++ ':' :: after) m n ↔ Text.IsUnsigned before m ∧ Text.IsUnsigned after n := by
  constructor
  · intro hw
    generalize htext : before ++ ':' :: after = text at hw
    cases hw with
    | bare hm =>
      have hcolon : ':' ∈ text := htext ▸ List.mem_append_right _ List.mem_cons_self
      exact absurd hcolon (colon_not_mem_of_isUnsigned hm)
    | @both before' after' m n hm hn =>
      -- both texts are cut at the first colon there is
      have hcut : Text.cut ':' (before ++ ':' :: after) = some (before, after) :=
        Text.cut_append h
      rw [htext, Text.cut_append (colon_not_mem_of_isUnsigned hm)] at hcut
      cases hcut
      exact ⟨hm, hn⟩
  · rintro ⟨hm, hn⟩
    exact .both hm hn

/-- **A text is read as the numbers it writes**, where these are in range. -/
theorem read?_eq_some_iff : read? l = some s ↔ ∃ m n, Writes l m n ∧ m < UInt64.size ∧
    n < UInt32.size ∧ s = ⟨UInt64.ofNat m, UInt32.ofNat n⟩ := by
  rw [read?]
  rcases Text.cut_cases ':' l with ⟨hnone, hcolon⟩ | ⟨before, after, hcut, rfl, hcolon⟩
  · rw [hnone]
    simp only [writes_iff_of_not_mem hcolon, Option.bind_eq_bind, Option.bind_eq_some_iff,
      Text.readUnsigned?_eq_some_iff, Option.pure_def, Option.some.injEq]
    constructor
    · rintro ⟨m, ⟨hm, hlt⟩, rfl⟩
      exact ⟨m, 0, ⟨hm, rfl⟩, hlt, by decide, rfl⟩
    · rintro ⟨m, n, ⟨hm, rfl⟩, hlt, -, rfl⟩
      exact ⟨m, ⟨hm, hlt⟩, rfl⟩
  · rw [hcut]
    simp only [writes_append_iff hcolon, Option.bind_eq_bind, Option.bind_eq_some_iff,
      Text.readUnsigned?_eq_some_iff, Option.pure_def, Option.some.injEq]
    constructor
    · rintro ⟨m, ⟨hm, hltm⟩, n, ⟨hn, hltn⟩, rfl⟩
      exact ⟨m, n, ⟨hm, hn⟩, hltm, hltn, rfl⟩
    · rintro ⟨m, n, ⟨hm, hn⟩, hltm, hltn, rfl⟩
      exact ⟨m, ⟨hm, hltm⟩, n, ⟨hn, hltn⟩, rfl⟩

/-- **Which texts are stamps, and of what parts.** A text is one exactly if
without the blanks at its ends it writes numbers in range, and these are its
parts. Every other text is refused by what is left of it without these
blanks. And the text of a stamp, whatever its parts, is read as that
stamp. -/
theorem reads_exactly :
    (∀ x, Text.Trims x.toList (Text.trim x).toList) ∧
      (∀ x s, parse x = .ok s ↔ ∃ m n, Writes (Text.trim x).toList m n ∧ m < UInt64.size ∧
        n < UInt32.size ∧ s = ⟨UInt64.ofNat m, UInt32.ofNat n⟩) ∧
      (∀ x e, parse x = .error e ↔ e = ⟨Text.trim x⟩ ∧
        ¬ ∃ m n, Writes (Text.trim x).toList m n ∧ m < UInt64.size ∧ n < UInt32.size) ∧
      ∀ wall logical, parse (text ⟨wall, logical⟩) = .ok ⟨wall, logical⟩ := by
  have hread : ∀ x, (∃ s, read? (Text.trim x).toList = some s) ↔
      ∃ m n, Writes (Text.trim x).toList m n ∧ m < UInt64.size ∧ n < UInt32.size := by
    intro x
    constructor
    · rintro ⟨s, hs⟩
      obtain ⟨m, n, hwrites, hm, hn, -⟩ := read?_eq_some_iff.1 hs
      exact ⟨m, n, hwrites, hm, hn⟩
    · rintro ⟨m, n, hwrites, hm, hn⟩
      exact ⟨_, read?_eq_some_iff.2 ⟨m, n, hwrites, hm, hn, rfl⟩⟩
  refine ⟨fun x => ?_, fun x s => ?_, fun x e => ?_, fun wall logical => parse_text _⟩
  · rw [Text.toList_trim]
    exact Text.trims_trimBoth _
  · rw [← read?_eq_some_iff, parse]
    cases read? (Text.trim x).toList with
    | none => simp
    | some s' => simp
  · rw [← hread, parse]
    cases hs : read? (Text.trim x).toList with
    | none => simp [eq_comm]
    | some s' => simp

/-- A `+` and zeros are as good in front of the counter as of the wall time.
A blank is not taken out of the middle, and 2 to the 64th is out of range. -/
example : parse "\u2003+007:+03\n" = .ok ⟨7, 3⟩ ∧ parse "1 :2 " = .error ⟨"1 :2"⟩ ∧
    parse "18446744073709551616" = .error ⟨"18446744073709551616"⟩ := by
  decide +kernel

end Stamp

end AttributeCache
