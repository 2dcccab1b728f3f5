/-!
# Folds that may fail

A step that may fail takes elements into a state. Where what holds of a
state and of all that was taken in settles both questions about a step,
whether it fails and what it gives, it settles them about a fold of such
steps.
-/

namespace AttributeCache

namespace Folding

variable {α β ε σ : Type} {f : σ → α → Except ε σ} {out : α → List β}
variable {Holds : List β → σ → Prop} {taken : List β} {s s' : σ}

theorem bind_eq_ok_iff {e : Except ε α} {next : α → Except ε β} {b : β} :
    e >>= next = .ok b ↔ ∃ a, e = .ok a ∧ next a = .ok b := by
  cases e with
  | error e =>
    constructor
    · exact fun h => nomatch h
    · rintro ⟨a, h, -⟩
      exact nomatch h
  | ok a =>
    constructor
    · exact fun h => ⟨a, rfl, h⟩
    · rintro ⟨_, h, hnext⟩
      rwa [← Except.ok.inj h] at hnext

/-- **A fold fails at the first step that does**, behind steps that succeed. -/
theorem foldlM_eq_error_iff {xs : List α} {e : ε} :
    xs.foldlM f s = .error e ↔ ∃ before x after s', xs = before ++ x :: after ∧
      before.foldlM f s = .ok s' ∧ f s' x = .error e := by
  induction xs generalizing s with
  | nil =>
    refine iff_of_false (fun h => nomatch h) ?_
    rintro ⟨before, x, after, s', hnil, -⟩
    exact absurd hnil.symm (by simp)
  | cons y rest ih =>
    rw [List.foldlM_cons]
    cases hy : f s y with
    | error e' =>
      constructor
      · intro h
        exact ⟨[], y, rest, s, rfl, rfl, hy.trans h⟩
      · rintro ⟨_ | ⟨z, before⟩, x, after, s', hxs, hbefore, hx⟩
        · obtain ⟨rfl, -⟩ := List.cons.inj hxs
          rw [← Except.ok.inj hbefore, hy] at hx
          exact hx
        · obtain ⟨rfl, -⟩ := List.cons.inj hxs
          rw [List.foldlM_cons, hy] at hbefore
          exact nomatch hbefore
    | ok between =>
      change rest.foldlM f between = .error e ↔ _
      rw [ih]
      constructor
      · rintro ⟨before, x, after, s', rfl, hbefore, hx⟩
        refine ⟨y :: before, x, after, s', rfl, ?_, hx⟩
        rw [List.foldlM_cons, hy]
        exact hbefore
      · rintro ⟨_ | ⟨z, before⟩, x, after, s', hxs, hbefore, hx⟩
        · obtain ⟨rfl, -⟩ := List.cons.inj hxs
          rw [← Except.ok.inj hbefore, hy] at hx
          exact nomatch hx
        · obtain ⟨rfl, rfl⟩ := List.cons.inj hxs
          rw [List.foldlM_cons, hy] at hbefore
          exact ⟨before, x, after, s', rfl, hbefore, hx⟩

/-- So it fails with what one of the steps may fail with. -/
theorem error_of_foldlM {P : ε → Prop} (hf : ∀ s x e, f s x = .error e → P e) {xs : List α}
    {e : ε} (h : xs.foldlM f s = .error e) : P e := by
  obtain ⟨-, x, -, s', -, -, hx⟩ := foldlM_eq_error_iff.1 h
  exact hf s' x e hx

/-- A step gives just the state that holds what was taken in and what the
element adds to it. -/
structure Settles (f : σ → α → Except ε σ) (out : α → List β)
    (Holds : List β → σ → Prop) : Prop where
  step : ∀ {taken s x s'}, Holds taken s → (f s x = .ok s' ↔ Holds (taken ++ out x) s')
  /-- What can be taken in with more behind it can be taken in. -/
  of_append : ∀ {taken more s}, Holds (taken ++ more) s → ∃ s, Holds taken s
  unique : ∀ {taken s s'}, Holds taken s → Holds taken s' → s = s'

/-- **So does a fold of such steps.** -/
theorem Settles.foldlM_eq_ok_iff (hf : Settles f out Holds) {xs : List α} (h : Holds taken s) :
    xs.foldlM f s = .ok s' ↔ Holds (taken ++ xs.flatMap out) s' := by
  induction xs generalizing taken s with
  | nil =>
    rw [List.foldlM_nil, List.flatMap_nil, List.append_nil]
    constructor
    · intro he
      rwa [← Except.ok.inj he]
    · exact fun h' => congrArg Except.ok (hf.unique h h')
  | cons x rest ih =>
    rw [List.foldlM_cons, bind_eq_ok_iff, List.flatMap_cons, ← List.append_assoc]
    constructor
    · rintro ⟨between, hx, hrest⟩
      exact (ih ((hf.step h).1 hx)).1 hrest
    · intro hall
      obtain ⟨between, hbetween⟩ := hf.of_append hall
      exact ⟨between, (hf.step h).2 hbetween, (ih hbetween).2 hall⟩

end Folding

end AttributeCache
