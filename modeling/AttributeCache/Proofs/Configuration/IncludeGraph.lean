import AttributeCache.Configuration.IncludeWalk
import AttributeCache.Proofs.Resources.NormalForm
import AttributeCache.Proofs.Text.Trim
import Mathlib.Data.List.Forall2
import Mathlib.Logic.Relation
/-!
# The graph of includes

The nodes are normal paths, and a document has an edge to whatever one of
the names it includes leads to; blanks around a name are no part of it, and
a blank include names nothing. `Loadable` says of configured files that
everything they reach is in order. `PostOrder` writes the documents below
some paths out in full, each behind what it includes and as often as it is
included; the first occurrences in it are what a walk ought to visit.
-/

namespace AttributeCache

/-- One of the includes of a document names a target. -/
def MetadataDocument.Names (d : MetadataDocument) (target : String) : Prop :=
  target ≠ "" ∧ ∃ written ∈ d.includes, Text.trim written = target

/-- **The targets are what the includes name**, in their order. -/
theorem MetadataDocument.targets_eq (d : MetadataDocument) :
    d.targets = Text.namesIn d.includes :=
  Text.filter_map_trim

theorem MetadataDocument.mem_targets {d : MetadataDocument} {target : String} :
    target ∈ d.targets ↔ d.Names target := by
  rw [targets_eq, Text.mem_namesIn, Names]

namespace IncludeGraph

variable {r : Resources} {files : List String} {p q : NormalPath} {d e : MetadataDocument}

/-! ## Nodes and edges -/

/-- A path has a document that can be had and is well formed. -/
def Reads (r : Resources) (p : NormalPath) (d : MetadataDocument) : Prop :=
  r.document MetadataDocument.ofTree p.text = .ok d

/-- The document of a path includes another path. -/
def Includes (r : Resources) (p q : NormalPath) : Prop :=
  ∃ d, Reads r p d ∧ ∃ target, d.Names target ∧ p.resolve? target = some q

/-- A configured file leads to a path. -/
def Configured (files : List String) (p : NormalPath) : Prop :=
  ∃ file ∈ files, NormalPath.ofText? file = some p

/-- A configured file leads to a path over any number of includes. -/
def Reachable (r : Resources) (files : List String) (p : NormalPath) : Prop :=
  ∃ q, Configured files q ∧ Relation.ReflTransGen (Includes r) q p

theorem Reads.unique (hd : Reads r p d) (he : Reads r p e) : d = e :=
  Except.ok.inj (hd.symm.trans he)

theorem Reachable.includes (hp : Reachable r files p) (h : Includes r p q) :
    Reachable r files q := by
  obtain ⟨s, hs, hsp⟩ := hp
  exact ⟨s, hs, hsp.tail h⟩

theorem Includes.normal (hp : p.Normal) (h : Includes r p q) : q.Normal := by
  obtain ⟨d, -, target, -, htarget⟩ := h
  exact NormalPath.normal_of_resolve? hp htarget

/-- What configured files reach is normal. -/
theorem Reachable.normal (h : Reachable r files p) : p.Normal := by
  obtain ⟨q, ⟨file, -, hfile⟩, hpath⟩ := h
  induction hpath with
  | refl => exact NormalPath.normal_of_ofText? hfile
  | tail _ hlast ih => exact hlast.normal ih

/-- Everything the configured files reach is in order. -/
structure Loadable (r : Resources) (files : List String) : Prop where
  /-- Every configured file has a normal form. -/
  configured : ∀ file ∈ files, ∃ p, NormalPath.ofText? file = some p
  /-- Every document is there and well formed. -/
  reads : ∀ p, Reachable r files p → ∃ d, Reads r p d
  /-- No include climbs above the root. -/
  resolves : ∀ p d, Reachable r files p → Reads r p d →
    ∀ target, d.Names target → ∃ q, p.resolve? target = some q
  /-- No document includes itself, however indirectly. -/
  acyclic : ∀ p, Reachable r files p → ¬ Relation.TransGen (Includes r) p p

/-! ## Targets in their order -/

/-- What each of some names leads to, in the order of the names. -/
def LeadTo (target? : String → Option NormalPath) (names : List String)
    (targets : List NormalPath) : Prop :=
  List.Forall₂ (fun name q => target? name = some q) names targets

namespace LeadTo

variable {target? : String → Option NormalPath} {names : List String}
variable {targets targets' : List NormalPath}

theorem unique (h : LeadTo target? names targets) (h' : LeadTo target? names targets') :
    targets = targets' :=
  List.right_unique_forall₂' (fun _ _ _ hq hq' => Option.some.inj (hq.symm.trans hq')) h h'

/-- Every name leads somewhere. -/
theorem exists_target (h : LeadTo target? names targets) :
    ∀ name ∈ names, ∃ q, target? name = some q := by
  induction h with
  | nil => exact fun name hname => absurd hname List.not_mem_nil
  | cons hq _ ih =>
    intro name hname
    rcases List.mem_cons.1 hname with rfl | hname
    · exact ⟨_, hq⟩
    · exact ih name hname

theorem mem_iff (h : LeadTo target? names targets) :
    q ∈ targets ↔ ∃ name ∈ names, target? name = some q := by
  induction h with
  | nil => simp
  | cons hq _ ih =>
    rw [List.mem_cons, ih, eq_comm]
    simp only [List.mem_cons, exists_eq_or_imp, hq, Option.some.injEq]

end LeadTo

/-- The edges of a node are what its document's includes lead to. -/
theorem includes_iff {children : List NormalPath} (hd : Reads r p d)
    (hc : LeadTo p.resolve? (Text.namesIn d.includes) children) :
    Includes r p q ↔ q ∈ children := by
  rw [hc.mem_iff]
  simp only [Text.mem_namesIn]
  constructor
  · rintro ⟨e, he, htarget⟩
    rwa [hd.unique he]
  · exact fun htarget => ⟨d, hd, htarget⟩

/-! ## Writing the documents out -/

/-- **Depth first, includes first**: the documents below some paths, each
behind what it includes, with every repetition. -/
inductive PostOrder (r : Resources) : List NormalPath → List NormalPath → Prop
  | nil : PostOrder r [] []
  | cons {p : NormalPath} {d : MetadataDocument} {children below rest after : List NormalPath} :
      Reads r p d → LeadTo p.resolve? (Text.namesIn d.includes) children →
      PostOrder r children below → PostOrder r rest after →
      PostOrder r (p :: rest) (below ++ p :: after)

variable {paths order order' : List NormalPath}

/-- There is one such order at most. -/
theorem PostOrder.unique (h : PostOrder r paths order) (h' : PostOrder r paths order') :
    order = order' := by
  induction h generalizing order' with
  | nil =>
    cases h'
    rfl
  | cons hd hc _ _ ihbelow ihafter =>
    cases h' with
    | cons hd' hc' hbelow hafter =>
      cases hd.unique hd'
      cases hc.unique hc'
      rw [ihbelow hbelow, ihafter hafter]

/-- One path after the other. -/
theorem PostOrder.append {paths' : List NormalPath} (h : PostOrder r paths order)
    (h' : PostOrder r paths' order') : PostOrder r (paths ++ paths') (order ++ order') := by
  induction h with
  | nil => exact h'
  | cons hd hc hbelow _ _ ihafter =>
    rw [List.cons_append, List.append_assoc, List.cons_append]
    exact .cons hd hc hbelow ihafter

/-- Paths that have an order within some set one by one have one together. -/
theorem PostOrder.exists_of_forall {s : NormalPath → Prop}
    (h : ∀ p ∈ paths, ∃ order, PostOrder r [p] order ∧ ∀ q ∈ order, s q) :
    ∃ order, PostOrder r paths order ∧ ∀ q ∈ order, s q := by
  induction paths with
  | nil => exact ⟨[], .nil, fun q hq => absurd hq List.not_mem_nil⟩
  | cons p rest ih =>
    obtain ⟨first, hfirst, hs⟩ := h p List.mem_cons_self
    obtain ⟨after, hafter, hs'⟩ := ih fun q hq => h q (List.mem_cons_of_mem _ hq)
    refine ⟨first ++ after, hfirst.append hafter, fun q hq => ?_⟩
    rcases List.mem_append.1 hq with hq | hq
    · exact hs q hq
    · exact hs' q hq

/-- Every path has its place behind what stands below it. -/
theorem PostOrder.subset (h : PostOrder r paths order) : ∀ p ∈ paths, p ∈ order := by
  induction h with
  | nil => exact fun p hp => absurd hp List.not_mem_nil
  | cons _ _ _ _ _ ihafter =>
    intro q hq
    rw [List.mem_append, List.mem_cons]
    rcases List.mem_cons.1 hq with rfl | hq
    · exact .inr (.inl rfl)
    · exact .inr (.inr (ihafter q hq))

/-- And nothing else is there than what the paths lead to. -/
theorem PostOrder.exists_reflTransGen (h : PostOrder r paths order) :
    ∀ q ∈ order, ∃ p ∈ paths, Relation.ReflTransGen (Includes r) p q := by
  induction h with
  | nil => exact fun q hq => absurd hq List.not_mem_nil
  | cons hd hc _ _ ihbelow ihafter =>
    intro q hq
    rcases List.mem_append.1 hq with hq | hq
    · obtain ⟨child, hchild, hpath⟩ := ihbelow q hq
      exact ⟨_, List.mem_cons_self, .head ((includes_iff hd hc).2 hchild) hpath⟩
    · rcases List.mem_cons.1 hq with rfl | hq
      · exact ⟨_, List.mem_cons_self, .refl⟩
      · obtain ⟨p, hp, hpath⟩ := ihafter q hq
        exact ⟨p, List.mem_cons_of_mem _ hp, hpath⟩

end IncludeGraph

end AttributeCache
