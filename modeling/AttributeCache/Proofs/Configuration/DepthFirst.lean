import AttributeCache.Proofs.Configuration.IncludeGraph
import AttributeCache.Proofs.FirstOccurrences
import AttributeCache.Proofs.Resources.Count
/-!
# The include walk visits what it ought to

The walk succeeds exactly where everything the configured files reach is in
order, and then it visits the first occurrences of the post-order. Both
directions run along the recursion. That a walk which ends without failure
went right is an invariant of what has been visited (`Settled`), and of what
one call adds to it (`Advance`). That it cannot fail where all is in order
needs no invariant of the visited documents at all: the documents being
expanded include the one at hand, so meeting one of them again is a cycle
of the graph.

The bound on the depth is never reached: the documents being expanded are
different paths that were read, and there are no more of those than there
are documents (`Room`).
-/

namespace AttributeCache

namespace IncludeWalk

open IncludeGraph FirstOccurrences

variable {r : Resources} {files : List String} {p q path : NormalPath} {d : MetadataDocument}
variable {progress progress' : Progress} {active children targets : List NormalPath}
variable {done : List (NormalPath × MetadataDocument)} {depth : Nat}

theorem isDone_iff : progress.isDone p = true ↔ p ∈ progress.visited.map (·.1) := by
  rw [Progress.isDone, List.any_eq_true, List.mem_map]
  simp only [beq_iff_eq]

/-! ## What has been visited -/

/-- Documents one after the other, each of them new and well formed, and
behind everything it includes. -/
inductive Settled (r : Resources) : List (NormalPath × MetadataDocument) → Prop
  | nil : Settled r []
  | snoc {done : List (NormalPath × MetadataDocument)} {p : NormalPath} {d : MetadataDocument}
      {children : List NormalPath} :
      Settled r done → Reads r p d → LeadTo p.resolve? (Text.namesIn d.includes) children →
      (∀ q ∈ children, q ∈ done.map (·.1)) → p ∉ done.map (·.1) → Settled r (done ++ [(p, d)])

namespace Settled

theorem nodup (h : Settled r done) : (done.map (·.1)).Nodup := by
  induction h with
  | nil => exact List.nodup_nil
  | snoc _ _ _ _ hnew ih =>
    rw [List.map_append, List.map_singleton, ← List.concat_eq_append]
    exact ih.concat hnew

theorem reads (h : Settled r done) : ∀ x ∈ done, Reads r x.1 x.2 := by
  induction h with
  | nil => exact fun x hx => absurd hx List.not_mem_nil
  | snoc _ hd _ _ _ ih =>
    intro x hx
    rcases List.mem_append.1 hx with hx | hx
    · exact ih x hx
    · rw [List.mem_singleton.1 hx]
      exact hd

theorem resolves (h : Settled r done) :
    ∀ x ∈ done, ∀ target, x.2.Names target → ∃ q, x.1.resolve? target = some q := by
  induction h with
  | nil => exact fun x hx => absurd hx List.not_mem_nil
  | snoc _ _ hc _ _ ih =>
    intro x hx
    rcases List.mem_append.1 hx with hx | hx
    · exact ih x hx
    · rw [List.mem_singleton.1 hx]
      exact fun target htarget => hc.exists_target target (Text.mem_namesIn.2 htarget)

/-- What a document includes stands in front of it. -/
theorem includes_before (h : Settled r done) {before after : List (NormalPath × MetadataDocument)}
    {x : NormalPath × MetadataDocument} (hx : done = before ++ x :: after)
    (hq : Includes r x.1 q) : q ∈ before.map (·.1) := by
  induction h generalizing after with
  | nil => exact absurd hx (by simp)
  -- it is the last one, or stands among those before that
  | snoc _ hd hc hbefore _ ih =>
    rcases List.eq_nil_or_concat after with rfl | ⟨after, y, rfl⟩
    · obtain ⟨hdone, hlast⟩ := List.append_inj' hx rfl
      rw [← List.singleton_inj.1 hlast] at hq
      rw [← hdone]
      exact hbefore q ((includes_iff hd hc).1 hq)
    · rw [List.concat_eq_append, ← List.cons_append, ← List.append_assoc] at hx
      exact ih (List.append_inj' hx rfl).1

/-- So nothing leads out of what has been visited. -/
theorem closed (h : Settled r done) (hp : p ∈ done.map (·.1)) (hq : Includes r p q) :
    q ∈ done.map (·.1) := by
  obtain ⟨x, hx, rfl⟩ := List.mem_map.1 hp
  obtain ⟨before, after, rfl⟩ := List.append_of_mem hx
  rw [List.map_append]
  exact List.mem_append_left _ (h.includes_before rfl hq)

/-- Over any number of includes. -/
theorem closed_of_reflTransGen (h : Settled r done) (hp : p ∈ done.map (·.1))
    (hq : Relation.ReflTransGen (Includes r) p q) : q ∈ done.map (·.1) := by
  induction hq with
  | refl => exact hp
  | tail _ hlast ih => exact h.closed ih hlast

/-- And nothing in it leads back to itself: the first step leads to what
was visited before, and from there nothing leads out. -/
theorem acyclic (h : Settled r done) (hp : p ∈ done.map (·.1)) :
    ¬ Relation.TransGen (Includes r) p p := by
  induction h with
  | nil => exact absurd hp List.not_mem_nil
  | snoc hdone hd hc hbefore hnew ih =>
    rw [List.map_append, List.map_singleton, List.mem_append, List.mem_singleton] at hp
    rcases hp with hp | rfl
    · exact ih hp
    · intro hcycle
      obtain ⟨q, hq, hback⟩ := Relation.TransGen.head'_iff.1 hcycle
      have hq' := hbefore q ((includes_iff hd hc).1 hq)
      exact hnew (hdone.closed_of_reflTransGen hq' hback)

/-- What stands below a visited document has been visited. -/
theorem exists_postOrder (h : Settled r done) (hp : p ∈ done.map (·.1)) :
    ∃ order, PostOrder r [p] order ∧ ∀ q ∈ order, q ∈ done.map (·.1) := by
  induction h generalizing p with
  | nil => exact absurd hp List.not_mem_nil
  | snoc _ hd hc hbefore _ ih =>
    rw [List.map_append, List.map_singleton] at hp ⊢
    rcases List.mem_append.1 hp with hp | hp
    · obtain ⟨order, horder, hin⟩ := ih hp
      exact ⟨order, horder, fun q hq => List.mem_append_left _ (hin q hq)⟩
    · rw [List.mem_singleton.1 hp]
      obtain ⟨below, hbelow, hin⟩ := PostOrder.exists_of_forall fun q hq => ih (hbefore q hq)
      refine ⟨below ++ [_], .cons hd hc hbelow .nil, fun q hq => ?_⟩
      rcases List.mem_append.1 hq with hq | hq
      · exact List.mem_append_left _ (hin q hq)
      · exact List.mem_append_right _ hq

end Settled

/-! ## What one call adds -/

/-- **What a call that succeeds has done**: the targets are visited in
post-order as far as they were not visited before, and none of the
documents being expanded is among what is new. -/
structure Advance (r : Resources) (active targets : List NormalPath)
    (done done' : List (NormalPath × MetadataDocument)) : Prop where
  settled : Settled r done'
  fresh : ∃ new, done' = done ++ new ∧ ∀ x ∈ new, x.1 ∉ active
  postOrder : ∃ order, PostOrder r targets order ∧
    done'.map (·.1) = (done.map (·.1) ++ order).eraseDups

namespace Advance

variable {between done' : List (NormalPath × MetadataDocument)} {rest : List NormalPath}

theorem nil (h : Settled r done) : Advance r active [] done done where
  settled := h
  fresh := ⟨[], (List.append_nil _).symm, fun x hx => absurd hx List.not_mem_nil⟩
  postOrder := ⟨[], .nil, by rw [List.append_nil]; exact (eraseDups_of_nodup h.nodup).symm⟩

/-- One target after the other. -/
theorem cons (h : Advance r active [q] done between) (h' : Advance r active rest between done') :
    Advance r active (q :: rest) done done' where
  settled := h'.settled
  fresh := by
    obtain ⟨new, hnew, hout⟩ := h.fresh
    obtain ⟨new', hnew', hout'⟩ := h'.fresh
    refine ⟨new ++ new', by rw [hnew', hnew, List.append_assoc], fun x hx => ?_⟩
    rcases List.mem_append.1 hx with hx | hx
    · exact hout x hx
    · exact hout' x hx
  postOrder := by
    obtain ⟨first, hfirst, hpaths⟩ := h.postOrder
    obtain ⟨after, hafter, hpaths'⟩ := h'.postOrder
    refine ⟨first ++ after, hfirst.append hafter, ?_⟩
    rw [hpaths', hpaths, eraseDups_eraseDups_append, List.append_assoc]

/-- A document visited before is passed over. -/
theorem of_done (h : Settled r done) (hp : p ∈ done.map (·.1)) :
    Advance r active [p] done done where
  settled := h
  fresh := ⟨[], (List.append_nil _).symm, fun x hx => absurd hx List.not_mem_nil⟩
  postOrder := by
    obtain ⟨order, horder, hin⟩ := h.exists_postOrder hp
    refine ⟨order, horder, ?_⟩
    rw [eraseDups_append_of_subset hin]
    exact (eraseDups_of_nodup h.nodup).symm

/-- The targets are visited in the end. -/
theorem mem_paths (h : Advance r active targets done done') :
    ∀ q ∈ targets, q ∈ done'.map (·.1) := by
  obtain ⟨order, horder, hpaths⟩ := h.postOrder
  intro q hq
  rw [hpaths, List.mem_eraseDups]
  exact List.mem_append_right _ (horder.subset q hq)

/-- A document is visited when what it includes has been. It is not among
that itself, being one of those expanded. -/
theorem visit (h : Advance r (active ++ [p]) children done between) (hp : p ∉ active)
    (hnew : p ∉ done.map (·.1)) (hd : Reads r p d)
    (hc : LeadTo p.resolve? (Text.namesIn d.includes) children) :
    Advance r active [p] done (between ++ [(p, d)]) := by
  obtain ⟨new, hvisited, hout⟩ := h.fresh
  obtain ⟨order, horder, hpaths⟩ := h.postOrder
  -- whatever came in below it is not being expanded, and it is
  have hbetween : p ∉ between.map (·.1) := by
    rw [hvisited, List.map_append, List.mem_append]
    rintro (hold | hadded)
    · exact hnew hold
    · obtain ⟨x, hx, hxp⟩ := List.mem_map.1 hadded
      exact hout x hx (List.mem_append_right _ (List.mem_singleton.2 hxp))
  refine ⟨.snoc h.settled hd hc h.mem_paths hbetween, ?_, ?_⟩
  · refine ⟨new ++ [(p, d)], by rw [hvisited, List.append_assoc], fun x hx => ?_⟩
    rcases List.mem_append.1 hx with hx | hx
    · exact fun ha => hout x hx (List.mem_append_left _ ha)
    · rwa [List.mem_singleton.1 hx]
  · refine ⟨order ++ [p], .cons hd hc horder .nil, ?_⟩
    rw [hpaths, List.mem_eraseDups] at hbetween
    rw [← List.append_assoc, eraseDups_append_singleton hbetween, ← hpaths, List.map_append,
      List.map_singleton]

end Advance

/-! ## A walk that succeeds went right -/

/-- The depth left is enough: the documents being expanded are different
ones that were read, and with what is left there is room for more than
there are. -/
structure Room (r : Resources) (depth : Nat) (active : List NormalPath) : Prop where
  nodup : active.Nodup
  reads : ∀ p ∈ active, p.Normal ∧ ∃ bytes, r.read p.text = .ok bytes
  enough : r.count < active.length + depth

/-- The depth never runs out. -/
theorem Room.depth_pos (h : Room r depth active) : 0 < depth := by
  have hcount := r.length_le_count h.nodup h.reads
  have henough := h.enough
  omega

/-- One more document being expanded takes one step of the depth. -/
theorem Room.push (h : Room r (depth + 1) active) (hp : p.Normal) (hnew : p ∉ active)
    (hd : Reads r p d) : Room r depth (active ++ [p]) where
  nodup := by
    rw [← List.concat_eq_append]
    exact h.nodup.concat hnew
  reads q hq := by
    rcases List.mem_append.1 hq with hq | hq
    · exact h.reads q hq
    · rw [List.mem_singleton.1 hq]
      obtain ⟨bytes, hbytes, -⟩ := Resources.document_eq_ok_iff.1 hd
      exact ⟨hp, bytes, hbytes⟩
  enough := by
    have henough := h.enough
    rw [List.length_append, List.length_singleton]
    omega

/-- Targets one after the other, by what is known of each. -/
theorem forEach_advance {target? : String → Except MetadataError NormalPath}
    {go : NormalPath → Progress → Outcome} {names : List String}
    (h : forEach target? go names progress = (progress', none))
    (hnormal : ∀ name q, target? name = .ok q → q.Normal)
    (hgo : ∀ q before after, q.Normal → Settled r before.visited →
      go q before = (after, none) → Advance r active [q] before.visited after.visited)
    (hsettled : Settled r progress.visited) :
    ∃ children, List.Forall₂ (fun name q => target? name = .ok q) names children ∧
      Advance r active children progress.visited progress'.visited := by
  induction names generalizing progress with
  | nil =>
    rw [forEach, Prod.mk.injEq] at h
    exact ⟨[], .nil, h.1 ▸ .nil hsettled⟩
  | cons name rest ih =>
    rw [forEach] at h
    split at h
    · exact absurd h (by simp)
    · rename_i q hq
      split at h
      · exact absurd h (by simp)
      · rename_i between hbetween
        have hfirst := hgo q progress between (hnormal name q hq) hsettled hbetween
        obtain ⟨children, hchildren, hrest⟩ := ih h hfirst.settled
        exact ⟨q :: children, .cons hq hchildren, hfirst.cons hrest⟩

theorem includeTarget_eq_ok {target : String} :
    includeTarget p target = .ok q ↔ p.resolve? target = some q := by
  rw [includeTarget]
  cases p.resolve? target with
  | none => simp
  | some q' => simp

theorem configuredTarget_eq_ok {file : String} :
    configuredTarget file = .ok q ↔ NormalPath.ofText? file = some q := by
  rw [configuredTarget]
  cases NormalPath.ofText? file with
  | none => simp
  | some q' => simp

/-- **The invariant of the recursion.** -/
theorem expand_advance (hroom : Room r depth active) (hp : p.Normal)
    (hsettled : Settled r progress.visited)
    (h : expand r depth active p progress = (progress', none)) :
    Advance r active [p] progress.visited progress'.visited := by
  -- on the depth, which `Room` keeps above zero
  induction depth generalizing active p progress progress' with
  | zero => exact absurd hroom.depth_pos (Nat.lt_irrefl 0)
  | succ depth ih =>
    rw [expand] at h
    split at h
    · exact absurd h (by simp)
    · rename_i hactive
      have hp' : p ∉ active := fun hin => hactive (List.contains_iff_mem.2 hin)
      split at h
      · rename_i hdone
        rw [Prod.mk.injEq] at h
        exact h.1 ▸ .of_done hsettled (isDone_iff.1 hdone)
      · rename_i hnew
        simp only at h
        split at h
        · exact absurd h (by simp)
        · rename_i d hd
          split at h
          · exact absurd h (by simp)
          · rename_i between hbetween
            rw [Prod.mk.injEq] at h
            -- what it includes goes first, and it is visited behind that
            obtain ⟨children, hchildren, hbelow⟩ :=
              forEach_advance hbetween
                (fun name q hq => NormalPath.normal_of_resolve? hp (includeTarget_eq_ok.1 hq))
                (fun q before after hq hbefore => ih (hroom.push hp hp' hd) hq hbefore) hsettled
            have hc : LeadTo p.resolve? (Text.namesIn d.includes) children :=
              d.targets_eq ▸ hchildren.imp fun _ _ hq => includeTarget_eq_ok.1 hq
            rw [← h.1]
            exact hbelow.visit hp' (fun hin => hnew (isDone_iff.2 hin)) hd hc

/-- The whole walk, from the configured files. -/
theorem run_advance (h : run r files = (progress, none)) :
    ∃ roots, LeadTo NormalPath.ofText? files roots ∧ Advance r [] roots [] progress.visited := by
  have hroom : Room r (r.count + 1) [] :=
    ⟨List.nodup_nil, fun p hp => absurd hp List.not_mem_nil, by simp⟩
  obtain ⟨roots, hroots, hadvance⟩ :=
    forEach_advance h
      (fun file q hq => NormalPath.normal_of_ofText? (configuredTarget_eq_ok.1 hq))
      (fun q before after hq hbefore => expand_advance hroom hq hbefore) .nil
  exact ⟨roots, hroots.imp fun _ _ hq => configuredTarget_eq_ok.1 hq, hadvance⟩

/-! ## Where all is in order the walk succeeds -/

/-- Targets one after the other, none of which fails. -/
theorem forEach_succeeds {target? : String → Except MetadataError NormalPath}
    {go : NormalPath → Progress → Outcome} {names : List String}
    (h : ∀ name ∈ names, ∃ q, target? name = .ok q ∧ ∀ before, (go q before).2 = none) :
    (forEach target? go names progress).2 = none := by
  induction names generalizing progress with
  | nil => rfl
  | cons name rest ih =>
    obtain ⟨q, hq, hgo⟩ := h name List.mem_cons_self
    rw [forEach, hq]
    simp only
    split
    · rename_i between e hbetween
      exact absurd (hbetween ▸ hgo progress) (by simp)
    · exact ih fun name' hname => h name' (List.mem_cons_of_mem _ hname)

/-- **Nothing fails where all is in order**: the documents being expanded
all lead to the one at hand, which can be read and does not lead to
itself. -/
theorem expand_succeeds (h : Loadable r files) (hp : Reachable r files p)
    (hactive : ∀ q ∈ active, Relation.TransGen (Includes r) q p) :
    (expand r depth active p progress).2 = none := by
  induction depth generalizing active p progress with
  -- running out of depth is not a failure of the walk; `Room` says it does not come to that
  | zero => rfl
  | succ depth ih =>
    rw [expand, if_neg fun hin => h.acyclic p hp (hactive p (List.contains_iff_mem.1 hin))]
    split
    · rfl
    · obtain ⟨d, hd⟩ := h.reads p hp
      simp only
      rw [hd]
      simp only
      have hbelow : ∀ before, (forEach (includeTarget p) (expand r depth (active ++ [p])) d.targets
          before).2 = none := by
        refine fun before => forEach_succeeds fun target htarget => ?_
        have hnames := MetadataDocument.mem_targets.1 htarget
        obtain ⟨q, hq⟩ := h.resolves p d hp hd target hnames
        have hedge : Includes r p q := ⟨d, hd, target, hnames, hq⟩
        refine ⟨q, includeTarget_eq_ok.2 hq, fun before => ih (hp.includes hedge) fun a ha => ?_⟩
        rcases List.mem_append.1 ha with ha | ha
        · exact (hactive a ha).tail hedge
        · rw [List.mem_singleton.1 ha]
          exact .single hedge
      split
      · rename_i between e hbetween
        exact absurd (hbetween ▸ hbelow _) (by simp)
      · rfl

theorem run_succeeds (h : Loadable r files) : (run r files).2 = none := by
  refine forEach_succeeds fun file hfile => ?_
  obtain ⟨q, hq⟩ := h.configured file hfile
  refine ⟨q, configuredTarget_eq_ok.2 hq, fun before => ?_⟩
  exact expand_succeeds h ⟨q, ⟨file, hfile, hq⟩, .refl⟩ fun a ha => absurd ha List.not_mem_nil

/-! ## The walk -/

/-- The documents that configured files reach, visited as they ought to
be. -/
structure Traversal (r : Resources) (files : List String)
    (visited : List (NormalPath × MetadataDocument)) : Prop where
  /-- With each path stands its document. -/
  reads : ∀ x ∈ visited, Reads r x.1 x.2
  /-- None is visited twice. -/
  nodup : (visited.map (·.1)).Nodup
  /-- Those reached are visited, and nothing else. -/
  mem_iff : ∀ p, p ∈ visited.map (·.1) ↔ Reachable r files p
  /-- Each stands behind all that it includes. -/
  includes_before : ∀ before x after, visited = before ++ x :: after →
    ∀ q, Includes r x.1 q → q ∈ before.map (·.1)
  /-- They stand where the post-order has them first. -/
  postOrder : ∃ roots order, LeadTo NormalPath.ofText? files roots ∧ PostOrder r roots order ∧
    visited.map (·.1) = order.eraseDups

theorem traversal_of_run (h : run r files = (progress, none)) :
    Traversal r files progress.visited := by
  obtain ⟨roots, hroots, hadvance⟩ := run_advance h
  obtain ⟨order, horder, hpaths⟩ := hadvance.postOrder
  have hsettled := hadvance.settled
  rw [List.map_nil, List.nil_append] at hpaths
  refine ⟨hsettled.reads, hsettled.nodup, fun p => ⟨fun hp => ?_, ?_⟩,
    fun before x after hx q hq => hsettled.includes_before hx hq, roots, order, hroots, horder,
    hpaths⟩
  · rw [hpaths, List.mem_eraseDups] at hp
    obtain ⟨q, hq, hpath⟩ := horder.exists_reflTransGen p hp
    exact ⟨q, hroots.mem_iff.1 hq, hpath⟩
  · rintro ⟨q, hq, hpath⟩
    exact hsettled.closed_of_reflTransGen (hadvance.mem_paths q (hroots.mem_iff.2 hq)) hpath

/-- What has been visited without a failure was in order. -/
theorem loadable_of_run (h : run r files = (progress, none)) : Loadable r files := by
  obtain ⟨roots, hroots, hadvance⟩ := run_advance h
  have hsettled := hadvance.settled
  have hvisited : ∀ p, Reachable r files p → p ∈ progress.visited.map (·.1) :=
    fun p hp => ((traversal_of_run h).mem_iff p).2 hp
  refine ⟨hroots.exists_target, fun p hp => ?_, fun p d hp hd => ?_,
    fun p hp => hsettled.acyclic (hvisited p hp)⟩
  · obtain ⟨x, hx, rfl⟩ := List.mem_map.1 (hvisited p hp)
    exact ⟨x.2, hsettled.reads x hx⟩
  · obtain ⟨x, hx, rfl⟩ := List.mem_map.1 (hvisited p hp)
    rw [hd.unique (hsettled.reads x hx)]
    exact hsettled.resolves x hx

/-- **The include walk.** It succeeds exactly where every configured file
has a normal form, every document these reach is there and well formed, no
include climbs above the root, and no document includes itself. It then has
visited the documents reached, each once, behind all it includes, and in
depth-first post-order. -/
theorem run_iff_loadable (r : Resources) (files : List String) :
    ((run r files).2 = none ↔ Loadable r files) ∧
      ∀ progress, run r files = (progress, none) → Traversal r files progress.visited := by
  refine ⟨⟨fun h => ?_, run_succeeds⟩, fun progress => traversal_of_run⟩
  have hrun : run r files = ((run r files).1, none) := Prod.ext rfl h
  exact loadable_of_run hrun

/-- Two documents that include a third, and one that includes both, with
blanks around and between the names. -/
def diamond : Resources :=
  .memory [("top.json", Text.encode "\x7b\"include\":[\" left.json\",\" \",\"right.json\"]\x7d"),
    ("left.json", Text.encode "\x7b\"include\":[\"base.json\"]\x7d"),
    ("right.json", Text.encode "\x7b\"include\":[\"./base.json\\t\"]\x7d"),
    ("base.json", Text.encode "\x7b\x7d")]

/-- The documents of `diamond` as they are to be visited. -/
def diamondDocuments : List (NormalPath × MetadataDocument) :=
  [(⟨["base.json"]⟩, {}),
    (⟨["left.json"]⟩, { includes := ["base.json"] }),
    (⟨["right.json"]⟩, { includes := ["./base.json\t"] }),
    (⟨["top.json"]⟩, { includes := [" left.json", " ", "right.json"] })]

/-- All is in order there, with a file configured that is included as
well. -/
theorem loadable_diamond :
    Loadable diamond ["top.json", "/left.json"] ∧
      (run diamond ["top.json", "/left.json"]).1.visited = diamondDocuments ∧
      Traversal diamond ["top.json", "/left.json"] diamondDocuments ∧
      Includes diamond ⟨["top.json"]⟩ ⟨["right.json"]⟩ ∧
      Includes diamond ⟨["right.json"]⟩ ⟨["base.json"]⟩ := by
  have hrun : (run diamond ["top.json", "/left.json"]).2 = none := by decide +kernel
  have hvisited : (run diamond ["top.json", "/left.json"]).1.visited = diamondDocuments := by
    decide +kernel
  obtain ⟨hiff, htraversal⟩ := run_iff_loadable diamond ["top.json", "/left.json"]
  have ht := htraversal _ (Prod.ext rfl hrun)
  rw [hvisited] at ht
  have htop : Reads diamond ⟨["top.json"]⟩ { includes := [" left.json", " ", "right.json"] } :=
    ht.reads (⟨["top.json"]⟩, _) (by simp [diamondDocuments])
  have hright : Reads diamond ⟨["right.json"]⟩ { includes := ["./base.json\t"] } :=
    ht.reads (⟨["right.json"]⟩, _) (by simp [diamondDocuments])
  have hnames : MetadataDocument.Names { includes := [" left.json", " ", "right.json"] }
      "right.json" := ⟨by decide, "right.json", by decide, by decide +kernel⟩
  have hnames' : MetadataDocument.Names { includes := ["./base.json\t"] } "./base.json" :=
    ⟨by decide, "./base.json\t", by decide, by decide +kernel⟩
  exact ⟨hiff.1 hrun, hvisited, ht, ⟨_, htop, _, hnames, by decide +kernel⟩,
    ⟨_, hright, _, hnames', by decide +kernel⟩⟩

end IncludeWalk

end AttributeCache
