import AttributeCache.Cache.Manager
import AttributeCache.Proofs.Configuration.Visiting
import AttributeCache.Proofs.Folding
/-!
# A load step by step

A load does not happen at one moment. It visits the metadata documents,
takes in the descriptors, asks for the definitions and builds the index, and
at each step it reads one document at most. The site is what it is at that
step, so a load whose documents are edited meanwhile may read one of them
before the edit and the next one behind it.

What such a load builds is said without its steps. `Readings` are what one
build reads, with the site each document was read at, and `Readings.Builds`
is what the build makes of that. Whatever a load has built it has built of
readings at its own steps, in the order of these (`Load.Stands`). Where the
site stays the same this is the build of the site (`Readings.Builds.build`),
and the steps of a load come to it (`Load.proceeds_prepared`).
-/

namespace AttributeCache

open IncludeWalk (Visit)

/-! ## What a build reads -/

/-- How the metadata documents are had if each is read at a site of its
own. -/
def readerAt (documents : NormalPath → Site) : IncludeWalk.Reader := fun path =>
  IncludeWalk.reader (documents path).configuration.resources path

/-- The attributes of documents that are read each at a site of its own. -/
def attributesAt (attributes : List (String × Site)) :
    Except CacheError (List AttributeDefinition) :=
  (attributes.mapM fun x => Introspector.readFile x.2.configuration.resources x.1).map List.flatten

section Attributes

variable {xs : List (String × Site)} {ds more : List AttributeDefinition}

theorem attributesAt_cons_eq_ok_iff {x : String × Site} : attributesAt (x :: xs) = .ok ds ↔
    ∃ first rest, Introspector.readFile x.2.configuration.resources x.1 = .ok first ∧
      attributesAt xs = .ok rest ∧ first ++ rest = ds := by
  rw [attributesAt, attributesAt, List.mapM_cons]
  cases Introspector.readFile x.2.configuration.resources x.1 with
  | error e => simp [bind, Except.bind, Except.map]
  | ok first =>
    cases xs.mapM fun x => Introspector.readFile x.2.configuration.resources x.1 with
    | error e => simp [bind, Except.bind, Except.map]
    | ok lists => simp [bind, Except.bind, pure, Except.pure, Except.map]

/-- One more document adds what it declares. -/
theorem attributesAt_concat {site : Site} {file : String} (h : attributesAt xs = .ok ds)
    (hmore : Introspector.readFile site.configuration.resources file = .ok more) :
    attributesAt (xs ++ [(file, site)]) = .ok (ds ++ more) := by
  induction xs generalizing ds with
  | nil =>
    cases h
    exact attributesAt_cons_eq_ok_iff.2 ⟨more, [], hmore, rfl, List.append_nil more⟩
  | cons x rest ih =>
    obtain ⟨first, ds', hfirst, hrest, rfl⟩ := attributesAt_cons_eq_ok_iff.1 h
    rw [List.append_assoc]
    exact attributesAt_cons_eq_ok_iff.2 ⟨first, ds' ++ more, hfirst, ih hrest, rfl⟩

/-- What there is, one of the documents declares. -/
theorem exists_mem_of_attributesAt (h : attributesAt xs = .ok ds) {d : AttributeDefinition}
    (hd : d ∈ ds) : ∃ x ∈ xs, ∃ attributes,
      Introspector.readFile x.2.configuration.resources x.1 = .ok attributes ∧ d ∈ attributes := by
  induction xs generalizing ds with
  | nil =>
    cases h
    exact absurd hd List.not_mem_nil
  | cons x rest ih =>
    obtain ⟨first, ds', hfirst, hrest, rfl⟩ := attributesAt_cons_eq_ok_iff.1 h
    rcases List.mem_append.1 hd with hd | hd
    · exact ⟨x, List.mem_cons_self, first, hfirst, hd⟩
    · obtain ⟨y, hy, hread⟩ := ih hrest hd
      exact ⟨y, List.mem_cons_of_mem _ hy, hread⟩

end Attributes

/-- **Namespaces merged** of the metadata documents and of the descriptors
taken in, some of the configured ones being left. -/
structure Merging (sources : Sources) (documents : NormalPath → Site)
    (taken : List (String × Site)) (left : List String) (m : NamespaceMap) : Prop where
  configured : taken.map (·.1) ++ left = sources.persistenceFiles
  merged : ∃ walked,
    Visit.Comes NamespaceMap.addDocument (readerAt documents)
      (Visit.start sources.metadataFiles {}) (.ok walked) ∧
    taken.foldlM (fun m x => x.2.configuration.addPersistence m x.1) walked = .ok m

/-- One more descriptor is taken in. -/
theorem Merging.take {sources : Sources} {documents : NormalPath → Site}
    {taken : List (String × Site)} {descriptor : String} {left : List String}
    {m m' : NamespaceMap} {site : Site}
    (h : Merging sources documents taken (descriptor :: left) m)
    (hm' : site.configuration.addPersistence m descriptor = .ok m') :
    Merging sources documents (taken ++ [(descriptor, site)]) left m' := by
  obtain ⟨hconfigured, walked, hwalked, hmerged⟩ := h
  refine ⟨?_, walked, hwalked, ?_⟩
  · rw [List.map_append, List.map_singleton, List.append_assoc, List.singleton_append]
    exact hconfigured
  · simp only [List.foldlM_append, hmerged, List.foldlM_cons, List.foldlM_nil, bind_pure]
    exact hm'

/-- What one build reads. -/
structure Readings where
  /-- The files it was begun with. -/
  sources : Sources
  /-- The site a metadata document is read at. -/
  documents : NormalPath → Site
  /-- The descriptors, each with the site it is read at. -/
  descriptors : List (String × Site)
  /-- The site that is asked for the definitions. -/
  asked : Site
  /-- The attribute documents, each with the site it is read at. -/
  attributes : List (String × Site)

namespace Readings

/-- The sites behind those of the metadata documents, in order. -/
def later (r : Readings) : List Site :=
  r.descriptors.map (·.2) ++ r.asked :: r.attributes.map (·.2)

/-- The documents merge to these namespaces. -/
def Merges (r : Readings) (m : NamespaceMap) : Prop :=
  Merging r.sources r.documents r.descriptors [] m

/-- The definitions asked for are these. -/
inductive Defines (r : Readings) (definitions : List AttributeDefinition) : Prop
  /-- They are declared in documents. -/
  | declared : r.asked.introspector = .declared (r.attributes.map (·.1)) →
      attributesAt r.attributes = .ok definitions → Defines r definitions
  /-- They are had at once. -/
  | given : (∀ files, r.asked.introspector ≠ .declared files) → r.attributes = [] →
      r.asked.introspector.definitions r.asked.configuration.resources = .ok definitions →
      Defines r definitions

/-- **The index of one build**, each document being as it was when the build
read it. -/
def Builds (r : Readings) (index : AttributeIndex) : Prop :=
  ∃ m definitions, r.Merges m ∧ r.Defines definitions ∧
    AttributeIndex.build m definitions = .ok index

/-- The readings are taken from these sites, one behind the other. -/
def From (r : Readings) (sites : List Site) : Prop :=
  ∀ path, (r.documents path :: r.later).Sublist sites

variable {r : Readings} {site : Site} {sites : List Site} {index : AttributeIndex}
variable {m : NamespaceMap} {ds : List AttributeDefinition} {xs : List (String × Site)}

/-- More sites behind these are nothing to it. -/
theorem From.append (h : r.From sites) (site : Site) : r.From (sites ++ [site]) := fun path =>
  (h path).trans (List.sublist_append_left _ _)

/-- An attribute document is read at one more site. -/
theorem From.read (h : r.From sites) (site : Site) (file : String) :
    From { r with attributes := r.attributes ++ [(file, site)] } (sites ++ [site]) := by
  intro path
  have hconcat := (h path).append (List.Sublist.refl [site])
  simpa [later] using hconcat

theorem From.asked_mem (h : r.From sites) : r.asked ∈ sites :=
  (h ⟨[]⟩).subset (List.mem_cons_of_mem _ (List.mem_append_right _ List.mem_cons_self))

/-! ## Where nothing is edited -/

theorem eq_map_of_same (h : ∀ x ∈ xs, x.2 = site) :
    xs = (xs.map (·.1)).map fun path => (path, site) := by
  have hsame : xs.map ((fun path => (path, site)) ∘ Prod.fst) = xs.map id :=
    List.map_congr_left fun x hx => Prod.ext rfl (h x hx).symm
  rw [List.map_map, hsame, List.map_id]

theorem Merges.namespaces (h : r.Merges m) (hsources : r.sources = site.configuration.sources)
    (hdocuments : ∀ path, r.documents path = site)
    (hdescriptors : ∀ x ∈ r.descriptors, x.2 = site) : site.configuration.namespaces = .ok m := by
  obtain ⟨hconfigured, walked, hwalked, hmerged⟩ := h
  have hreader : readerAt r.documents = IncludeWalk.reader site.configuration.resources := by
    funext path
    rw [readerAt, hdocuments]
  rw [hreader, hsources, Configuration.comes_iff_afterWalk] at hwalked
  rw [List.append_nil, hsources] at hconfigured
  rw [eq_map_of_same hdescriptors, List.foldlM_map, hconfigured] at hmerged
  rw [Configuration.namespaces, ← hwalked]
  exact hmerged

theorem Defines.definitions (h : r.Defines ds) (hasked : r.asked = site)
    (hattributes : ∀ x ∈ r.attributes, x.2 = site) :
    site.introspector.definitions site.configuration.resources = .ok ds := by
  cases h with
  | declared hfiles hread =>
    rw [attributesAt, eq_map_of_same hattributes, List.mapM_map] at hread
    rw [← hasked, hfiles, hasked]
    exact hread
  | given _ _ hgiven => rwa [hasked] at hgiven

/-- **A build that reads all at one site is the build of the site.** -/
theorem Builds.build (h : r.Builds index) (hsources : r.sources = site.configuration.sources)
    (hdocuments : ∀ path, r.documents path = site) (hlater : ∀ s ∈ r.later, s = site) :
    site.build = .ok index := by
  obtain ⟨m, ds, hmerges, hdefines, hindex⟩ := h
  have hm := hmerges.namespaces hsources hdocuments fun x hx =>
    hlater _ (List.mem_append_left _ (List.mem_map_of_mem hx))
  have hdefinitions := hdefines.definitions
    (hlater _ (List.mem_append_right _ List.mem_cons_self)) fun x hx =>
      hlater _ (List.mem_append_right _ (List.mem_cons_of_mem _ (List.mem_map_of_mem hx)))
  rw [Site.build, hm, hdefinitions]
  exact hindex

end Readings

namespace Manager

/-! ## The steps of a load -/

/-- How far a load has come. -/
inductive Load where
  /-- The metadata documents are being visited, and all descriptors are
  left. -/
  | walking (descriptors : List String) (visit : Visit NamespaceMap)
  /-- Some descriptors are left. -/
  | describing (descriptors : List String) (m : NamespaceMap)
  /-- The documents are merged. -/
  | merged (m : NamespaceMap)
  /-- Some attribute documents are left, behind the definitions of others. -/
  | introspecting (m : NamespaceMap) (files : List String) (definitions : List AttributeDefinition)
  /-- The definitions are there as well. -/
  | introspected (m : NamespaceMap) (definitions : List AttributeDefinition)
  /-- The index is built, and nobody has seen it yet. -/
  | built (index : AttributeIndex)
  | published (stamp : Stamp)
  | failed (e : CacheError)

namespace Load

/-- A load that has read nothing yet. Which files are configured it knows. -/
def begun (sources : Sources) : Load :=
  .walking sources.persistenceFiles (Visit.start sources.metadataFiles {})

/-- What a load does next on its own, the site being as it is. It reads one
document at most. -/
def next (site : Site) : Load → Load
  | .walking descriptors visit =>
    match visit.step NamespaceMap.addDocument
        (IncludeWalk.reader site.configuration.resources) with
    | .goesOn visit => .walking descriptors visit
    | .ends (.ok m) => .describing descriptors m
    | .ends (.error e) => .failed (.metadata e)
  | .describing [] m => .merged m
  | .describing (descriptor :: descriptors) m =>
    match site.configuration.addPersistence m descriptor with
    | .ok m => .describing descriptors m
    | .error e => .failed (.metadata e)
  | .merged m =>
    match site.introspector with
    | .declared files => .introspecting m files []
    | source =>
      match source.definitions site.configuration.resources with
      | .ok definitions => .introspected m definitions
      | .error e => .failed e
  | .introspecting m [] definitions => .introspected m definitions
  | .introspecting m (file :: files) definitions =>
    match Introspector.readFile site.configuration.resources file with
    | .ok more => .introspecting m files (definitions ++ more)
    | .error e => .failed e
  | .introspected m definitions =>
    match AttributeIndex.build m definitions with
    | .ok index => .built index
    | .error e => .failed e
  | load => load

variable {site : Site} {load : Load} {sources : Sources} {sites : List Site}

/-- A load does not publish on its own. -/
theorem next_eq_published {stamp : Stamp} (h : load.next site = .published stamp) :
    load = .published stamp := by
  revert h
  fun_cases next site load
  all_goals first | exact id | exact fun h => nomatch h

/-! ## What a load has read -/

/-- **What a load has, it has read** at these sites, in their order. -/
def Stands (sources : Sources) (sites : List Site) : Load → Prop
  | .walking descriptors v => descriptors = sources.persistenceFiles ∧
      ∃ documents : NormalPath → Site,
        (∀ path ∈ v.moment.progress.opened, documents path ∈ sites) ∧
        Visit.Reaches NamespaceMap.addDocument (readerAt documents)
          (Visit.start sources.metadataFiles {}) v
  | .describing descriptors m => ∃ documents taken,
      (∀ path, (documents path :: taken.map (·.2)).Sublist sites) ∧
        Merging sources documents taken descriptors m
  | .merged m => ∃ documents taken,
      (∀ path, (documents path :: taken.map (·.2)).Sublist sites) ∧
        Merging sources documents taken [] m
  | .introspecting m files definitions => ∃ r : Readings, r.sources = sources ∧ r.From sites ∧
      r.Merges m ∧ r.asked.introspector = .declared (r.attributes.map (·.1) ++ files) ∧
      attributesAt r.attributes = .ok definitions
  | .introspected m definitions => ∃ r : Readings, r.sources = sources ∧ r.From sites ∧
      r.Merges m ∧ r.Defines definitions
  | .built index => ∃ r : Readings, r.sources = sources ∧ r.From sites ∧ r.Builds index
  | _ => True

theorem stands_begun (site : Site) :
    (begun site.configuration.sources).Stands site.configuration.sources [] :=
  ⟨rfl, fun _ => site, fun _ h => absurd h List.not_mem_nil, .refl⟩

/-- A document that is opened by a step is read at the site of that step. -/
theorem exists_documents {v : Visit NamespaceMap} {documents : NormalPath → Site}
    (hopened : ∀ path ∈ v.moment.progress.opened, documents path ∈ sites)
    (hreaches : Visit.Reaches NamespaceMap.addDocument (readerAt documents)
      (Visit.start sources.metadataFiles {}) v) (site : Site) :
    ∃ documents' : NormalPath → Site, (∀ path, documents' path ∈ sites ++ [site]) ∧
      Visit.Reaches NamespaceMap.addDocument (readerAt documents')
        (Visit.start sources.metadataFiles {}) v ∧
      v.step NamespaceMap.addDocument (readerAt documents') =
        v.step NamespaceMap.addDocument (IncludeWalk.reader site.configuration.resources) := by
  classical
  let documents' : NormalPath → Site := fun path =>
    if path ∈ v.moment.progress.opened then documents path else site
  have hsame : ∀ path ∈ v.moment.progress.opened,
      readerAt documents path = readerAt documents' path := by
    intro path hpath
    simp only [readerAt, documents', hpath, if_true]
  refine ⟨documents', fun path => ?_, hreaches.congr hsame, Visit.step_congr fun path hpath => ?_⟩
  · by_cases hpath : path ∈ v.moment.progress.opened
    · simp only [documents', hpath, if_true]
      exact List.mem_append_left _ (hopened path hpath)
    · simp only [documents', hpath, if_false]
      exact List.mem_append_right _ List.mem_cons_self
  · -- what is asked for has not been opened before
    have hnew := ((IncludeWalk.Sound.start _).reaches hreaches.moment).asks_not_mem hpath
    simp only [readerAt, documents', hnew, if_false]

/-- **A step keeps it**, the site of the step being one more. -/
theorem Stands.next (h : load.Stands sources sites) (site : Site) :
    (load.next site).Stands sources (sites ++ [site]) := by
  have hconcat : ∀ {l : List Site}, l.Sublist sites → (l ++ [site]).Sublist (sites ++ [site]) :=
    fun hl => hl.append (List.Sublist.refl [site])
  cases load with
  | walking descriptors v =>
    obtain ⟨rfl, documents, hopened, hreaches⟩ := h
    obtain ⟨documents', hmem, hreaches', hstep⟩ := exists_documents hopened hreaches site
    rw [Load.next, ← hstep]
    split
    · rename_i w hw
      exact ⟨rfl, documents', fun path _ => hmem path, .tail hreaches' hw⟩
    · rename_i m hm
      refine ⟨documents', [], fun path => List.singleton_sublist.2 (hmem path), ⟨rfl, m, ?_, rfl⟩⟩
      exact hreaches'.comes (.now hm)
    · trivial
  | describing descriptors m =>
    obtain ⟨documents, taken, hsites, hmerging⟩ := h
    cases descriptors with
    | nil =>
      exact ⟨documents, taken, fun path => (hsites path).trans (List.sublist_append_left _ _),
        hmerging⟩
    | cons descriptor rest =>
      rw [Load.next]
      split
      · rename_i m' hm'
        refine ⟨documents, taken ++ [(descriptor, site)], fun path => ?_, hmerging.take hm'⟩
        rw [List.map_append, List.map_singleton, ← List.cons_append]
        exact hconcat (hsites path)
      · trivial
  | merged m =>
    obtain ⟨documents, taken, hsites, hmerges⟩ := h
    have hfrom : Readings.From ⟨sources, documents, taken, site, []⟩ (sites ++ [site]) :=
      fun path => hconcat (hsites path)
    rw [Load.next]
    split
    · rename_i files hfiles
      exact ⟨_, rfl, hfrom, hmerges, hfiles, rfl⟩
    · rename_i hnot
      split
      · rename_i ds hds
        exact ⟨_, rfl, hfrom, hmerges, .given hnot rfl hds⟩
      · trivial
  | introspecting m files definitions =>
    obtain ⟨r, hsources, hfrom, hmerges, hfiles, hread⟩ := h
    cases files with
    | nil =>
      rw [List.append_nil] at hfiles
      exact ⟨r, hsources, hfrom.append site, hmerges, .declared hfiles hread⟩
    | cons file rest =>
      rw [Load.next]
      split
      · rename_i more hmore
        refine ⟨{ r with attributes := r.attributes ++ [(file, site)] }, hsources,
          hfrom.read site file, hmerges, ?_, attributesAt_concat hread hmore⟩
        rw [hfiles, List.map_append, List.map_singleton, List.append_assoc,
          List.singleton_append]
      · trivial
  | introspected m definitions =>
    obtain ⟨r, hsources, hfrom, hmerges, hdefines⟩ := h
    rw [Load.next]
    split
    · rename_i index hindex
      exact ⟨r, hsources, hfrom.append site, m, definitions, hmerges, hdefines, hindex⟩
    · trivial
  | built index =>
    obtain ⟨r, hsources, hfrom, hbuilds⟩ := h
    exact ⟨r, hsources, hfrom.append site, hbuilds⟩
  | published stamp => trivial
  | failed e => trivial

/-! ## A load by itself -/

/-- A load comes to another before it is built, the site staying as it is. -/
def Proceeds (site : Site) : Load → Load → Prop :=
  Relation.ReflTransGen fun load after => (∀ index, load ≠ .built index) ∧ load.next site = after

/-- A load that goes on with a result, or fails with an error. -/
def resume {α : Type} (onward : α → Load) : Except CacheError α → Load
  | .ok a => onward a
  | .error e => .failed e

/-- A load when its work is done. -/
def prepared (site : Site) : Load := resume .built site.build

/-- A load that has come to the first of two results goes on from there. -/
theorem Proceeds.bind {α β : Type} {f : α → Load} {g : β → Load} {e : Except CacheError α}
    {after : α → Except CacheError β} (h : load.Proceeds site (resume f e))
    (hafter : ∀ a, (f a).Proceeds site (resume g (after a))) :
    load.Proceeds site (resume g (e >>= after)) := by
  cases e with
  | error e => exact h
  | ok a => exact h.trans (hafter a)

/-- Metadata errors of two stages, one behind the other. -/
theorem mapError_bind {α β : Type} {e : Except MetadataError α}
    {after : α → Except MetadataError β} : (e >>= after).mapError CacheError.metadata =
      e.mapError .metadata >>= fun a => (after a).mapError .metadata := by
  cases e <;> rfl

/-- The walk is taken to its end. -/
theorem proceeds_walking {descriptors : List String} {v : Visit NamespaceMap}
    {result : Except MetadataError NamespaceMap}
    (h : Visit.Comes NamespaceMap.addDocument (IncludeWalk.reader site.configuration.resources) v
      result) :
    (walking descriptors v).Proceeds site
      (resume (.describing descriptors) (result.mapError .metadata)) := by
  induction h with
  | @now v result hstep =>
    refine .single ⟨nofun, ?_⟩
    rw [next, hstep]
    cases result <;> rfl
  | later hstep _ ih =>
    refine .head ⟨nofun, ?_⟩ ih
    rw [next, hstep]

/-- The descriptors are taken in one by one. -/
theorem proceeds_describing (descriptors : List String) (m : NamespaceMap) :
    (describing descriptors m).Proceeds site
      (resume .merged ((descriptors.foldlM site.configuration.addPersistence m).mapError
        .metadata)) := by
  induction descriptors generalizing m with
  | nil => exact .single ⟨nofun, rfl⟩
  | cons descriptor rest ih =>
    rw [List.foldlM_cons, mapError_bind]
    refine Proceeds.bind (f := describing rest) (.single ⟨nofun, ?_⟩) ih
    rw [next]
    cases site.configuration.addPersistence m descriptor <;> rfl

/-- So are the attribute documents. -/
theorem proceeds_introspecting (m : NamespaceMap) (files : List String)
    (ds : List AttributeDefinition) :
    (introspecting m files ds).Proceeds site (resume (fun more => .introspected m (ds ++ more))
      ((Introspector.declared files).definitions site.configuration.resources)) := by
  induction files generalizing ds with
  | nil =>
    have hnone : introspected m ds = introspected m (ds ++ []) := by rw [List.append_nil]
    exact .single ⟨nofun, hnone⟩
  | cons file rest ih =>
    refine .head ⟨nofun, rfl⟩ ?_
    rw [next, Introspector.definitions, List.mapM_cons]
    cases Introspector.readFile site.configuration.resources file with
    | error e => exact .refl
    | ok more =>
      have hrest := ih (ds ++ more)
      rw [Introspector.definitions] at hrest
      cases hlists : rest.mapM (Introspector.readFile site.configuration.resources) with
      | error e =>
        rw [hlists] at hrest
        exact hrest
      | ok lists =>
        rw [hlists] at hrest
        have hend : (introspecting m rest (ds ++ more)).Proceeds site
            (introspected m (ds ++ more ++ lists.flatten)) := hrest
        rw [List.append_assoc, ← List.flatten_cons] at hend
        exact hend

theorem proceeds_merged (m : NamespaceMap) : (merged m).Proceeds site (resume (.introspected m)
    (site.introspector.definitions site.configuration.resources)) := by
  cases hsource : site.introspector with
  | declared files =>
    refine .head ⟨nofun, ?_⟩ (proceeds_introspecting m files [])
    rw [next, hsource]
  | _ =>
    refine .single ⟨nofun, ?_⟩
    rw [next, hsource]
    rfl

/-- **A load that is left to itself does the work of the build.** -/
theorem proceeds_prepared (site : Site) :
    (begun site.configuration.sources).Proceeds site (prepared site) := by
  rw [prepared, Site.build, Configuration.namespaces, mapError_bind, bind_assoc]
  refine Proceeds.bind (proceeds_walking (Configuration.comes_iff_afterWalk.2 rfl)) fun m => ?_
  refine Proceeds.bind (proceeds_describing _ m) fun m => ?_
  refine Proceeds.bind (proceeds_merged m) fun ds => .single ⟨nofun, ?_⟩
  rw [next]
  cases AttributeIndex.build m ds <;> rfl

end Load

end Manager

end AttributeCache
