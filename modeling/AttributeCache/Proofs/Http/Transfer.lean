import AttributeCache.Proofs.Cache.Overlap
import AttributeCache.Proofs.Cache.Snapshot
import AttributeCache.Proofs.Http.Since
/-!
# What a caller holds

A caller reads the snapshot a node is at back from the body it is answered
with. The body is the text of the record, so what the caller comes to hold
is settled by the defaults of the definitions (`body_decodes`): one that is
`null` is lost on the way, and one that goes too deep makes the whole body
one that cannot be read. In a document the defaults lie one level higher
than in a snapshot, so there is a depth that a document may declare and no
caller can read (`not_always_decodes`).
-/

namespace AttributeCache

open Json Manager

variable {site : Site} {steps : List Course.Step} {snapshot : Snapshot}

namespace Readings

variable {r : Readings} {ds : List AttributeDefinition}

/-- Definitions that documents declare are sound, whenever they were read. -/
theorem sound_of_attributesAt {xs : List (String × Site)} (h : attributesAt xs = .ok ds) :
    ∀ d ∈ ds, d.Sound 124 := by
  intro d hd
  obtain ⟨x, -, attributes, hread, hmem⟩ := exists_mem_of_attributesAt h hd
  exact Introspector.sound_of_readFile hread d hmem

theorem Defines.sound (h : r.Defines ds) (hdeclared : ∃ files, r.asked.introspector =
    .declared files) : ∀ d ∈ ds, d.Sound 124 := by
  obtain ⟨files, hfiles⟩ := hdeclared
  cases h with
  | declared _ hread => exact sound_of_attributesAt hread
  | given hnot => exact absurd hfiles (hnot files)

theorem Defines.canonical (h : r.Defines ds) (hasked : r.asked.introspector.Canonical) :
    ∀ d ∈ ds, d.Canonical := by
  cases h with
  | declared _ hread => exact fun d hd => (sound_of_attributesAt hread d hd).canonical
  | given _ _ hgiven => exact Introspector.canonical_of_definitions hasked hgiven

end Readings

namespace Manager.Course

/-- A site that is never edited stays as it is. -/
theorem siteAt_of_unedited (h : ∀ other, .edit other ∉ steps) (i : Nat) :
    siteAt site steps i = site := by
  have hrun : ∀ part : List Step, (∀ other, .edit other ∉ part) → (run site part).site = site := by
    intro part hpart
    induction part using List.reverseRecOn with
    | nil => rfl
    | append_singleton part a ih =>
      have hbefore := ih fun other hother => hpart other (List.mem_append_left _ hother)
      obtain ⟨after, hafter, htakes⟩ := exists_takes site part a
      rw [hafter]
      cases htakes with
      | edit => exact absurd (List.mem_append_right _ (List.mem_singleton_self _)) (hpart _)
      | _ => exact hbefore
  exact hrun _ fun other hother => h other (List.mem_of_mem_take hother)

/-- The definitions that are current are some that were asked for at a step
of the run. -/
theorem exists_readings_of_current (h : (run site steps).manager.current = some snapshot) :
    ∃ (i : Nat) (r : Readings) (ds : List AttributeDefinition),
      r.asked = siteAt site steps i ∧ r.Defines ds ∧
      snapshot.attributes = (AttributeIndex.gather ds).ordered.groups := by
  rw [current_run, Option.map_eq_some_iff] at h
  obtain ⟨p, hp, rfl⟩ := h
  obtain ⟨b, -, r, -, hfrom, m, ds, -, hdefines, hindex⟩ :=
    builtBy_of_mem (List.mem_of_getLast? hp)
  obtain ⟨i, -, hi⟩ := List.mem_map.1 hfrom.asked_mem
  obtain ⟨-, hgroups⟩ := AttributeIndex.build_eq_ok_iff.1 hindex
  exact ⟨i, r, ds, hi.symm, hdefines, congrArg AttributeIndex.groups hgroups⟩

/-- What is current is a snapshot that can be written, and of declared
definitions those that a document has room for. -/
theorem sound_of_current (h : (run site steps).manager.current = some snapshot)
    (hsources : ∀ i, (siteAt site steps i).introspector.Canonical) :
    Keyed.Ascending snapshot.attributes ∧ (∀ d ∈ snapshot.definitions, d.Canonical) ∧
      ((∀ i, ∃ files, (siteAt site steps i).introspector = .declared files) →
        ∀ d ∈ snapshot.definitions, d.Arrives 124) := by
  obtain ⟨i, r, ds, hasked, hdefines, hattributes⟩ := exists_readings_of_current h
  have hmem : ∀ d ∈ snapshot.definitions, d ∈ ds := by
    rw [Snapshot.forall_mem_definitions, hattributes]
    exact fun x hx d hd => AttributeIndex.mem_of_mem_ordered hx hd
  refine ⟨?_, fun d hd => ?_, fun hdeclared d hd => ?_⟩
  · rw [hattributes]
    exact AttributeIndex.ascending_gather.map fun _ => rfl
  · exact hdefines.canonical (hasked ▸ hsources i) d (hmem d hd)
  · exact (hdefines.sound (hasked ▸ hdeclared i) d (hmem d hd)).arrives

end Manager.Course

namespace Http

variable {n : Node} {r : Request} {now : UInt64}

theorem status_of_sinceOf {refusal : Response} (h : sinceOf r = .error refusal) :
    refusal.status = 400 := by
  rw [sinceOf] at h
  split at h
  · cases h
  · rename_i s _
    cases hparse : Stamp.parse s with
    | ok stamp =>
      rw [hparse] at h
      cases h
    | error e =>
      rw [hparse] at h
      cases h
      rfl
  · cases h
    rfl

/-- A body is that of what is current. -/
theorem json_of_status (hcurrent : n.manager.current = some snapshot)
    (hroute : Route.ofPath? r.path = some .attributes) (hmethod : r.method = "GET")
    (hstatus : (handle now n r).2.status = 200) :
    (handle now n r).2.json = some snapshot.json.text := by
  have hanswer : (handle now n r).2 = getAttributes n r := by
    simp only [handle, hroute, hmethod]
  rw [hanswer, getAttributes] at hstatus ⊢
  cases hsince : sinceOf r with
  | error refusal =>
    rw [hsince] at hstatus
    have hrefused : refusal.status = 200 := hstatus
    rw [status_of_sinceOf hsince] at hrefused
    exact absurd hrefused (by decide)
  | ok since =>
    simp only [hsince, newerThan?_of_current hcurrent] at hstatus ⊢
    split at hstatus
    · rename_i later hlater
      split at hlater
      · cases hlater
        rfl
      · cases hlater
    · exact absurd hstatus (by decide)

/-- **What a caller holds is what the node is at** exactly if no default is
`null` and none goes deeper than 123. A caller that can read the body at all
holds the snapshot but for the defaults that are `null`. Where all
definitions are declared in documents, no default is `null` and none goes
deeper than 124. -/
theorem body_decodes (hcurrent : (Course.run site steps).manager.current = some snapshot)
    (hsources : ∀ i, (Course.siteAt site steps i).introspector.Canonical)
    (hnumbers : ∀ d ∈ snapshot.definitions, d.ReadsBack)
    (hmanager : n.manager = (Course.run site steps).manager)
    (hroute : Route.ofPath? r.path = some .attributes) (hmethod : r.method = "GET")
    (hstatus : (handle now n r).2.status = 200) :
    ∃ body, (handle now n r).2.json = some body ∧
      decodeBytes Snapshot.ofTree (Text.encode body) =
        ifRoom (∀ d ∈ snapshot.definitions, d.Fits 123) snapshot.withoutNulls ∧
      (decodeBytes Snapshot.ofTree (Text.encode body) = .ok snapshot ↔
        ∀ d ∈ snapshot.definitions, d.Arrives 123) ∧
      ((∀ i, ∃ files, (Course.siteAt site steps i).introspector = .declared files) →
        ∀ d ∈ snapshot.definitions, d.Arrives 124) := by
  obtain ⟨hkeys, hcanonical, hdeclared⟩ := Course.sound_of_current hcurrent hsources
  have hdecode := Snapshot.decodeBytes_text hkeys hcanonical hnumbers
  refine ⟨_, json_of_status (hmanager ▸ hcurrent) hroute hmethod hstatus, hdecode, ?_, hdeclared⟩
  rw [hdecode, Snapshot.ifRoom_withoutNulls_eq_iff]

/-- A class, and documents in which an attribute of it has a default. -/
def declaring (default : String) : Site where
  configuration :=
    ⟨.memory [
      ("app.json", Text.encode "\x7b\"metadata_models\":[\x7b\"root_package\":\"app\"\x7d]\x7d"),
      ("unit.json",
        Text.encode "\x7b\"persistence_unit\":\x7b\"classes\":[\"app.Order\"]\x7d\x7d"),
      ("attributes.json", Text.encode ("\x7b\"attributes\":[\x7b\"code\":\"rating\"," ++
        "\"entity_type\":\"app.Order\",\"value_type\":\"string\",\"default_value\":" ++
        default ++ "\x7d]\x7d"))],
      ⟨["app.json"], ["unit.json"]⟩⟩
  introspector := .declared ["attributes.json"]

/-- One load of it. -/
def loading : List Course.Step :=
  .begin :: List.replicate 11 (.advance 0 7)

theorem siteAt_loading (site : Site) (i : Nat) : Course.siteAt site loading i = site :=
  Course.siteAt_of_unedited (by simp [loading]) i

/-- A node where it is loaded. -/
def serving (site : Site) : Node :=
  { id := ⟨0⟩, attached := false, site, manager := (Course.run site loading).manager }

theorem manager_serving (site : Site) :
    (serving site).manager = (Course.run site loading).manager := by
  rw [serving]

/-- It answers the first request with what is current, the numbers of which
are read back if they are integers. -/
theorem exists_served (site : Site) {p : Snapshot → Bool}
    (h : (serving site).manager.current.any (fun s => Stamp.epoch < s.timestamp &&
      (s.definitions.all fun d => d.default.all (·.isIntegral)) && p s) = true) :
    ∃ snapshot, (Course.run site loading).manager.current = some snapshot ∧
      (∀ d ∈ snapshot.definitions, d.ReadsBack) ∧
      (∀ now, (handle now (serving site) (.newerThan none)).2 = .ofValue snapshot.json) ∧
      p snapshot = true := by
  rw [Option.any_eq_true] at h
  obtain ⟨snapshot, hcurrent, hsnapshot⟩ := h
  simp only [Bool.and_eq_true, decide_eq_true_eq, List.all_eq_true, Option.all_eq_true]
    at hsnapshot
  obtain ⟨⟨hlater, hintegral⟩, hp⟩ := hsnapshot
  refine ⟨snapshot, manager_serving site ▸ hcurrent, fun d hd v hv => ?_, fun now => ?_, hp⟩
  · exact v.readsBack_of_isIntegral (hintegral d hd v hv)
  · rw [handle_newerThan, newerThan?_of_current hcurrent, Option.getD_none, if_pos hlater]
    rfl

theorem route_newerThan : Route.ofPath? (Request.newerThan none).path = some .attributes := by
  decide +kernel

/-- A default with an object, a list, a number and a `null` inside arrives. -/
theorem body_decodes_rating :
    let server := serving (declaring "\x7b\"most\":5,\"names\":[\"good\",null]\x7d")
    ∃ snapshot body, server.manager.current = some snapshot ∧ snapshot.length = 1 ∧
      (handle 9 server (.newerThan none)).2.json = some body ∧
      decodeBytes Snapshot.ofTree (Text.encode body) = .ok snapshot := by
  intro server
  obtain ⟨snapshot, hcurrent, hnumbers, hanswer, hsnapshot⟩ :=
    exists_served (declaring "\x7b\"most\":5,\"names\":[\"good\",null]\x7d")
      (p := fun s => s.length == 1 && s.definitions.all fun d => d.Arrives 123) (by decide +kernel)
  simp only [Bool.and_eq_true, beq_iff_eq, List.all_eq_true, decide_eq_true_eq] at hsnapshot
  have hstatus : (handle 9 server (.newerThan none)).2.status = 200 :=
    congrArg Response.status (hanswer 9)
  obtain ⟨body, hbody, -, hdecode, -⟩ := body_decodes hcurrent
    (fun i => by rw [siteAt_loading]; trivial) hnumbers (manager_serving _) route_newerThan rfl
    hstatus
  exact ⟨snapshot, body, (congrArg Manager.current (manager_serving _)).trans hcurrent,
    hsnapshot.1, hbody, hdecode.2 hsnapshot.2⟩

/-- Arrays within each other. -/
def nested (depth : Nat) : String :=
  String.ofList (List.replicate depth '[' ++ List.replicate depth ']')

/-- **Not every body can be read by its caller.** A default of 124 arrays
within each other can be declared in a document and is served, and the body
it is served in opens one too many. -/
theorem not_always_decodes :
    ¬ ∀ (site : Site) (steps : List Course.Step) (snapshot : Snapshot) (n : Node) (r : Request)
        (now : UInt64), (Course.run site steps).manager.current = some snapshot →
      (∀ i, ∃ files, (Course.siteAt site steps i).introspector = .declared files) →
      (∀ d ∈ snapshot.definitions, d.ReadsBack) →
      n.manager = (Course.run site steps).manager → Route.ofPath? r.path = some .attributes →
      r.method = "GET" → (handle now n r).2.status = 200 →
      ∃ body, (handle now n r).2.json = some body ∧
        decodeBytes Snapshot.ofTree (Text.encode body) = .ok snapshot := by
  intro hall
  let site := declaring (nested 124)
  obtain ⟨snapshot, hcurrent, hnumbers, hanswer, hsnapshot⟩ := exists_served site
    (p := fun s => !s.definitions.all fun d => d.Arrives 123) (by decide +kernel)
  have hdeclared : ∀ i, ∃ files,
      (Course.siteAt site loading i).introspector = .declared files := fun i =>
    ⟨["attributes.json"], by rw [siteAt_loading]; rfl⟩
  have hsources : ∀ i, (Course.siteAt site loading i).introspector.Canonical := fun i => by
    rw [siteAt_loading]
    trivial
  obtain ⟨hkeys, hcanonical, -⟩ := Course.sound_of_current hcurrent hsources
  obtain ⟨body, hbody, hdecode⟩ := hall site loading snapshot (serving site) (.newerThan none) 9
    hcurrent hdeclared hnumbers (manager_serving site) route_newerThan rfl
    (congrArg Response.status (hanswer 9))
  -- the body is the text of the snapshot, and one of its defaults does not arrive
  have htext : snapshot.json.text = body := by
    rw [hanswer] at hbody
    exact Option.some.inj hbody
  rw [← htext, Snapshot.decodeBytes_text hkeys hcanonical hnumbers,
    Snapshot.ifRoom_withoutNulls_eq_iff] at hdecode
  have harrive : (snapshot.definitions.all fun d => d.Arrives 123) = true :=
    List.all_eq_true.2 fun d hd => decide_eq_true (hdecode d hd)
  rw [harrive] at hsnapshot
  exact absurd hsnapshot (by decide)

end Http

end AttributeCache
