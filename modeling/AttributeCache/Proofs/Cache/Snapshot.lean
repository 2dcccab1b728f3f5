import AttributeCache.Cache.Snapshot
import AttributeCache.Proofs.Attribute.Record
import AttributeCache.Proofs.Cache.Rearrangement
import AttributeCache.Proofs.Cluster.Invalidation
/-!
# A snapshot from its record

A snapshot comes back from its record where every definition in it does
(`ofTree_tree`). Its definitions are those the site gave, and those a
document declares were read from it: their defaults have had room in the
document, where they lie less deep than in the snapshot
(`AttributesDocument.sound_of_ofTree`).
-/

namespace AttributeCache

open Json

variable {room : Nat} {d : AttributeDefinition} {ds : List AttributeDefinition}

namespace Snapshot

/-- All definitions of a snapshot. -/
def definitions (s : Snapshot) : List AttributeDefinition :=
  s.attributes.flatMap (·.2)

/-- The snapshot as it is read: a default that is `null` is none. -/
def withoutNulls (s : Snapshot) : Snapshot :=
  ⟨s.timestamp, s.attributes.map fun x => (x.1, x.2.map (·.withoutNull))⟩

theorem forall_mem_definitions {s : Snapshot} {p : AttributeDefinition → Prop} :
    (∀ d ∈ s.definitions, p d) ↔ ∀ x ∈ s.attributes, ∀ d ∈ x.2, p d :=
  List.forall_mem_flatMap

theorem withoutNulls_eq_self_iff {s : Snapshot} :
    s.withoutNulls = s ↔ ∀ d ∈ s.definitions, d.withoutNull = d := by
  have hlist : ∀ {β : Type} {f : β → β} {l : List β}, l.map f = l ↔ ∀ b ∈ l, f b = b := by
    intro β f l
    calc l.map f = l ↔ l.map f = l.map id := by rw [List.map_id]
      _ ↔ ∀ b ∈ l, f b = b := List.map_inj_left
  obtain ⟨timestamp, attributes⟩ := s
  rw [withoutNulls, Snapshot.mk.injEq, hlist, forall_mem_definitions]
  simp only [true_and, Prod.ext_iff, hlist]

/-- Every number of the record is read back if those of the definitions are. -/
theorem readsBack_json {s : Snapshot} (h : ∀ d ∈ s.definitions, d.ReadsBack) :
    s.json.ReadsBack := by
  rw [forall_mem_definitions] at h
  simp only [json, Value.ReadsBack, Value.FieldsReadBack, Value.fieldsReadBack_iff,
    Value.itemsReadBack_iff, List.forall_mem_map, and_true]
  exact ⟨s.timestamp.readsBack_json, fun x hx d hd =>
    AttributeDefinition.readsBack_json (h x hx d hd)⟩

/-- **A snapshot comes back from its record if there is room for every
default**, each where it is `null` read as none; else the record is refused. -/
theorem ofTree_tree {s : Snapshot} (hkeys : Keyed.Ascending s.attributes)
    (h : ∀ d ∈ s.definitions, d.Canonical) :
    ofTree (room + 5) s.json.tree =
      ifRoom (∀ d ∈ s.definitions, d.Fits (room + 1)) s.withoutNulls := by
  rw [forall_mem_definitions] at h
  have hgroups : (Value.object (s.attributes.map fun x =>
        (x.1, .array (x.2.map (·.json))))).tree.asMap
        (Tree.asList AttributeDefinition.ofTree) (room + 4) =
      ifRoom (∀ d ∈ s.definitions, d.Fits (room + 1)) s.withoutNulls.attributes := by
    rw [ifRoom_congr forall_mem_definitions]
    refine Tree.asMap_tree (fun group => .array (group.map (·.json)))
      (fun group => ∀ d ∈ group, d.Fits (room + 1)) _ hkeys fun x hx => ?_
    exact Tree.asList_tree _ _ _ fun d hd => AttributeDefinition.ofTree_tree (h x hx d hd)
  have hfields : record.readFields (room + 4) (Value.treesOfFields [("timestamp", s.timestamp.json),
      ("attributes", .object (s.attributes.map fun x => (x.1, .array (x.2.map (·.json)))))]) {} =
      ifRoom (∀ d ∈ s.definitions, d.Fits (room + 1))
        ⟨some s.timestamp, some s.withoutNulls.attributes⟩ := by
    refine (Record.readFields_cons (e := ⟨some s.timestamp, none⟩) rfl ?_).trans <|
      (Record.readFields_single rfl).trans ?_
    · rw [Stamp.ofTree_tree]
      rfl
    · rw [hgroups]
      change Record.once none _ >>= _ = _
      rw [Record.once_ifRoom]
      exact ifRoom_bind_ok rfl
  change (record.readFields (room + 4) _ {} >>= record.finish) = _
  rw [hfields]
  exact ifRoom_bind_ok rfl

/-- So it does from the bytes of its text. -/
theorem decodeBytes_text {s : Snapshot} (hkeys : Keyed.Ascending s.attributes)
    (hcanonical : ∀ d ∈ s.definitions, d.Canonical) (hnumbers : ∀ d ∈ s.definitions, d.ReadsBack) :
    decodeBytes ofTree (Text.encode s.json.text) =
      ifRoom (∀ d ∈ s.definitions, d.Fits 123) s.withoutNulls := by
  rw [Json.decodeBytes_text _ _ (readsBack_json hnumbers)]
  exact ofTree_tree hkeys hcanonical

/-- What is read is the snapshot where each of its definitions arrives. -/
theorem ifRoom_withoutNulls_eq_iff {s : Snapshot} :
    ifRoom (∀ d ∈ s.definitions, d.Fits room) s.withoutNulls = .ok s ↔
      ∀ d ∈ s.definitions, d.Arrives room := by
  rw [ifRoom_eq_ok_iff, withoutNulls_eq_self_iff, ← forall₂_and]
  simp only [AttributeDefinition.arrives_iff]

end Snapshot

/-! ## Where the definitions come from -/

/-- The definitions of a document that was read are sound. -/
theorem AttributesDocument.sound_of_ofTree {t : Tree} {document : AttributesDocument}
    (h : ofTree (room + 3) t = .ok document) : ∀ d ∈ document.attributes, d.Sound room := by
  have hmaintains : record.Maintains (room + 2) fun draft => ∀ d ∈ draft.getD [], d.Sound room := by
    refine ⟨List.forall_mem_nil _, ?_⟩
    intro key put t draft draft' hfield _ hput
    simp only [record] at hfield
    split at hfield
    · cases hfield
      obtain ⟨-, definitions, hread, rfl⟩ := Record.once_eq_ok_iff.1 hput
      exact Tree.forall_of_asList AttributeDefinition.sound_of_ofTree hread
    · exact nomatch hfield
  obtain ⟨draft, hdraft, hfinish⟩ := hmaintains.read h
  cases hfinish
  exact hdraft

namespace Introspector

variable {r : Resources} {files : List String}

/-- A list at hand holds values whose keys are in order, as all values that
are read do. -/
def Canonical : Introspector → Prop
  | .listed ds => ∀ d ∈ ds, d.Canonical
  | _ => True

/-- The definitions of a document are sound in the room a document leaves
them. -/
theorem sound_of_readFile {path : String} (h : readFile r path = .ok ds) :
    ∀ d ∈ ds, d.Sound 124 := by
  obtain ⟨document, hdocument, rfl⟩ := readFile_eq_ok_iff.1 h
  obtain ⟨bytes, -, hdecode⟩ := Resources.document_eq_ok_iff.1 hdocument
  obtain ⟨t, ht⟩ := exists_tree_of_decodeBytes hdecode
  exact AttributesDocument.sound_of_ofTree ht

theorem canonical_of_definitions {source : Introspector} (hsource : source.Canonical)
    (h : source.definitions r = .ok ds) : ∀ d ∈ ds, d.Canonical := by
  cases source with
  | declared files =>
    obtain ⟨hread, rfl⟩ := definitions_declared_eq_ok_iff.1 h
    rw [List.forall_mem_flatMap]
    intro path hpath
    obtain ⟨attributes, hattributes⟩ := hread path hpath
    rw [attributesIn, hattributes]
    exact fun d hd => (sound_of_readFile hattributes d hd).canonical
  | listed definitions =>
    cases h
    exact hsource
  | unavailable reason => cases h
  | crashing => cases h

end Introspector

/-- An index holds no other definitions than it was built of. -/
theorem AttributeIndex.mem_of_mem_ordered {x : String × List AttributeDefinition}
    (hx : x ∈ (gather ds).ordered.groups) (hd : d ∈ x.2) : d ∈ ds := by
  rw [(mem_ordered_gather_iff.1 hx).2, List.mem_mergeSort, declaredFor] at hd
  exact List.mem_of_mem_filter hd

end AttributeCache
