import AttributeCache.Proofs.Attribute.Record
import AttributeCache.Proofs.Cluster.Invalidation
import AttributeCache.Proofs.Entity.Record
import AttributeCache.Proofs.Json.ReadBack
/-!
# Canonical forms

Many texts say the same: fields stand in any order or without their names,
one goes by two names, what is missing and what is `null` count as one, and
a key that occurs twice counts once. What is written for what was read is
one of these texts, and the one to compare by. That takes no more than that
what is read is sound and what is sound comes back from its record
(`Codec.Lawful`): then it comes back from its text, writing it again changes
nothing, and different values are written differently.

Strings, integers, node names and stamps are read back as they are written.
Of doubles this has to be asked (`exists_not_readsBack`).
-/

namespace AttributeCache

namespace Json

/-- How a type is written and read. -/
structure Codec (α : Type) where
  json : α → Value
  ofTree : Nat → Tree → Except Fault α

namespace Codec

variable {α : Type} {c : Codec α} {Sound ReadsBack : α → Prop}
variable {s s' : Input} {a a' : α} {u : String}

/-- What is written for what a text is read as. -/
def canonicalize (c : Codec α) (s : Input) : Except Fault String :=
  (decode c.ofTree s).map fun a => (c.json a).text

/-- What is read is sound, and comes back from its record in all the room
there is. -/
structure Lawful (c : Codec α) (Sound ReadsBack : α → Prop) : Prop where
  sound : ∀ {t a}, c.ofTree maxDepth t = .ok a → Sound a
  ofTree_tree : ∀ {a}, Sound a → c.ofTree maxDepth (c.json a).tree = .ok a
  /-- The numbers of the record are read back if those of the value are. -/
  readsBack : ∀ {a}, ReadsBack a → (c.json a).ReadsBack

/-- What is written for what was read is a canonical form of the text. -/
structure HasCanonicalForm (c : Codec α) (Sound ReadsBack : α → Prop) : Prop where
  /-- What is read from some text is what is sound. -/
  exists_decode_iff : ∀ a, ReadsBack a → ((∃ s, decode c.ofTree s = .ok a) ↔ Sound a)
  /-- The form is read as what the text was read as. -/
  decodeText_text : ∀ s a, decode c.ofTree s = .ok a → ReadsBack a →
    decodeText c.ofTree (c.json a).text = .ok a
  /-- It is its own canonical form. -/
  idempotent : ∀ s a, decode c.ofTree s = .ok a → ReadsBack a →
    ∃ u, c.canonicalize s = .ok u ∧ c.canonicalize (.ofText u) = .ok u
  /-- It tells what the text was read as. -/
  separates : ∀ s s' a a', decode c.ofTree s = .ok a → decode c.ofTree s' = .ok a' →
    ReadsBack a → ReadsBack a' → (c.canonicalize s = c.canonicalize s' ↔ a = a')

theorem canonicalize_eq (h : decode c.ofTree s = .ok a) :
    c.canonicalize s = .ok (c.json a).text := by
  rw [canonicalize, h, Except.map]

/-- **What is sound comes back from the text written for it.** -/
theorem Lawful.decodeText_text (hc : c.Lawful Sound ReadsBack) (hsound : Sound a)
    (ha : ReadsBack a) : decodeText c.ofTree (c.json a).text = .ok a := by
  rw [decode_text _ _ (hc.readsBack ha)]
  exact hc.ofTree_tree hsound

theorem Lawful.sound_of_decode (hc : c.Lawful Sound ReadsBack) (h : decode c.ofTree s = .ok a) :
    Sound a := by
  obtain ⟨t, ht⟩ := exists_tree_of_decode h
  exact hc.sound ht

/-- **And so the text written is a canonical form** of all that are read
alike. -/
theorem Lawful.hasCanonicalForm (hc : c.Lawful Sound ReadsBack) :
    c.HasCanonicalForm Sound ReadsBack := by
  have hback : ∀ {s a}, decode c.ofTree s = .ok a → ReadsBack a →
      decodeText c.ofTree (c.json a).text = .ok a :=
    fun h ha => hc.decodeText_text (hc.sound_of_decode h) ha
  refine ⟨fun a ha => ?_, fun s a h ha => hback h ha, fun s a h ha => ?_,
    fun s s' a a' h h' ha ha' => ?_⟩
  · constructor
    · rintro ⟨s, h⟩
      exact hc.sound_of_decode h
    · exact fun hsound => ⟨_, hc.decodeText_text hsound ha⟩
  · exact ⟨(c.json a).text, canonicalize_eq h, canonicalize_eq (hback h ha)⟩
  · rw [canonicalize_eq h, canonicalize_eq h', Except.ok.injEq]
    constructor
    · intro htext
      have hread := hback h ha
      rw [htext, hback h' ha'] at hread
      exact (Except.ok.inj hread).symm
    · exact fun ha => congrArg (fun a => (c.json a).text) ha

/-- Whether a text is read as something that is written as `u`, with all its
numbers being read back. -/
def isWrittenAs (c : Codec α) (ReadsBack : α → Prop) [DecidablePred ReadsBack] (u s : String) :
    Bool :=
  (decodeText c.ofTree s).toOption.any fun a => (c.json a).text == u && decide (ReadsBack a)

theorem exists_of_isWrittenAs [DecidablePred ReadsBack] {s : String}
    (h : c.isWrittenAs ReadsBack u s = true) :
    ∃ a, decodeText c.ofTree s = .ok a ∧ (c.json a).text = u ∧ ReadsBack a := by
  rw [isWrittenAs] at h
  cases hread : decodeText c.ofTree s with
  | error e =>
    rw [hread] at h
    exact nomatch h
  | ok a =>
    rw [hread] at h
    have ha : ((c.json a).text == u && decide (ReadsBack a)) = true := h
    rw [Bool.and_eq_true, beq_iff_eq, decide_eq_true_iff] at ha
    exact ⟨a, rfl, ha⟩

/-- Texts that are written alike are read alike. -/
theorem HasCanonicalForm.exists_of_isWrittenAs [DecidablePred ReadsBack] {s s' : String}
    (hc : c.HasCanonicalForm Sound ReadsBack) (h : c.isWrittenAs ReadsBack u s = true)
    (h' : c.isWrittenAs ReadsBack u s' = true) :
    ∃ a, decodeText c.ofTree s = .ok a ∧ decodeText c.ofTree s' = .ok a ∧
      decodeText c.ofTree u = .ok a := by
  obtain ⟨a, hread, htext, ha⟩ := Codec.exists_of_isWrittenAs h
  obtain ⟨a', hread', htext', ha'⟩ := Codec.exists_of_isWrittenAs h'
  have hsame : a = a' := by
    refine (hc.separates _ _ _ _ hread hread' ha ha').1 ?_
    rw [canonicalize_eq hread, canonicalize_eq hread', htext, htext']
  exact ⟨a, hread, hsame ▸ hread', htext ▸ hc.decodeText_text _ _ hread ha⟩

end Codec

end Json

open Json

def Entity.codec : Codec Entity := ⟨Entity.json, Entity.ofTree⟩

def AttributeDefinition.codec : Codec AttributeDefinition :=
  ⟨AttributeDefinition.json, AttributeDefinition.ofTree⟩

def Invalidation.codec : Codec Invalidation := ⟨Invalidation.json, Invalidation.ofTree⟩

instance : DecidablePred Entity.ReadsBack := fun e =>
  decidable_of_iff (e.data.ReadsBack ∧ e.dynamicJson.ReadsBack)
    ⟨fun h => ⟨h.1, h.2⟩, fun h => ⟨h.data, h.dynamic⟩⟩

instance : DecidablePred AttributeDefinition.ReadsBack := fun d =>
  decidable_of_iff (d.default.all (fun v => decide v.ReadsBack) = true) <| by
    rw [Option.all_eq_true, AttributeDefinition.ReadsBack]
    simp

theorem Entity.lawful_codec : Entity.codec.Lawful (Entity.Sound 126) Entity.ReadsBack where
  sound := Entity.sound_of_ofTree
  ofTree_tree h := (Entity.ofTree_tree h.canonical).trans (ifRoom_pos h.fits)
  readsBack := Entity.readsBack_json

theorem AttributeDefinition.lawful_codec :
    AttributeDefinition.codec.Lawful (AttributeDefinition.Sound 126)
      AttributeDefinition.ReadsBack where
  sound := AttributeDefinition.sound_of_ofTree
  ofTree_tree {d} h := by
    obtain ⟨hfits, hnull⟩ := AttributeDefinition.arrives_iff.1 h.arrives
    calc AttributeDefinition.ofTree maxDepth d.json.tree
        = ifRoom (d.Fits 126) d.withoutNull := AttributeDefinition.ofTree_tree h.canonical
      _ = .ok d := by rw [ifRoom_pos hfits, hnull]
  readsBack := AttributeDefinition.readsBack_json

theorem Invalidation.lawful_codec : Invalidation.codec.Lawful (fun _ => True) fun _ => True where
  sound _ := trivial
  ofTree_tree {m} _ := m.ofTree_tree
  readsBack {m} _ := m.readsBack_json

/-- **Entities, definitions and messages have canonical forms.** Whatever
text one is decoded from, what is written for it is decoded as the same
again, is its own canonical form, and is written for no other. Those that
are decoded from some text are all whose values have their keys in order and
go no deeper than 126, a definition's default not being `null`. -/
theorem canonicalForms :
    Entity.codec.HasCanonicalForm (Entity.Sound 126) Entity.ReadsBack ∧
      AttributeDefinition.codec.HasCanonicalForm (AttributeDefinition.Sound 126)
        AttributeDefinition.ReadsBack ∧
      Invalidation.codec.HasCanonicalForm (fun _ => True) fun _ => True :=
  ⟨Entity.lawful_codec.hasCanonicalForm, AttributeDefinition.lawful_codec.hasCanonicalForm,
    Invalidation.lawful_codec.hasCanonicalForm⟩

/-- An array and an object, one with a field that is given twice and the
other with fields that are not asked for; the options by another name and a
`null` for what is missing; a node name in capitals. Each is read as the
text is that is written for both. -/
theorem canonicalForms_shapes :
    (∃ e,
      decodeText Entity.ofTree
        "[\"o-1\",\"Order\",\x7b\"total\":1,\"lines\":[],\"total\":2.50\x7d]" = .ok e ∧
      decodeText Entity.ofTree
        ("\x7b\"data\":\x7b\"lines\":[],\"total\":25e-1\x7d,\"at\":[\"now\"]," ++
          "\"dynamic_attributes\":\x7b\x7d,\"entity_type\":\"Order\",\"id\":\"o-1\"\x7d") = .ok e ∧
      decodeText Entity.ofTree
        ("\x7b\"id\":\"o-1\",\"entity_type\":\"Order\"," ++
          "\"data\":\x7b\"lines\":[],\"total\":2.5\x7d\x7d") = .ok e) ∧
    (∃ d,
      decodeText AttributeDefinition.ofTree
        ("[\"size\",\"Order\",\x7b\"enumeration\":null\x7d," ++
          "null,0,false,null,[\"S\",\"L\"]]") = .ok d ∧
      decodeText AttributeDefinition.ofTree
        ("\x7b\"options\":[\"S\",\"L\"],\"code\":\"size\",\"category\":null," ++
          "\"value_type\":\"enumeration\",\"entity_type\":\"Order\"\x7d") = .ok d ∧
      decodeText AttributeDefinition.ofTree
        ("\x7b\"code\":\"size\",\"entity_type\":\"Order\",\"value_type\":\"enumeration\"," ++
          "\"order_no\":0,\"required\":false,\"enumeration\":[\"S\",\"L\"]\x7d") = .ok d) ∧
    (∃ m,
      decodeText Invalidation.ofTree
        "[\"67E55044-10B1-426F-9247-BB680E5FE0C8\",[7,0]]" = .ok m ∧
      decodeText Invalidation.ofTree
        ("\x7b\"timestamp\":\x7b\"logical\":0,\"wall_time\":7\x7d," ++
          "\"origin\":\"67e5504410b1426f9247bb680e5fe0c8\"\x7d") = .ok m ∧
      decodeText Invalidation.ofTree
        ("\x7b\"origin\":\"67e55044-10b1-426f-9247-bb680e5fe0c8\"," ++
          "\"timestamp\":\x7b\"wall_time\":7,\"logical\":0\x7d\x7d") = .ok m) := by
  obtain ⟨hentity, hdefinition, hmessage⟩ := canonicalForms
  refine ⟨hentity.exists_of_isWrittenAs ?_ ?_, hdefinition.exists_of_isWrittenAs ?_ ?_,
    hmessage.exists_of_isWrittenAs ?_ ?_⟩ <;> decide +kernel

end AttributeCache
