import AttributeCache.Http.Router
import AttributeCache.Proofs.Stamp.Text
import AttributeCache.Proofs.Text.Utf8
/-!
# The stamp a caller names is the stamp it is taken at

A request for what is later than a stamp carries the text of that stamp
behind the path as it is. What might be in the way is not in it: no host,
no fragment, no second pair, no plus sign and no percent form. The colon of
the stamp looks like the one behind a scheme, but a scheme has no slash.
-/

namespace AttributeCache

namespace Text

variable {s : List Char}

/-- What has no percent sign is its own percent form. -/
theorem percentDecode_plain (h : '%' ∉ s) : percentDecode s = encode (String.ofList s) := by
  rw [encode_eq, String.toList_ofList]
  induction s with
  | nil => rw [percentDecode, List.flatMap_nil]
  | cons c rest ih =>
    rw [List.mem_cons, not_or] at h
    rw [percentDecode, ih h.2, encode_eq, List.flatMap_cons]
    · simp
    · rintro a b rest' rfl
      exact absurd rfl h.1

theorem decodeLossy_encode (x : String) : decodeLossy (encode x) = x := by
  rw [decodeLossy, decode_encode, List.map_map]
  simp

end Text

namespace Http

variable {c : Char} {s : List Char} {r : Request} {name value : String}

/-! ## Plain characters -/

/-- The characters that mean something in a path or a query. -/
def isReserved (c : Char) : Bool :=
  ['?', '#', '&', '=', '+', '%'].contains c

/-- A text that holds none of them. -/
def Plain (s : List Char) : Prop :=
  ∀ c ∈ s, isReserved c = false

instance : Decidable (Plain s) :=
  List.decidableBAll _ s

theorem Plain.not_mem (h : Plain s) (hc : isReserved c = true) : c ∉ s := fun hmem => by
  rw [h c hmem] at hc
  exact Bool.false_ne_true hc

theorem isReserved_of_isDigit (h : c.isDigit = true) : isReserved c = false := by
  rw [isReserved, List.contains_eq_mem, decide_eq_false_iff_not]
  intro hmem
  simp only [List.mem_cons, List.not_mem_nil, or_false] at hmem
  rcases hmem with rfl | rfl | rfl | rfl | rfl | rfl <;> exact absurd h (by decide)

theorem plain_text (stamp : Stamp) : Plain stamp.text.toList := by
  intro c hc
  rcases Stamp.mem_text hc with h | rfl
  · exact isReserved_of_isDigit h
  · rfl

/-! ## Names and values -/

/-- **What is written plainly is read as it is.** -/
theorem decodeComponent_plain (h : Plain s) : decodeComponent s = String.ofList s := by
  have hblank : plusToBlank s = s := by
    rw [plusToBlank, List.map_congr_left (g := id), List.map_id]
    intro c hc
    rw [if_neg (by rintro rfl; exact h.not_mem rfl hc), id]
  rw [decodeComponent, hblank, Text.percentDecode_plain (h.not_mem rfl), Text.decodeLossy_encode]

/-- A query of one plain pair. -/
theorem queryValues_single (hname : Plain name.toList) (hvalue : Plain value.toList) :
    queryValues (name ++ "=" ++ value) name = [value] := by
  have hlist : (name ++ "=" ++ value).toList = name.toList ++ '=' :: value.toList := by
    simp
  have hpieces : Text.splitWhere (· == '&') (name ++ "=" ++ value).toList =
      [(name ++ "=" ++ value).toList] := by
    refine Text.splitWhere_eq_singleton fun c hc => beq_eq_false_iff_ne.2 ?_
    rintro rfl
    rw [hlist, List.mem_append, List.mem_cons] at hc
    rcases hc with hc | hc | hc
    · exact hname.not_mem rfl hc
    · exact absurd hc (by decide)
    · exact hvalue.not_mem rfl hc
  have hcut : Text.cut '=' (name ++ "=" ++ value).toList = some (name.toList, value.toList) := by
    rw [hlist, Text.cut_append (hname.not_mem rfl)]
  have hne : (name ++ "=" ++ value).toList.isEmpty = false := by
    rw [hlist]
    simp
  have hpairs : queryPairs (name ++ "=" ++ value) = [(name, value)] := by
    rw [queryPairs, hpieces, List.filter_singleton, hne, Bool.not_false, cond_true,
      List.map_singleton]
    simp only [hcut, decodeComponent_plain hname, decodeComponent_plain hvalue,
      String.ofList_toList]
  rw [queryValues, hpairs]
  simp

/-! ## Targets -/

/-- A slash in front of everything is no scheme. -/
theorem withoutHost_slash (s : List Char) : withoutHost ('/' :: s) = '/' :: s := by
  rw [withoutHost, Text.cut, if_neg (by decide)]
  cases Text.cut ':' s with
  | none => rfl
  | some halves =>
    obtain ⟨before, after⟩ := halves
    rw [Option.map_some]
    split
    · rename_i scheme rest heq
      have hscheme : scheme.all isSchemeChar = false := by
        cases heq
        rfl
      rw [hscheme]
      rfl
    · rfl

/-- **A path and a query come back from the target**, if nothing in them is
taken for something else. -/
theorem path_query {path query : String} (htarget : r.target = path ++ "?" ++ query)
    (hslash : path.toList.head? = some '/') (hpath : Plain path.toList)
    (hquery : '#' ∉ query.toList) : r.path = path ∧ r.query = query := by
  obtain ⟨p, hp⟩ : ∃ p, path.toList = '/' :: p := List.head?_eq_some_iff.1 hslash
  have hlist : r.target.toList = path.toList ++ '?' :: query.toList := by
    rw [htarget]
    simp
  have hhost : withoutHost r.target.toList = r.target.toList := by
    rw [hlist, hp, List.cons_append, withoutHost_slash]
  have hplain : r.plainTarget = path.toList ++ '?' :: query.toList := by
    rw [Request.plainTarget, hhost, hlist, List.takeWhile_eq_self_iff]
    intro c hc
    rw [bne_iff_ne]
    rintro rfl
    rw [List.mem_append, List.mem_cons] at hc
    rcases hc with hc | hc | hc
    · exact hpath.not_mem rfl hc
    · exact absurd hc (by decide)
    · exact hquery hc
  have hmark : ∀ c ∈ path.toList, (c != '?') = true := by
    intro c hc
    rw [bne_iff_ne]
    rintro rfl
    exact hpath.not_mem rfl hc
  rw [Request.path, Request.query, hplain, List.takeWhile_append_of_pos hmark,
    List.dropWhile_append_of_pos hmark]
  simp

/-! ## Asking for what is later -/

/-- Asks for the snapshot if it is later than the stamp, and for any
snapshot without one. -/
def Request.newerThan : Option Stamp → Request
  | none => { method := "GET", target := Route.attributes.path }
  | some stamp => { method := "GET", target := Route.attributes.path ++ "?since=" ++ stamp.text }

/-- The path and the query are what was put together. -/
theorem newerThan_some (stamp : Stamp) :
    (Request.newerThan (some stamp)).path = Route.attributes.path ∧
      (Request.newerThan (some stamp)).query = "since" ++ "=" ++ stamp.text := by
  have hhash : '#' ∉ ("since" ++ "=" ++ stamp.text).toList := by
    rw [String.toList_append, List.mem_append, not_or]
    exact ⟨by decide, (plain_text stamp).not_mem rfl⟩
  refine path_query ?_ (by decide) (by decide) hhash
  have hmark : "?since=" = "?" ++ ("since" ++ "=") := by decide
  rw [Request.newerThan, hmark]
  simp only [String.append_assoc]

theorem path_newerThan (since : Option Stamp) :
    (Request.newerThan since).path = Route.attributes.path := by
  cases since with
  | none => decide
  | some stamp => exact (newerThan_some stamp).1

/-- **The stamp named is the stamp taken.** -/
theorem sinceOf_newerThan (since : Option Stamp) :
    sinceOf (.newerThan since) = .ok (since.getD Stamp.epoch) := by
  cases since with
  | none =>
    have hnone : queryValues (Request.newerThan none).query "since" = [] := by
      decide +kernel
    rw [sinceOf, hnone]
    rfl
  | some stamp =>
    rw [sinceOf, (newerThan_some stamp).2, queryValues_single (by decide) (plain_text stamp)]
    dsimp only
    rw [Stamp.parse_text]
    rfl

/-- The answer to a client, by what is new to it. -/
def Response.ofNewer : Option Snapshot → Response
  | some snapshot => .ofValue snapshot.json
  | none => .ofStatus 304

/-- **What is answered**: the snapshot if it is later, and else that there
is nothing new. The node stays as it is. -/
theorem handle_newerThan (now : UInt64) (n : Node) (since : Option Stamp) :
    handle now n (.newerThan since) =
      (n, .ofNewer (n.manager.newerThan? (since.getD Stamp.epoch))) := by
  have hmethod : (Request.newerThan since).method = "GET" := by cases since <;> rfl
  have hroute : Route.ofPath? Route.attributes.path = some .attributes := by decide
  rw [handle, path_newerThan, hroute, hmethod]
  cases hnewer : n.manager.newerThan? (since.getD Stamp.epoch) <;>
    simp only [getAttributes, sinceOf_newerThan, hnewer, Response.ofNewer]

end Http

end AttributeCache
