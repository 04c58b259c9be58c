import ChatFlow.Proofs.Blocks
import ChatFlow.Proofs.Handler
import ChatFlow.Proofs.LowerCase
import ChatFlow.Proofs.Merging

namespace ChatFlow

namespace Form

variable {pairs front back : List (String × String)} {key value : String}

/-- What is kept by a test that no new key passes, was there before. -/
theorem filter_merge {new : List (String × String)} (keep : String → Bool)
    (h : ∀ p ∈ new, keep p.1 = false) :
    (merge pairs new).filter (fun p => keep p.1) = pairs.filter fun p => keep p.1 := by
  have hlasts : (lasts new).filter (fun p => keep p.1) = [] :=
    List.filter_eq_nil_iff.mpr fun p hp =>
      Bool.eq_false_iff.mp (h p ((lasts_sublist new).subset hp))
  rw [merge_eq, List.filter_append, List.filter_filter, hlasts, List.append_nil]
  refine List.filter_congr fun p _ => ?_
  cases hkeep : keep p.1 with
  | false => rfl
  | true =>
    have hnew : new.any (·.1 == p.1) = false := by
      rw [List.any_eq_false]
      intro q hq hkey
      rw [← beq_iff_eq.mp hkey, h q hq] at hkeep
      cases hkeep
    rw [hnew]
    rfl

theorem filter_merge_last (h : ∀ p ∈ back, p.1 ≠ key) :
    (merge pairs (front ++ (key, value) :: back)).filter (fun p => p.1 == key) =
      [(key, value)] := by
  have hmerge : merge pairs (front ++ (key, value) :: back) =
      merge (set (merge pairs front) (key, value)) back := by
    rw [merge, List.foldl_append, List.foldl_cons]
    rfl
  have hback : ∀ p ∈ back, (p.1 == key) = false := fun p hp => beq_eq_false_iff_ne.mpr (h p hp)
  rw [hmerge, filter_merge (· == key) hback, set, List.filter_append, List.filter_filter]
  simp

end Form

namespace Template

/-- The pairs of a block in the author's spelling, blanks around keys and values aside; a pair
without a key is none. -/
def written (block : Option Json) : List (String × String) :=
  ((rawPairs block).map fun e => (Text.trim e.1, Text.trim e.2)).filter fun e => !e.1.isEmpty

def keysSet (block : Option Json) : List String := (written block).map fun e => Text.toLower e.1

theorem pairs_eq_map_written (context : Context) (block : Option Json) :
    pairs context block = (written block).map fun e => (Text.toLower e.1, apply context e.2) := by
  have hkey : ∀ s : String, (Text.toLower s).isEmpty = s.isEmpty := by
    intro s
    rw [Bool.eq_iff_iff, String.isEmpty_iff, String.isEmpty_iff, Text.toLower_eq_empty_iff]
  simp only [pairs_eq, written, List.filter_map, List.map_map]
  have hsame : (rawPairs block).filter ((fun e => !e.1.isEmpty) ∘ settled context) =
      (rawPairs block).filter
        ((fun e => !e.1.isEmpty) ∘ fun e => (Text.trim e.1, Text.trim e.2)) := by
    apply List.filter_congr
    intro e _
    simp only [Function.comp_apply, settled, hkey]
  rw [hsame]
  apply List.map_congr_left
  intro e _
  simp only [Function.comp_apply, settled]

end Template

namespace Node

variable {settings : Settings} {sink : Sink} {node : Node} {context : Context} {request : Request}
  {next : Reply → Activity NodeResult}

theorem url_of_request (h : node.request settings context = .ok request) :
    ∃ url, Url.ofText (Text.trim (Template.applyValue context (node.field? "url"))) = .ok url ∧
      request.url = url.withPairs (Template.pairs context (node.field? "query")) := by
  unfold Node.request at h
  dsimp only at h
  split at h
  · cases h
  · cases hurl : Url.ofText (Text.trim (Template.applyValue context (node.field? "url"))) with
    | error defect => simp [hurl, bind, Except.bind, throw, throwThe, MonadExceptOf.throw] at h
    | ok url =>
      simp only [hurl, bind, Except.bind, pure, Except.pure] at h
      cases h
      exact ⟨url, rfl, rfl⟩

/-- If a run begins with a request, that is the request of the node. -/
theorem request_of_run (h : node.run settings sink context = .call (.send request) next) :
    node.request settings context = .ok request := by
  have hapi : node.apiRequest settings context = .call (.send request) next := by
    unfold run at h
    split at h
    · unfold handle at h
      cases hkind : node.kind with
      | apiRequest =>
        rw [hkind] at h
        exact h
      | sendMessage =>
        rw [hkind] at h
        dsimp only at h
        unfold sendMessage at h
        split at h <;> cases h
      | humanTakeover =>
        rw [hkind] at h
        dsimp only at h
        unfold takeOver at h
        split at h <;> cases h
      | _ =>
        rw [hkind] at h
        cases h
    · cases h
    · cases h
  unfold apiRequest at hapi
  split at hapi
  · cases hapi
  · next asked hasked =>
    split at hapi
    · cases hapi
    · cases hapi
      exact hasked

theorem run_of_request (hrefusal : node.refusal? = none) (hkind : node.kind = .apiRequest)
    (hrequest : node.request settings context = .ok request) (hsendable : request.isSendable) :
    ∃ next, node.run settings sink context = .call (.send request) next := by
  have hrun : node.run settings sink context = node.apiRequest settings context := by
    simp only [run, hrefusal, handle, hkind]
  rw [hrun, apiRequest]
  simp only [hrequest, hsendable, Bool.not_true, Bool.false_eq_true, ↓reduceIte]
  exact ⟨_, rfl⟩

/-- The query that is sent has each key of the node's block, in lower case, exactly once: with the
value of the last line of this key, placeholders replaced. The pairs of the address whose keys the
block does not set are kept in order, and no others are added. -/
theorem query_keys_replaced (h : node.run settings sink context = .call (.send request) next) :
    ∃ url, Url.ofText (Text.trim (Template.applyValue context (node.field? "url"))) = .ok url ∧
      (∀ front key value back, Template.written (node.field? "query") =
        front ++ (key, value) :: back →
        (∀ later ∈ back, Text.toLower later.1 ≠ Text.toLower key) →
        (request.url.pairs.filter fun p => p.1 == Text.toLower key) =
          [(Text.toLower key, Template.apply context value)]) ∧
      (request.url.pairs.filter fun p => !(Template.keysSet (node.field? "query")).contains p.1) =
        url.pairs.filter fun p => !(Template.keysSet (node.field? "query")).contains p.1 := by
  obtain ⟨url, hurl, hrequest⟩ := url_of_request (request_of_run h)
  refine ⟨url, hurl, ?_, ?_⟩
  · intro front key value back hwritten hlast
    rw [hrequest, Url.pairs_withPairs, Template.pairs_eq_map_written, hwritten, List.map_append,
      List.map_cons]
    apply Form.filter_merge_last
    intro p hp
    obtain ⟨later, hlater, rfl⟩ := List.mem_map.mp hp
    exact hlast later hlater
  · rw [hrequest, Url.pairs_withPairs]
    refine Form.filter_merge (fun key => !(Template.keysSet (node.field? "query")).contains key) ?_
    intro p hp
    rw [Template.pairs_eq_map_written] at hp
    obtain ⟨e, he, rfl⟩ := List.mem_map.mp hp
    have hset : Text.toLower e.1 ∈ Template.keysSet (node.field? "query") :=
      List.mem_map.mpr ⟨e, he, rfl⟩
    rw [List.contains_iff_mem.mpr hset]
    rfl

/-- A node that asks for the second page of a list; the address names other pages, in capital and in
small letters. -/
def pageTwo : Node :=
  ⟨"ask", .apiRequest, [("query", .text "Page=1\npage=2\n For =\x7b\x7bcontact.wa_id\x7d\x7d"),
    ("url", .text "http://shop/items?Page=7&sort=a+b&page=8")]⟩

def pageTwoRequest : Request where
  method := "GET"
  url := ⟨"http", "", "", some (.name "shop"), none, "/items",
    some "Page=7&sort=a+b&page=2&for=5511", none⟩
  headers := []
  body := ""
  timeout := 15000

theorem run_pageTwo :
    ∃ next, pageTwo.run ⟨.strict, 100, 15000⟩ .collector (.ofChannel "5511") =
      .call (.send pageTwoRequest) next :=
  run_of_request (by decide +kernel) rfl (by decide +kernel) (by decide +kernel)

/-- The key is replaced in small letters only, and its line in capital letters is not the last. -/
theorem query_keys_replaced_pageTwo :
    ∃ next, pageTwo.run ⟨.strict, 100, 15000⟩ .collector (.ofChannel "5511") =
      .call (.send pageTwoRequest) next ∧
      pageTwoRequest.url.pairs.filter (fun p => p.1 == "page") = [("page", "2")] ∧
      pageTwoRequest.url.pairs.filter (fun p => !(["page", "page", "for"].contains p.1)) =
        [("Page", "7"), ("sort", "a b")] := by
  obtain ⟨next, hrun⟩ := run_pageTwo
  obtain ⟨url, hurl, honce, hkept⟩ := query_keys_replaced hrun
  have haddress : Text.trim (Template.applyValue (.ofChannel "5511") (pageTwo.field? "url")) =
      "http://shop/items?Page=7&sort=a+b&page=8" := by decide +kernel
  have hpairs : (Url.ofText "http://shop/items?Page=7&sort=a+b&page=8").toOption.map Url.pairs =
      some [("Page", "7"), ("sort", "a b"), ("page", "8")] := by decide +kernel
  have hkeys : Template.keysSet (pageTwo.field? "query") = ["page", "page", "for"] := by
    decide +kernel
  have hpage :=
    honce [("Page", "1")] "page" "2" [("For", "\x7b\x7bcontact.wa_id\x7d\x7d")] (by decide +kernel)
    (by decide +kernel)
  have hlower : Text.toLower "page" = "page" := by decide +kernel
  have hvalue : Template.apply (.ofChannel "5511") "2" = "2" := by decide +kernel
  rw [haddress] at hurl
  rw [hurl] at hpairs
  have hurlPairs : url.pairs = [("Page", "7"), ("sort", "a b"), ("page", "8")] :=
    Option.some.inj hpairs
  rw [hlower, hvalue] at hpage
  rw [hkeys, hurlPairs] at hkept
  exact ⟨next, hrun, hpage, hkept.trans (by decide +kernel)⟩

/-- A key in capital letters is not replaced: `Page` still has the value of the address, and not
that of its last line. -/
theorem not_replaced_as_written :
    ¬ ∀ (settings : Settings) (sink : Sink) (node : Node) (context : Context) (request : Request)
      (next : Reply → Activity NodeResult), node.run settings sink context =
        .call (.send request) next →
      ∀ front key value back, Template.written (node.field? "query") =
        front ++ (key, value) :: back →
        (∀ later ∈ back, later.1 ≠ key) →
        (request.url.pairs.filter fun p => p.1 == key) = [(key, Template.apply context value)] := by
  intro hreplaced
  obtain ⟨next, hrun⟩ := run_pageTwo
  have hpage := hreplaced _ _ _ _ _ next hrun [] "Page" "1"
    [("page", "2"), ("For", "\x7b\x7bcontact.wa_id\x7d\x7d")]
    (by decide +kernel) (by decide +kernel)
  have hsent : pageTwoRequest.url.pairs.filter (fun p => p.1 == "Page") = [("Page", "7")] := by
    decide +kernel
  have hvalue : Template.apply (.ofChannel "5511") "1" = "1" := by decide +kernel
  rw [hsent, hvalue] at hpage
  revert hpage
  decide

end Node

end ChatFlow
