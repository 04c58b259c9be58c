import ChatFlow.Proofs.Addresses

namespace ChatFlow

namespace Form

/-- The last pair of each key, in the order in which these stand. -/
def lasts : List (String × String) → List (String × String)
  | [] => []
  | p :: rest => if rest.any (·.1 == p.1) then lasts rest else p :: lasts rest

variable {new : List (String × String)} {p : String × String}

theorem merge_eq (pairs new : List (String × String)) :
    merge pairs new = (pairs.filter fun p => !new.any (·.1 == p.1)) ++ lasts new := by
  induction new generalizing pairs with
  | nil => simp [merge, lasts]
  | cons p rest ih =>
    have hmerge : merge pairs (p :: rest) = merge (set pairs p) rest := rfl
    have hkept : ((pairs.filter fun old => old.1 != p.1).filter fun q => !rest.any (·.1 == q.1)) =
        pairs.filter fun q => !(p :: rest).any (·.1 == q.1) := by
      rw [List.filter_filter]
      refine List.filter_congr fun q _ => ?_
      rw [List.any_cons, Bool.not_or, Bool.and_comm, bne, Bool.beq_comm]
    rw [hmerge, ih, set, List.filter_append, hkept, List.append_assoc, lasts]
    refine congrArg _ ?_
    cases hlater : rest.any (·.1 == p.1) <;> simp [hlater]

theorem mem_lasts_cons {q : String × String} {rest : List (String × String)} :
    p ∈ lasts (q :: rest) ↔ p = q ∧ (∀ later ∈ rest, later.1 ≠ p.1) ∨ p ∈ lasts rest := by
  rw [lasts]
  cases hlater : rest.any (·.1 == q.1) with
  | false =>
    have hne : ∀ later ∈ rest, later.1 ≠ q.1 := by simpa [List.any_eq_false] using hlater
    simp only [Bool.false_eq_true, ↓reduceIte, List.mem_cons]
    refine or_congr_left ⟨?_, And.left⟩
    rintro rfl
    exact ⟨rfl, hne⟩
  | true =>
    obtain ⟨later, hmem, hkey⟩ := List.any_eq_true.mp hlater
    simp only [↓reduceIte]
    refine (or_iff_right ?_).symm
    rintro ⟨rfl, hne⟩
    exact hne later hmem (beq_iff_eq.mp hkey)

/-- A pair is the last of its key if none with this key stands behind it. -/
theorem mem_lasts_iff : p ∈ lasts new ↔ ∃ front back, new = front ++ p :: back ∧
    ∀ later ∈ back, later.1 ≠ p.1 := by
  induction new with
  | nil => simp [lasts]
  | cons q rest ih =>
    rw [mem_lasts_cons, ih]
    constructor
    · rintro (⟨rfl, hne⟩ | ⟨front, back, rfl, hne⟩)
      · exact ⟨[], rest, rfl, hne⟩
      · exact ⟨q :: front, back, rfl, hne⟩
    · rintro ⟨_ | ⟨first, front⟩, back, hnew, hne⟩
      · obtain ⟨rfl, rfl⟩ := List.cons.inj hnew
        exact .inl ⟨rfl, hne⟩
      · obtain ⟨-, rfl⟩ := List.cons.inj hnew
        exact .inr ⟨front, back, rfl, hne⟩

theorem lasts_sublist (new : List (String × String)) : (lasts new).Sublist new := by
  induction new with
  | nil => exact .slnil
  | cons p rest ih =>
    rw [lasts]
    split
    · exact ih.cons p
    · exact ih.cons_cons p

theorem nodup_keys_lasts (new : List (String × String)) : ((lasts new).map (·.1)).Nodup := by
  induction new with
  | nil => exact .nil
  | cons p rest ih =>
    rw [lasts]
    split
    · exact ih
    · next hlater =>
      rw [List.map_cons, List.nodup_cons]
      refine ⟨fun hmem => hlater ?_, ih⟩
      obtain ⟨later, hlast, hkey⟩ := List.mem_map.mp hmem
      exact List.any_eq_true.mpr ⟨later, (lasts_sublist rest).subset hlast, beq_iff_eq.mpr hkey⟩

theorem unmarked_print (pairs : List (String × String)) : Url.Unmarked (print pairs).toList := by
  have hencode (s : String) : Url.Unmarked (encode s) :=
    Url.unmarked_of_all (by decide)
      (all_encode (p := fun c => c != '?' && c != '#') (by decide +kernel) s)
  have hequals : Url.Unmarked ['='] := by decide
  rw [print, String.toList_ofList]
  refine Url.unmarked_intercalate (by decide) fun l hl => ?_
  obtain ⟨pair, -, rfl⟩ := List.mem_map.mp hl
  exact Url.unmarked_append.mpr ⟨hencode _, Url.unmarked_append.mpr ⟨hequals, hencode _⟩⟩

end Form

namespace Url

variable {url : Url} {new : List (String × String)}

theorem pairs_withPairs (url : Url) (new : List (String × String)) :
    (url.withPairs new).pairs = Form.merge url.pairs new := by
  unfold withPairs
  split
  · next h =>
    rw [List.isEmpty_iff.mp h]
    rfl
  · exact Form.read_print _

theorem withPairs_of_ne_nil (h : new ≠ []) (url : Url) :
    url.withPairs new = { url with query? := some (Form.print (Form.merge url.pairs new)) } := by
  rw [withPairs, if_neg (mt List.isEmpty_iff.mp h)]

theorem Separable.withPairs (h : url.Separable) (hnew : new ≠ []) :
    (url.withPairs new).Separable := by
  rw [withPairs_of_ne_nil hnew]
  exact ⟨h.scheme, h.user, h.password, h.host, h.path,
    fun _ hquery => Option.some.inj hquery ▸ (Form.unmarked_print _).2⟩

theorem Separable.partsOf_withPairs (h : url.Separable) (hnew : new ≠ []) :
    partsOf (url.withPairs new).text =
      { partsOf url.text with query? := some (Form.print (Form.merge url.pairs new)).toList } := by
  rw [(h.withPairs hnew).partsOf_text, h.partsOf_text, withPairs_of_ne_nil hnew]
  rfl

/-- Pairs are set in the query of an address that was read: those of its pairs whose keys are not
set stay in their order, and the last pair of each key that is set follows, each key once and in the
order of these pairs. Scheme, authority, path and fragment stay what they are, in the address and in
its text, and the query in that text is read as the pairs, since every text that is written into a
query is read back as it was. -/
theorem pairs_set_exactly {s : String} (hurl : ofText s = .ok url) (hnew : new ≠ []) :
    (url.withPairs new).pairs = (url.pairs.filter fun p => !new.any (·.1 == p.1)) ++
      Form.lasts new ∧
      (((Form.lasts new).map (·.1)).Nodup ∧ ∀ p, p ∈ Form.lasts new ↔
        ∃ front back, new = front ++ p :: back ∧ ∀ later ∈ back, later.1 ≠ p.1) ∧
      (∃ query, url.withPairs new = { url with query? := some query } ∧
        partsOf (url.withPairs new).text = { partsOf url.text with query? := some query.toList } ∧
        Form.read query = (url.withPairs new).pairs) ∧
      ∀ text, Form.decode (Form.encode text) = text := by
  have hpairs := pairs_withPairs url new
  refine ⟨hpairs.trans (Form.merge_eq _ _),
    ⟨Form.nodup_keys_lasts new, fun _ => Form.mem_lasts_iff⟩,
    ⟨Form.print (Form.merge url.pairs new), withPairs_of_ne_nil hnew url,
      (separable_ofText hurl).partsOf_withPairs hnew, ?_⟩, Form.decode_encode⟩
  rw [hpairs, Form.read_print]

def shopPage : Url :=
  ⟨"https", "", "", some (.name "api.test"), none, "/items", some "page=1&keep=a+%26+b&page=7",
    some "top"⟩

/-- Keys and values with separators, plus and percent signs and letters beyond ASCII, and a key that
comes twice. -/
theorem pairs_set_exactly_shopPage :
    let new := [("page", "2"), ("q", "a b&c=d#e"), ("page", "3"), ("größe", "100%+")]
    ofText "HTTPS://api.test:443/items?page=1&keep=a+%26+b&page=7#top" = .ok shopPage ∧ new ≠ [] ∧
      (shopPage.withPairs new).pairs =
        [("keep", "a & b"), ("q", "a b&c=d#e"), ("page", "3"), ("größe", "100%+")] ∧
      (shopPage.withPairs new).text = "https://api.test/items?keep=a+%26+b" ++
        "&q=a+b%26c%3Dd%23e&page=3&gr%C3%B6%C3%9Fe=100%25%2B#top" ∧
      ∃ query : String, partsOf (shopPage.withPairs new).text =
        { partsOf shopPage.text with query? := some query.toList } := by
  intro new
  have hurl : ofText "HTTPS://api.test:443/items?page=1&keep=a+%26+b&page=7#top" =
      .ok shopPage := by decide +kernel
  have hnew : new ≠ [] := by decide
  obtain ⟨hpairs, -, ⟨query, -, hparts, -⟩, -⟩ := pairs_set_exactly hurl hnew
  refine ⟨hurl, hnew, hpairs.trans (by decide +kernel), by decide +kernel, query, hparts⟩

end Url

end ChatFlow
