import ChatFlow.Proofs.Queries

namespace ChatFlow.Template

def keyed (members : Keyed Json) : Keyed Json := members.filter fun e => !(Text.trim e.1).isEmpty

/-- A member as it is used, with the given text in the place of `null`. -/
def used (context : Context) (unset : String) (e : String × Json) : String × String :=
  (Text.toLower (Text.trim e.1),
    if e.2 = .null then unset else apply context (Text.trim (Coercion.text e.2)))

variable {context : Context} {members : Keyed Json}

theorem mem_keyed_iff {e : String × Json} : e ∈ keyed members ↔
    e ∈ members ∧ Text.trim e.1 ≠ "" := by
  rw [keyed, List.mem_filter, Bool.not_eq_true', ← Bool.not_eq_true, String.isEmpty_iff]

theorem used_eq_iff {a b : String} {e : String × Json} : used context a e = used context b e ↔
    (e.2 = .null → a = b) := by
  rw [used, used, Prod.mk.injEq, and_iff_right rfl]
  by_cases hnull : e.2 = .null
  · rw [if_pos hnull, if_pos hnull]
    exact (imp_iff_right hnull).symm
  · rw [if_neg hnull, if_neg hnull]
    exact iff_of_true rfl fun h => absurd h hnull

/-- Blocks that are read as the keys of members with their values as running text, `null` perhaps
aside. -/
theorem pairs_eq_map_used {block : Option Json} {shown : Json → String}
    (hraw : rawPairs block = members.map fun e => (e.1, shown e.2))
    (hshown : ∀ v, v ≠ .null → shown v = Coercion.text v) :
    pairs context block =
      (keyed members).map (used context (apply context (Text.trim (shown .null)))) := by
  rw [pairs_eq_map_written, written, hraw, List.map_map, List.filter_map, List.map_map]
  simp only [keyed, Function.comp_def]
  refine List.map_congr_left fun e _ => ?_
  rw [used]
  by_cases hnull : e.2 = .null
  · rw [if_pos hnull, hnull]
  · rw [if_neg hnull, hshown e.2 hnull]

theorem itemText_of_ne {v : Json} (h : v ≠ .null) : itemText v = Coercion.text v := by
  cases v with
  | null => exact absurd rfl h
  | _ => rfl

theorem pairs_object (context : Context) (members : Keyed Json) :
    pairs context (some (.object members)) = (keyed members).map (used context "null") := by
  have hraw :
      rawPairs (some (.object members)) = members.map fun e => (e.1, Coercion.text e.2) := rfl
  have htrim : Text.trim (Coercion.text .null) = "null" := by decide +kernel
  rw [pairs_eq_map_used hraw fun _ _ => rfl, htrim, apply_of_not_infix (by decide +kernel)]

theorem pairs_memberItems (context : Context) (members : Keyed Json) :
    pairs context (some (.list (members.map memberItem))) =
      (keyed members).map (used context "") := by
  have hraw :
      rawPairs (some (.list (members.map memberItem))) = members.map fun e => (e.1, itemText e.2) :=
    filterMap_map_of_eq_some fun e _ => pairOfItem_memberItem e
  have htrim : Text.trim (itemText .null) = "" := by decide +kernel
  rw [pairs_eq_map_used hraw fun _ => itemText_of_ne, htrim, apply_of_not_infix (by decide +kernel)]

/-- An object and the list of its members, key by key, are used as the same pairs if and only if no
member with a key is `null`. Both have the keys of the members in their order, and the same value
wherever that is not `null`; where it is, the list has no text and the object the text `null`. -/
theorem objects_agree_iff (context : Context) (members : Keyed Json) :
    (pairs context (some (.object members)) =
      pairs context (some (.list (members.map memberItem))) ↔
      ∀ key, (key, Json.null) ∈ members → Text.trim key = "") ∧
    pairs context (some (.object members)) = (keyed members).map (used context "null") ∧
    pairs context (some (.list (members.map memberItem))) =
      (keyed members).map (used context "") := by
  refine ⟨?_, pairs_object context members, pairs_memberItems context members⟩
  rw [pairs_object, pairs_memberItems, List.map_inj_left]
  constructor
  · intro hsame key hmem
    by_contra hkey
    have hunset := used_eq_iff.mp (hsame (key, .null) (mem_keyed_iff.mpr ⟨hmem, hkey⟩)) rfl
    revert hunset
    decide
  · rintro hnone ⟨key, value⟩ he
    obtain ⟨hmem, hkey⟩ := mem_keyed_iff.mp he
    refine used_eq_iff.mpr fun hnull => absurd (hnone key ?_) hkey
    rwa [← show value = .null from hnull]

example :
    let members := [("Count", .ofInt 2), ("Empty", .text " "), ("Flag", .bool true),
      ("List", .list [.null]), (" ", .null)]
    pairs .empty (some (.object members)) =
      [("count", "2"), ("empty", ""), ("flag", "true"), ("list", "[null]")] := by
  decide +kernel

/-- A query with an open page: as an object it asks for the page `null`, as a list for the page
without a text. -/
theorem not_alike_openPage : ¬ ∀ (context : Context) (members : Keyed Json),
    pairs context (some (.object members)) =
      pairs context (some (.list (members.map memberItem))) := by
  intro halike
  have hobject : pairs .empty (some (.object [("page", .null)])) = [("page", "null")] := by
    decide +kernel
  have hlist : pairs .empty (some (.list ([("page", .null)].map memberItem))) = [("page", "")] := by
    decide +kernel
  have hpage := halike .empty [("page", .null)]
  rw [hobject, hlist] at hpage
  revert hpage
  decide

end ChatFlow.Template
