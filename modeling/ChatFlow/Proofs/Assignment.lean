import ChatFlow.Proofs.Channel
import Mathlib.Data.List.Infix

namespace ChatFlow

namespace Keyed

variable {α : Type}

-- where two names go among the others is a matter of their order alone, so that the branches are
-- left to `grind`

theorem insert_insert_self (key : String) (value other : α) (entries : Keyed α) :
    insert key value (insert key other entries) = insert key value entries := by
  induction entries with
  | nil => grind [insert]
  | cons e rest ih => grind [insert]

theorem insert_comm {a b : String} (h : a ≠ b) (v w : α) (entries : Keyed α) :
    insert a v (insert b w entries) = insert b w (insert a v entries) := by
  induction entries with
  | nil => grind [insert]
  | cons e rest ih => grind [insert]

end Keyed

def Json.isList : Json → Bool
  | list _ => true
  | _ => false

namespace Text

theorem exists_eq_of_pieces_append {separator : Char} {cs : List Char} {a b : List (List Char)}
    (h : pieces separator cs = a ++ b) (ha : a ≠ []) (hb : b ≠ []) :
    ∃ front rest, cs = front ++ separator :: rest ∧ pieces separator front = a ∧
      pieces separator rest = b := by
  induction cs generalizing a with
  | nil =>
    obtain ⟨piece, a, rfl⟩ := List.exists_cons_of_ne_nil ha
    obtain ⟨-, hnil⟩ := List.cons.inj h
    exact absurd (List.append_eq_nil_iff.mp hnil.symm).2 hb
  | cons c cs ih =>
    obtain ⟨piece, a, rfl⟩ := List.exists_cons_of_ne_nil ha
    by_cases hc : c = separator
    · rw [pieces, if_pos hc] at h
      obtain ⟨rfl, hcs⟩ := List.cons.inj h
      cases a with
      | nil => exact ⟨[], cs, by rw [hc]; rfl, rfl, hcs⟩
      | cons next a =>
        obtain ⟨front, rest, rfl, hfront, hrest⟩ := ih hcs (List.cons_ne_nil _ _)
        exact ⟨c :: front, rest, rfl, by rw [pieces, if_pos hc, hfront], hrest⟩
    · rw [pieces, if_neg hc] at h
      cases hcs : pieces separator cs with
      | nil => exact absurd hcs (pieces_ne_nil separator cs)
      | cons first more =>
        rw [hcs] at h
        obtain ⟨rfl, rfl⟩ := List.cons.inj h
        obtain ⟨front, rest, rfl, hfront, hrest⟩ := @ih (first :: a) hcs (List.cons_ne_nil _ _)
        exact ⟨c :: front, rest, rfl, by rw [pieces, if_neg hc, hfront], hrest⟩

theorem segments_append_dot (front rest : String) :
    segments (front ++ "." ++ rest) = segments front ++ segments rest := by
  have htoList : (front ++ "." ++ rest).toList = front.toList ++ '.' :: rest.toList := by simp
  rw [segments, htoList, pieces_append, List.map_append]
  rfl

theorem exists_eq_of_segments_append {path : String} {a b : List String}
    (h : segments path = a ++ b) (ha : a ≠ []) (hb : b ≠ []) :
    ∃ front rest, path = front ++ "." ++ rest ∧ segments front = a ∧ segments rest = b := by
  obtain ⟨a, b, hpieces, rfl, rfl⟩ := List.map_eq_append_iff.mp h
  obtain ⟨front, rest, hpath, rfl, rfl⟩ :=
    exists_eq_of_pieces_append hpieces (by simpa using ha) (by simpa using hb)
  refine ⟨.ofList front, .ofList rest, String.toList_injective ?_, ?_, ?_⟩
  · simp [hpath]
  · rw [segments, String.toList_ofList]
  · rw [segments, String.toList_ofList]

end Text

namespace Path

variable {value : Json} {root : Keyed Json} {p q front rest tail : List String}

theorem follow_append (v : Json) (p q : List String) : follow v (p ++ q) = (follow v p).bind
    (follow · q) := by
  induction p generalizing v with
  | nil => rfl
  | cons a p ih =>
    rw [List.cons_append, follow, follow]
    cases step v a with
    | none => rfl
    | some w => exact ih w

/-- What stands behind a step with a value assigned at the end of the steps that are left. -/
def placed (value : Json) (rest : List String) (old : Option Json) : Json :=
  match rest with
  | [] => value
  | _ :: _ => .object (assign value rest (membersOf old))

theorem placed_of_ne_nil (h : rest ≠ []) (old : Option Json) :
    placed value rest old = .object (assign value rest (membersOf old)) := by
  obtain ⟨a, rest, rfl⟩ := List.exists_cons_of_ne_nil h
  rfl

theorem assign_cons (value : Json) (a : String) (rest : List String) (root : Keyed Json) :
    assign value (a :: rest) root =
      Keyed.insert a (placed value rest (Keyed.get? a root)) root := by
  cases rest <;> rfl

theorem follow_object_cons (root : Keyed Json) (a : String) (rest : List String) :
    follow (.object root) (a :: rest) = (Keyed.get? a root).bind (follow · rest) := rfl

theorem follow_assign_cons (value : Json) (a : String) (rest tail : List String)
    (root : Keyed Json) :
    follow (.object (assign value (a :: rest) root)) (a :: tail) =
      follow (placed value rest (Keyed.get? a root)) tail := by
  rw [assign_cons, follow_object_cons, Keyed.get?_insert_self]
  rfl

theorem follow_placed (value : Json) (rest : List String) (old : Option Json) :
    follow (placed value rest old) rest = some value := by
  induction rest generalizing old with
  | nil => rfl
  | cons a rest ih =>
    rw [placed, follow_assign_cons]
    exact ih _

theorem follow_assign_self (value : Json) (h : p ≠ []) (root : Keyed Json) :
    follow (.object (assign value p root)) p = some value := by
  obtain ⟨a, rest, rfl⟩ := List.exists_cons_of_ne_nil h
  rw [follow_assign_cons, follow_placed]

theorem assign_assign_self (value other : Json) (p : List String) (root : Keyed Json) :
    assign value p (assign other p root) = assign value p root := by
  induction p generalizing root with
  | nil => rfl
  | cons a rest ih =>
    have hplaced (old : Option Json) :
        placed value rest (some (placed other rest old)) = placed value rest old := by
      cases rest with
      | nil => rfl
      | cons b rest => exact congrArg Json.object (ih _)
    rw [assign_cons value, assign_cons other, assign_cons value, Keyed.get?_insert_self, hplaced,
      Keyed.insert_insert_self]

/-- Two courses of steps that go the same way up to a place where they part. -/
inductive Parting : List String → List String → Prop
  | here {a b : String} (p q : List String) : a ≠ b → Parting (a :: p) (b :: q)
  | along (a : String) {p q : List String} : Parting p q → Parting (a :: p) (a :: q)

theorem parting_iff : Parting p q ↔ ¬ p <+: q ∧ ¬ q <+: p := by
  constructor
  · intro h
    induction h with
    | here p q hne => simp [List.cons_prefix_cons, hne, hne.symm]
    | along a _ ih => simpa [List.cons_prefix_cons] using ih
  · rintro ⟨hpq, hqp⟩
    induction p generalizing q with
    | nil => exact absurd List.nil_prefix hpq
    | cons a p ih =>
      cases q with
      | nil => exact absurd List.nil_prefix hqp
      | cons b q =>
        by_cases hne : a = b
        · subst hne
          rw [List.prefix_cons_inj] at hpq hqp
          exact .along a (ih hpq hqp)
        · exact .here p q hne

theorem parting_append_iff : Parting (front ++ p) (front ++ q) ↔ Parting p q := by
  simp only [parting_iff, List.prefix_append_right_inj]

theorem Parting.left_ne_nil (h : Parting p q) : p ≠ [] := by
  cases h <;> exact List.cons_ne_nil _ _

theorem Parting.right_ne_nil (h : Parting p q) : q ≠ [] := by
  cases h <;> exact List.cons_ne_nil _ _

/-- Assignments at the ends of two courses that part do not depend on their order. -/
theorem assign_comm (h : Parting p q) (v w : Json) (root : Keyed Json) :
    assign w q (assign v p root) = assign v p (assign w q root) := by
  induction h generalizing root with
  | @here a b p q hne =>
    rw [assign_cons w, assign_cons v, assign_cons v, assign_cons w,
      Keyed.get?_insert_of_ne hne.symm, Keyed.get?_insert_of_ne hne, Keyed.insert_comm hne.symm]
  | @along a p q hparting ih =>
    have hplaced (old : Option Json) :
        placed w q (some (placed v p old)) = placed v p (some (placed w q old)) := by
      simp only [placed_of_ne_nil hparting.left_ne_nil, placed_of_ne_nil hparting.right_ne_nil,
        membersOf, ih]
    rw [assign_cons w, assign_cons v, assign_cons v, assign_cons w, Keyed.get?_insert_self,
      Keyed.get?_insert_self, Keyed.insert_insert_self, Keyed.insert_insert_self, hplaced]

/-- Below a value that is no list nothing is read but the members that it keeps. -/
theorem follow_membersOf {old : Option Json} (h : ∀ items, old ≠ some (.list items)) (hq : q ≠ []) :
    follow (.object (membersOf old)) q = old.bind (follow · q) := by
  obtain ⟨a, q, rfl⟩ := List.exists_cons_of_ne_nil hq
  match old with
  | some (.list items) => exact absurd rfl (h items)
  | some (.object _) | none | some .null | some (.bool _) | some (.number _) | some (.text _) => rfl

/-- Where no list stands on the way that two courses have in common, an assignment at the end of the
one changes nothing at the end of the other. -/
theorem follow_assign_of_parting (h : Parting p q)
    (hlists : ∀ front items, front <+: p → front <+: q →
      follow (.object root) front ≠ some (.list items)) :
    follow (.object (assign value p root)) q = follow (.object root) q := by
  induction h generalizing root with
  | @here a b p q hne =>
    rw [assign_cons, follow_object_cons, Keyed.get?_insert_of_ne hne.symm, follow_object_cons]
  | @along a p q hparting ih =>
    have hnone : ∀ items, Keyed.get? a root ≠ some (.list items) := by
      intro items hget
      exact hlists [a] items (by simp) (by simp) (by rw [follow_object_cons, hget]; rfl)
    rw [follow_assign_cons, placed_of_ne_nil hparting.left_ne_nil, follow_object_cons,
      ← follow_membersOf hnone hparting.right_ne_nil]
    -- the members that are kept have no other lists on the way than the value had
    refine ih fun front items hp hq hfront => ?_
    have hne : front ≠ [] := by
      rintro rfl
      cases hfront
    rw [follow_membersOf hnone hne] at hfront
    exact hlists (a :: front) items (by simpa using hp) (by simpa using hq) hfront

theorem follow_assign_nil (value : Json) (front : List String) (h : rest ≠ []) :
    follow (.object (assign value (front ++ rest) [])) front =
      some (.object (assign value rest [])) := by
  induction front with
  | nil => rfl
  | cons a front ih =>
    rw [List.cons_append, follow_assign_cons, placed_of_ne_nil (by simp [h])]
    exact ih

/-- A list on the way gives way to an object with nothing in it but what is assigned. -/
theorem follow_assign_of_list {items : List Json}
    (hlist : follow (.object root) front = some (.list items)) (h : rest ≠ []) :
    follow (.object (assign value (front ++ rest) root)) front =
      some (.object (assign value rest [])) := by
  induction front generalizing root with
  | nil => cases hlist
  | cons a front ih =>
    rw [List.cons_append, follow_assign_cons, placed_of_ne_nil (by simp [h])]
    obtain ⟨v, hget, hlist⟩ := Option.bind_eq_some_iff.mp hlist
    rw [show Keyed.get? a root = some v from hget]
    cases v with
    | object members => exact ih hlist
    -- from the first value that is no object on, all steps are made anew
    | _ => exact follow_assign_nil value front h

theorem follow_assign_eq_none {items : List Json}
    (hlist : follow (.object root) front = some (.list items)) (h : Parting rest tail) :
    follow (.object (assign value (front ++ rest) root)) (front ++ tail) = none := by
  have hempty : ∀ steps items, follow (.object []) steps ≠ some (.list items) := by
    rintro (_ | ⟨_, _⟩) items hsteps <;> cases hsteps
  rw [follow_append, follow_assign_of_list hlist h.left_ne_nil, Option.bind_some,
    follow_assign_of_parting h fun steps items _ _ => hempty steps items]
  obtain ⟨b, tail, rfl⟩ := List.exists_cons_of_ne_nil h.right_ne_nil
  rfl

/-- Neither of two paths begins with the segments of the other. -/
def Apart (path other : String) : Prop :=
  ¬ Text.segments path <+: Text.segments other ∧ ¬ Text.segments other <+: Text.segments path

instance (path other : String) : Decidable (Apart path other) := inferInstanceAs (Decidable (_ ∧ _))

/-- A list stands where some front part of the path leads. -/
def LeadsThroughList (root : Keyed Json) (path : String) : Prop :=
  ∃ front rest items, path = front ++ "." ++ rest ∧ getIn? root front = some (.list items)

/-- A list stands where some front part of both paths leads. -/
def ShareList (root : Keyed Json) (path other : String) : Prop :=
  ∃ front rest tail items, path = front ++ "." ++ rest ∧ other = front ++ "." ++ tail ∧
    getIn? root front = some (.list items)

variable {path other : String}

theorem ShareList.leadsThroughList (h : ShareList root path other) :
    LeadsThroughList root path := by
  obtain ⟨front, rest, -, items, hpath, -, hlist⟩ := h
  exact ⟨front, rest, items, hpath, hlist⟩

theorem getIn?_eq_follow (root : Keyed Json) (path : String) :
    getIn? root path = follow (.object root) (Text.segments path) := by
  unfold getIn?
  split
  · next head rest hcut =>
    have hrest : Text.segments (.ofList rest) = (Text.pieces '.' rest).map .ofList := by
      rw [Text.segments, String.toList_ofList]
    rw [Text.segments, Text.pieces_eq_of_cutAt hcut, List.map_cons, follow_object_cons, ← hrest]
    rfl
  · next hcut =>
    rw [Text.segments, Text.pieces_eq_singleton hcut, List.map_singleton, String.ofList_toList,
      follow_object_cons]
    cases Keyed.get? path root <;> rfl

theorem getIn?_set_self (h : path ≠ "") (root : Keyed Json) (value : Json) :
    getIn? (set root path value) path = some value := by
  rw [getIn?_eq_follow, set_of_ne_empty h, follow_assign_self value (Text.segments_ne_nil path)]

theorem shareList_of_common {front : List String} {items : List Json} (h : Apart path other)
    (hpath : front <+: Text.segments path) (hother : front <+: Text.segments other)
    (hlist : follow (.object root) front = some (.list items)) : ShareList root path other := by
  have hfront : front ≠ [] := by
    rintro rfl
    cases hlist
  obtain ⟨rest, hrest⟩ := hpath
  obtain ⟨tail, htail⟩ := hother
  have hrest_ne : rest ≠ [] := by
    rintro rfl
    exact h.1 (by rw [← hrest, List.append_nil, ← htail]; exact List.prefix_append _ _)
  have htail_ne : tail ≠ [] := by
    rintro rfl
    exact h.2 (by rw [← htail, List.append_nil, ← hrest]; exact List.prefix_append _ _)
  obtain ⟨front₁, rest, rfl, hfront₁, -⟩ :=
    Text.exists_eq_of_segments_append hrest.symm hfront hrest_ne
  obtain ⟨front₂, tail, rfl, hfront₂, -⟩ :=
    Text.exists_eq_of_segments_append htail.symm hfront htail_ne
  -- a path is known by its segments, so that the two front parts are one
  obtain rfl : front₁ = front₂ := Text.segments_injective (hfront₁.trans hfront₂.symm)
  exact ⟨front₁, rest, tail, items, rfl, rfl, by rw [getIn?_eq_follow, hfront₁, hlist]⟩

theorem getIn?_set_of_apart (h : Apart path other) (hlist : ¬ ShareList root path other)
    (value : Json) :
    getIn? (set root path value) other = getIn? root other := by
  by_cases hpath : path = ""
  · rw [hpath]
    rfl
  · rw [getIn?_eq_follow, getIn?_eq_follow, set_of_ne_empty hpath]
    exact follow_assign_of_parting (parting_iff.mpr h) fun front items hp hq hfront =>
      hlist (shareList_of_common h hp hq hfront)

theorem dotted_ne_empty (front rest : String) : front ++ "." ++ rest ≠ "" := by
  intro h
  have htoList := congrArg String.toList h
  simp at htoList

/-- A list on the way to a path gives way to an object in which only what is left of the path leads
anywhere. -/
theorem getIn?_set_of_list {front : String} {items : List Json}
    (hlist : getIn? root front = some (.list items)) (rest : String) (value : Json) :
    getIn? (set root (front ++ "." ++ rest) value) front =
      some (.object (assign value (Text.segments rest) [])) := by
  rw [getIn?_eq_follow] at hlist ⊢
  rw [set_of_ne_empty (dotted_ne_empty front rest), Text.segments_append_dot]
  exact follow_assign_of_list hlist (Text.segments_ne_nil rest)

theorem getIn?_set_of_shareList (h : Apart path other) (hshare : ShareList root path other)
    (value : Json) :
    getIn? (set root path value) other = none := by
  obtain ⟨front, rest, tail, items, rfl, rfl, hlist⟩ := hshare
  have hparting := parting_iff.mpr h
  rw [Text.segments_append_dot, Text.segments_append_dot, parting_append_iff] at hparting
  rw [getIn?_eq_follow] at hlist ⊢
  rw [set_of_ne_empty (dotted_ne_empty front rest), Text.segments_append_dot,
    Text.segments_append_dot]
  exact follow_assign_eq_none hlist hparting

theorem set_set_self (root : Keyed Json) (path : String) (value other : Json) :
    set (set root path other) path value = set root path value := by
  by_cases hpath : path = ""
  · rw [hpath]
    rfl
  · rw [set_of_ne_empty hpath, set_of_ne_empty hpath, set_of_ne_empty hpath, assign_assign_self]

theorem set_comm (h : Apart path other) (root : Keyed Json) (v w : Json) :
    set (set root path v) other w = set (set root other w) path v := by
  by_cases hpath : path = ""
  · rw [hpath]
    rfl
  by_cases hother : other = ""
  · rw [hother]
    rfl
  rw [set_of_ne_empty hpath, set_of_ne_empty hother, set_of_ne_empty hother, set_of_ne_empty hpath,
    assign_comm (parting_iff.mpr h)]

/-- Whether a list is on the way can be told from the segments. -/
theorem leadsThroughList_iff : LeadsThroughList root path ↔
    ∃ n < (Text.segments path).length,
      (follow (.object root) ((Text.segments path).take n)).any Json.isList = true := by
  constructor
  · rintro ⟨front, rest, items, rfl, hlist⟩
    have hrest := List.length_pos_of_ne_nil (Text.segments_ne_nil rest)
    rw [getIn?_eq_follow] at hlist
    refine ⟨(Text.segments front).length, ?_, ?_⟩
    · rw [Text.segments_append_dot, List.length_append]
      omega
    · rw [Text.segments_append_dot, List.take_left, hlist]
      rfl
  · rintro ⟨n, hn, hany⟩
    obtain ⟨v, hfollow, hlist⟩ := (Option.any_eq_true _ _).mp hany
    have hfront : (Text.segments path).take n ≠ [] := by
      intro hnil
      rw [hnil] at hfollow
      cases hfollow
      cases hlist
    have hrest : (Text.segments path).drop n ≠ [] := by
      rw [← List.length_pos_iff, List.length_drop]
      omega
    obtain ⟨front, rest, hpath, hsegments, -⟩ :=
      Text.exists_eq_of_segments_append (List.take_append_drop n _).symm hfront hrest
    rw [← hsegments, ← getIn?_eq_follow] at hfollow
    cases v with
    | list items => exact ⟨front, rest, items, hpath, hfollow⟩
    | _ => cases hlist

instance (root : Keyed Json) (path : String) : Decidable (LeadsThroughList root path) :=
  decidable_of_iff _ leadsThroughList_iff.symm

/-- What is written at a path is read there; at a path apart from it everything is read as before,
unless a list stands on the way; of two writes to a path only the second counts; and writes to paths
apart from each other may change places. -/
theorem set_laws (root : Keyed Json) {path : String} (hpath : path ≠ "") (other : String)
    (v w : Json) :
    getIn? (set root path v) path = some v ∧
    (Apart path other → ¬ LeadsThroughList root path →
      getIn? (set root path v) other = getIn? root other) ∧
    set (set root path v) path w = set root path w ∧
    (Apart path other → set (set root path v) other w = set (set root other w) path v) := by
  refine ⟨getIn?_set_self hpath root v, ?_, set_set_self root path w v,
    fun hapart => set_comm hapart root v w⟩
  intro hapart hlist
  exact getIn?_set_of_apart hapart (fun hshare => hlist hshare.leadsThroughList) v

/-- A text on the way makes room for an object, and a list beside the way stays. -/
theorem set_laws_order :
    let root : Keyed Json :=
      [("items", .list [.object [("id", .ofNat 7)]]), ("vars", .object [("order", .text "x")])]
    let path := "vars.order.total"
    let other := "items.0.id"
    path ≠ "" ∧ Apart path other ∧ ¬ LeadsThroughList root path ∧
      getIn? (set root path (.ofNat 42)) path = some (.ofNat 42) ∧
      getIn? (set root path (.ofNat 42)) other = getIn? root other ∧
      set (set root path (.ofNat 42)) path (.text "43") = set root path (.text "43") ∧
      set (set root path (.ofNat 42)) other (.text "43") =
        set (set root other (.text "43")) path (.ofNat 42) := by
  intro root path other
  have hpath : path ≠ "" := by decide +kernel
  have hapart : Apart path other := by decide +kernel
  have hlist : ¬ LeadsThroughList root path := by decide +kernel
  obtain ⟨hself, hother, htwice, horder⟩ := set_laws root hpath other (.ofNat 42) (.text "43")
  exact ⟨hpath, hapart, hlist, hself, hother hapart hlist, htwice, horder hapart⟩

/-- An assignment puts an object in the place of each list on its way, with nothing in it but the
rest of the path. At a path apart from its own that leads through the same list nothing is read
any more. So what is read there stays what it was just if nothing was to be read in a list on the
way. -/
theorem lists_give_way (root : Keyed Json) (path : String) (value : Json) :
    (∀ front rest items, path = front ++ "." ++ rest → getIn? root front = some (.list items) →
      getIn? (set root path value) front = some (.object (assign value (Text.segments rest) []))) ∧
    ∀ other, Apart path other →
      (ShareList root path other → getIn? (set root path value) other = none) ∧
      (getIn? (set root path value) other = getIn? root other ↔
        (ShareList root path other → getIn? root other = none)) := by
  refine ⟨?_, fun other hapart => ⟨fun hshare => getIn?_set_of_shareList hapart hshare value, ?_⟩⟩
  · rintro front rest items rfl hlist
    exact getIn?_set_of_list hlist rest value
  · by_cases hshare : ShareList root path other
    · rw [getIn?_set_of_shareList hapart hshare]
      simp [hshare, eq_comm]
    · rw [getIn?_set_of_apart hapart hshare]
      simp [hshare]

def twoItems : Keyed Json :=
  [("items", .list [.object [("id", .ofNat 7)], .object [("id", .ofNat 8)]])]

/-- The other item is lost, and so is the rest of the item that is written to. -/
theorem lists_give_way_twoItems :
    let path := "items.0.name"
    let after := set twoItems path (.text "first")
    getIn? after "items" = some (.object (assign (.text "first") ["0", "name"] [])) ∧
      ∀ other ∈ ["items.0.id", "items.1.id"], Apart path other ∧ ShareList twoItems path other ∧
        getIn? after other = none ∧ getIn? after other ≠ getIn? twoItems other := by
  intro path after
  have hlist : getIn? twoItems "items" =
      some (.list [.object [("id", .ofNat 7)], .object [("id", .ofNat 8)]]) := by decide +kernel
  obtain ⟨hreplaced, hlost⟩ := lists_give_way twoItems path (.text "first")
  refine ⟨hreplaced "items" "0.name" _ rfl hlist, fun other hother => ?_⟩
  have hshare : ShareList twoItems path other := by
    simp only [List.mem_cons, List.not_mem_nil, or_false] at hother
    rcases hother with rfl | rfl
    · exact ⟨"items", "0.name", "0.id", _, rfl, rfl, hlist⟩
    · exact ⟨"items", "0.name", "1.id", _, rfl, rfl, hlist⟩
  have hread : ∀ other ∈ ["items.0.id", "items.1.id"], Apart path other ∧
      getIn? twoItems other ≠ none := by
    decide +kernel
  obtain ⟨hapart, hsome⟩ := hread other hother
  obtain ⟨hnone, hkept⟩ := hlost other hapart
  exact ⟨hapart, hshare, hnone hshare, fun heq => hsome (hkept.mp heq hshare)⟩

/-- Where a list stood with an item at the next segment, no list stands any more. -/
theorem not_list_twoItems :
    getIn? twoItems "items" =
      some (.list [.object [("id", .ofNat 7)], .object [("id", .ofNat 8)]]) ∧
      index? "0" = some 0 ∧
      (¬ ∃ items, getIn? (set twoItems "items.0.id" (.ofNat 9)) "items" = some (.list items)) ∧
      getIn? twoItems "items.1.id" = some (.ofNat 8) ∧
      getIn? (set twoItems "items.0.id" (.ofNat 9)) "items.1.id" = none := by
  have hafter : getIn? (set twoItems "items.0.id" (.ofNat 9)) "items" =
      some (.object [("0", .object [("id", .ofNat 9)])]) := by decide +kernel
  refine ⟨by decide +kernel, by decide +kernel, ?_, by decide +kernel, by decide +kernel⟩
  rintro ⟨items, hitems⟩
  cases hafter.symm.trans hitems

end Path

end ChatFlow
