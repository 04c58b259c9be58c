import ChatFlow.Template
import Mathlib.Data.List.Infix
import Mathlib.Data.List.TakeWhile
import Mathlib.Data.Nat.Find

namespace ChatFlow

namespace Text

theorem contains_iff {part cs : List Char} : contains part cs = true ↔ part <:+: cs := by
  induction cs with
  | nil => simp [contains]
  | cons c rest ih =>
    rw [contains, Bool.or_eq_true, List.isPrefixOf_iff_prefix, ih, List.infix_cons_iff]

end Text

namespace Template

/-- What can stand between the braces of a placeholder: one or more characters other than a closing
brace. -/
def IsInner (inner : List Char) : Prop := inner ≠ [] ∧ '\x7d' ∉ inner

def placeholder (inner : List Char) : List Char := '\x7b' :: '\x7b' :: (inner ++ ['\x7d', '\x7d'])

def Plain (cs : List Char) : Prop := ∀ before inner after, IsInner inner →
    cs ≠ before ++ placeholder inner ++ after

def front? : List Char → Option (List Char × List Char)
  | '\x7b' :: '\x7b' :: rest => inner? rest
  | _ => none

theorem inner?_eq_some_iff {cs inner rest : List Char} :
    inner? cs = some (inner, rest) ↔ IsInner inner ∧ cs = inner ++ '\x7d' :: '\x7d' :: rest := by
  constructor
  · intro h
    have hsplit := cs.takeWhile_append_dropWhile (p := (· ≠ '\x7d'))
    have hinside := @List.mem_takeWhile_imp _ (· ≠ '\x7d') cs
    unfold inner? at h
    split at h
    · next c path rest' htake hdrop =>
      cases h
      rw [htake] at hinside
      rw [htake, hdrop] at hsplit
      refine ⟨⟨List.cons_ne_nil _ _, fun hmem => ?_⟩, hsplit.symm⟩
      simpa using hinside hmem
    · cases h
  · rintro ⟨⟨hne, hnot⟩, rfl⟩
    have hpos : ∀ c ∈ inner, decide (c ≠ '\x7d') = true := by
      intro c hc
      simp only [ne_eq, decide_not, Bool.not_eq_true', decide_eq_false_iff_not]
      rintro rfl
      exact hnot hc
    have htake : (inner ++ '\x7d' :: '\x7d' :: rest).takeWhile (· ≠ '\x7d') = inner := by
      rw [List.takeWhile_append_of_pos hpos]
      simp
    have hdrop : (inner ++ '\x7d' :: '\x7d' :: rest).dropWhile (· ≠ '\x7d') =
        '\x7d' :: '\x7d' :: rest := by
      rw [List.dropWhile_append_of_pos hpos]
      simp
    obtain ⟨c, path, rfl⟩ := List.exists_cons_of_ne_nil hne
    unfold inner?
    rw [htake, hdrop]
    rfl

theorem front?_eq_some_iff {cs inner rest : List Char} :
    front? cs = some (inner, rest) ↔ IsInner inner ∧ cs = placeholder inner ++ rest := by
  unfold front?
  split
  · next more =>
    rw [inner?_eq_some_iff]
    simp [placeholder]
  · next hcs =>
    refine iff_of_false nofun ?_
    rintro ⟨-, rfl⟩
    exact hcs _ rfl

theorem front?_placeholder {inner : List Char} (h : IsInner inner) (rest : List Char) :
    front? (placeholder inner ++ rest) = some (inner, rest) :=
  front?_eq_some_iff.mpr ⟨h, rfl⟩

theorem plain_iff {cs : List Char} : Plain cs ↔ ∀ tail ∈ cs.tails, front? tail = none := by
  constructor
  · intro h tail htail
    obtain ⟨before, rfl⟩ := (List.mem_tails _ _).mp htail
    rw [Option.eq_none_iff_forall_ne_some]
    rintro ⟨inner, after⟩ hfront
    obtain ⟨hinner, rfl⟩ := front?_eq_some_iff.mp hfront
    exact h before inner after hinner (List.append_assoc _ _ _).symm
  · rintro h before inner after hinner rfl
    have hmem : placeholder inner ++ after ∈ (before ++ placeholder inner ++ after).tails := by
      rw [List.mem_tails, List.append_assoc]
      exact List.suffix_append _ _
    cases (h _ hmem).symm.trans (front?_placeholder hinner after)

instance (cs : List Char) : Decidable (Plain cs) := decidable_of_iff _ plain_iff.symm

theorem plain_of_not_contains {cs : List Char} (h : ¬ Text.contains ['\x7b', '\x7b'] cs = true) :
    Plain cs := by
  rintro before inner after - rfl
  exact h
    (Text.contains_iff.mpr ⟨before, inner ++ ['\x7d', '\x7d'] ++ after, by simp [placeholder]⟩)

variable {c : Context}

theorem expand_placeholder {inner : List Char} (h : IsInner inner) (rest : List Char) :
    expand c (placeholder inner ++ rest) = lookup c inner ++ expand c rest := by
  have hinner : inner? (inner ++ '\x7d' :: '\x7d' :: rest) = some (inner, rest) :=
    inner?_eq_some_iff.mpr ⟨h, rfl⟩
  have hspelled :
      placeholder inner ++ rest = '\x7b' :: '\x7b' :: (inner ++ '\x7d' :: '\x7d' :: rest) := by
    simp [placeholder]
  rw [hspelled, expand]
  split
  · next path more hfound =>
    cases hinner.symm.trans hfound
    rfl
  · next hnone =>
    cases hinner.symm.trans hnone

theorem expand_cons {ch : Char} {rest : List Char} (h : front? (ch :: rest) = none) :
    expand c (ch :: rest) = ch :: expand c rest := by
  rw [expand.eq_def]
  split
  · next more heq =>
    cases heq
    have hnone : inner? more = none := h
    split
    · next hfound => cases hnone.symm.trans hfound
    · rfl
  · next heq =>
    cases heq
    rfl
  · next heq => cases heq

def StartsNotWithin (before rest : List Char) : Prop :=
  ∀ before' inner after, IsInner inner → before ++ rest = before' ++ placeholder inner ++ after →
    before.length ≤ before'.length

theorem StartsNotWithin.tail {ch : Char} {before rest : List Char}
    (h : StartsNotWithin (ch :: before) rest) :
    StartsNotWithin before rest := by
  intro before' inner after hinner heq
  have hle := h (ch :: before') inner after hinner (by rw [List.cons_append, heq]; rfl)
  simpa using hle

/-- The characters before the first placeholder are copied. -/
theorem expand_append {before rest : List Char} (h : StartsNotWithin before rest) :
    expand c (before ++ rest) = before ++ expand c rest := by
  induction before with
  | nil => rfl
  | cons ch before ih =>
    have hfront : front? (ch :: (before ++ rest)) = none := by
      rw [Option.eq_none_iff_forall_ne_some]
      rintro ⟨inner, after⟩ hfront
      obtain ⟨hinner, heq⟩ := front?_eq_some_iff.mp hfront
      have hle := h [] inner after hinner heq
      simp at hle
    rw [List.cons_append, expand_cons hfront, ih h.tail]
    rfl

theorem expand_plain {cs : List Char} (h : Plain cs) : expand c cs = cs := by
  have hcopied : StartsNotWithin cs [] := by
    rintro before inner after hinner heq
    rw [List.append_nil] at heq
    exact absurd heq (h before inner after hinner)
  have hexpand := @expand_append c cs [] hcopied
  rw [List.append_nil, expand.eq_def c [], List.append_nil] at hexpand
  exact hexpand

theorem apply_of_not_infix {s : String} (h : ¬ ['\x7b', '\x7b'] <:+: s.toList) (c : Context) :
    apply c s = s :=
  if_neg (mt Text.contains_iff.mp h)

/-- Nothing is lost where a text without two opening braces is not looked at. -/
theorem apply_eq (c : Context) (template : String) :
    apply c template = .ofList (expand c template.toList) := by
  unfold apply
  split
  · rfl
  · next h => rw [expand_plain (plain_of_not_contains h), String.ofList_toList]

/-- What a template consists of: text that is copied, and placeholders by what stands between their
braces. -/
inductive Piece
  | copied (text : List Char)
  | value (inner : List Char)
  deriving DecidableEq, Repr

/-- What takes the place of a piece: of a placeholder the text of the value at its path, blanks
around the path aside, and nothing for a missing value and for null. -/
def Piece.shown (c : Context) : Piece → List Char
  | copied text => text
  | value inner =>
    match c.get? (Text.trim (.ofList inner)) with
    | none | some .null => []
    | some v => (Coercion.text v).toList

/-- A pass over a text from left to right: it stops at the placeholder that starts earliest and goes
on behind it. -/
inductive Pass : List Char → List Piece → Prop
  | rest {cs : List Char} : Plain cs → Pass cs [.copied cs]
  | found {before inner after : List Char} {pieces : List Piece} :
    IsInner inner → StartsNotWithin before (placeholder inner ++ after) → Pass after pieces →
    Pass (before ++ placeholder inner ++ after) (.copied before :: .value inner :: pieces)

theorem expand_of_pass {cs : List Char} {pieces : List Piece} (h : Pass cs pieces) :
    expand c cs = pieces.flatMap (·.shown c) := by
  have hlookup (inner : List Char) : lookup c inner = (Piece.value inner).shown c := by
    have htrim : Text.trim (.ofList inner) = .ofList (Text.trimBoth inner) := by
      rw [Text.trim, String.toList_ofList]
    rw [Piece.shown, htrim]
    rfl
  induction h with
  | rest hplain => simp [expand_plain hplain, Piece.shown]
  | found hinner hfirst _ ih =>
    rw [List.append_assoc, expand_append hfirst, expand_placeholder hinner, ih, hlookup]
    rfl

theorem exists_first {cs : List Char} (h : ¬ Plain cs) : ∃ before inner after, IsInner inner ∧
    cs = before ++ placeholder inner ++ after ∧
      StartsNotWithin before (placeholder inner ++ after) := by
  classical
  have hexists : ∃ n before inner after,
      before.length = n ∧ IsInner inner ∧ cs = before ++ placeholder inner ++ after := by
    unfold Plain at h
    push Not at h
    obtain ⟨before, inner, after, hinner, heq⟩ := h
    exact ⟨before.length, before, inner, after, rfl, hinner, heq⟩
  obtain ⟨before, inner, after, hlength, hinner, heq⟩ := Nat.find_spec hexists
  refine ⟨before, inner, after, hinner, heq, fun before' inner' after' hinner' heq' => ?_⟩
  rw [hlength]
  refine Nat.find_min' hexists ⟨before', inner', after', rfl, hinner', ?_⟩
  rw [heq, List.append_assoc, heq']

theorem exists_pass (cs : List Char) : ∃ pieces, Pass cs pieces := by
  induction h : cs.length using Nat.strong_induction_on generalizing cs with
  | _ n ih =>
    by_cases hplain : Plain cs
    · exact ⟨_, .rest hplain⟩
    · obtain ⟨before, inner, after, hinner, rfl, hfirst⟩ := exists_first hplain
      have hshorter : after.length < n := by
        rw [← h]
        simp [placeholder]
        omega
      obtain ⟨pieces, hpieces⟩ := ih _ hshorter after rfl
      exact ⟨_, .found hinner hfirst hpieces⟩

theorem Pass.unique {cs : List Char} {pieces others : List Piece} (h : Pass cs pieces)
    (h' : Pass cs others) :
    others = pieces := by
  induction h generalizing others with
  | rest hplain =>
    cases h' with
    | rest => rfl
    | found hinner => exact absurd rfl (hplain _ _ _ hinner)
  | @found before inner after pieces hinner hfirst _ ih =>
    generalize hcs : before ++ placeholder inner ++ after = cs at h'
    cases h' with
    | rest hplain => exact absurd hcs.symm (hplain _ _ _ hinner)
    | @found before' inner' after' pieces' hinner' hfirst' hpass' =>
      -- neither starts before the other, so both stop at the same place
      have hlength : before.length = before'.length := by
        have hle := hfirst before' inner' after' hinner' (by rw [← List.append_assoc, hcs])
        have hge := hfirst' before inner after hinner (by rw [← List.append_assoc, hcs])
        omega
      rw [List.append_assoc, List.append_assoc] at hcs
      obtain ⟨rfl, hstretch⟩ := List.append_inj hcs hlength
      have hfront := front?_placeholder hinner after
      rw [hstretch, front?_placeholder hinner'] at hfront
      cases hfront
      rw [ih hpass']

/-- A template is read in exactly one pass from left to right, whatever the context is, and what is
made of it is what takes the places of the pieces, one after the other, also where no shortcut is
taken. Where no placeholder stands in it the template comes back as it is, with the shortcut and
without. -/
theorem apply_single_pass (template : String) :
    (∃ pieces, Pass template.toList pieces ∧
      (∀ others, Pass template.toList others → others = pieces) ∧
      ∀ context, apply context template = .ofList (pieces.flatMap (·.shown context)) ∧
        apply context template = .ofList (expand context template.toList)) ∧
    (Plain template.toList →
      ∀ context, apply context template = template ∧
        String.ofList (expand context template.toList) = template) := by
  constructor
  · obtain ⟨pieces, hpass⟩ := exists_pass template.toList
    refine ⟨pieces, hpass,
      fun others => hpass.unique, fun context => ⟨?_, apply_eq context template⟩⟩
    rw [apply_eq, expand_of_pass hpass]
  · intro hplain context
    rw [apply_eq, expand_plain hplain, String.ofList_toList]
    exact ⟨rfl, rfl⟩

/-- What is put in is not looked at again, and three braces open a placeholder whose path starts
with the third. -/
example :
    let context := (Context.empty.set "vars.name" (.text "\x7b\x7bvars.secret\x7d\x7d")).set
      "vars.secret" (.text "x")
    apply context "\x7b\x7b\x7bvars.name\x7d\x7d, \x7b\x7b vars.name \x7d\x7d" =
      ", \x7b\x7bvars.secret\x7d\x7d" := by
  decide +kernel

/-- Braces with nothing in between, and braces that are not closed by two. -/
theorem apply_single_pass_looseBraces :
    let template := "\x7b\x7b\x7d\x7d \x7b\x7bvars.name\x7d \x7bvars.name\x7d\x7d \x7b\x7bvars"
    Plain template.toList ∧
      ∀ context, apply context template = template ∧
        String.ofList (expand context template.toList) = template := by
  intro template
  have hplain : Plain template.toList := by decide +kernel
  exact ⟨hplain, (apply_single_pass template).2 hplain⟩

end Template

end ChatFlow
