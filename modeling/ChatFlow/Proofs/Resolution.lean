import ChatFlow.Proofs.Placeholders

namespace ChatFlow.Template

def IsBare (cs : List Char) : Prop := cs ≠ [] ∧ '\x7b' ∉ cs ∧ '\x7d' ∉ cs

instance (cs : List Char) : Decidable (IsBare cs) := inferInstanceAs (Decidable (_ ∧ _))

variable {before inner inner' after after' shown rest : List Char}

theorem IsBare.exists_cons (h : IsBare shown) : ∃ c more, shown = c :: more ∧ c ≠ '\x7b' ∧
    c ≠ '\x7d' := by
  obtain ⟨hne, hopen, hclose⟩ := h
  obtain ⟨c, more, rfl⟩ := List.exists_cons_of_ne_nil hne
  exact ⟨c, more, rfl, fun hc => hopen (hc ▸ List.mem_cons_self),
    fun hc => hclose (hc ▸ List.mem_cons_self)⟩

theorem startsNotWithin_iff :
    StartsNotWithin before rest ↔ ∀ tail ∈ before.tails, tail ≠ [] →
      front? (tail ++ rest) = none := by
  constructor
  · intro h tail htail hne
    obtain ⟨before', rfl⟩ := (List.mem_tails _ _).mp htail
    rw [Option.eq_none_iff_forall_ne_some]
    rintro ⟨inner, after⟩ hfront
    obtain ⟨hinner, heq⟩ := front?_eq_some_iff.mp hfront
    have hle := h before' inner after hinner (by rw [List.append_assoc, heq, List.append_assoc])
    have hpos := List.length_pos_of_ne_nil hne
    rw [List.length_append] at hle
    omega
  · intro h before' inner after hinner heq
    by_contra hlt
    rw [List.append_assoc] at heq
    rcases List.append_eq_append_iff.mp heq with ⟨tail, rfl, -⟩ | ⟨tail, rfl, htail⟩
    · simp at hlt
    · have hne : tail ≠ [] := by
        rintro rfl
        simp at hlt
      have hfront := h tail ((List.mem_tails _ _).mpr (List.suffix_append _ _)) hne
      rw [← htail, front?_placeholder hinner] at hfront
      cases hfront

instance (before rest : List Char) : Decidable (StartsNotWithin before rest) :=
  decidable_of_iff _ startsNotWithin_iff.symm

/-- A text without opening braces is not where a placeholder starts. -/
theorem startsNotWithin_of_not_mem (h : '\x7b' ∉ before) (rest : List Char) :
    StartsNotWithin before rest := by
  rw [startsNotWithin_iff]
  intro tail htail hne
  obtain ⟨c, tail, rfl⟩ := List.exists_cons_of_ne_nil hne
  rw [Option.eq_none_iff_forall_ne_some]
  rintro ⟨inner, after⟩ hfront
  obtain ⟨-, heq⟩ := front?_eq_some_iff.mp hfront
  obtain ⟨rfl, -⟩ := List.cons.inj heq
  exact h (((List.mem_tails _ _).mp htail).subset List.mem_cons_self)

theorem plain_append (h : StartsNotWithin before rest) (hrest : Plain rest) :
    Plain (before ++ rest) := by
  intro before' inner after hinner heq
  have hle := h before' inner after hinner heq
  rw [List.append_assoc] at heq
  rcases List.append_eq_append_iff.mp heq with ⟨tail, -, htail⟩ | ⟨tail, rfl, htail⟩
  · exact hrest tail inner after hinner (by rw [htail, List.append_assoc])
  · obtain rfl : tail = [] := by
      rw [List.length_append] at hle
      exact List.eq_nil_of_length_eq_zero (by omega)
    exact hrest [] inner after hinner htail.symm

/-- Where a placeholder starts in front of a bare text, one also starts with a placeholder in the
place of that text: either it is closed before, or it goes on to where the other is closed. -/
theorem exists_placeholder_of_bare {tail : List Char} (htail : tail ≠ []) (hinner : IsInner inner)
    (hshown : IsBare shown) (hinner' : IsInner inner')
    (h : tail ++ (shown ++ rest) = placeholder inner' ++ after') :
    ∃ inner'' after'', IsInner inner'' ∧ tail ++ (placeholder inner ++ after) =
      placeholder inner'' ++ after'' := by
  obtain ⟨s, more, rfl, hopen, hclose⟩ := hshown.exists_cons
  rcases tail with _ | ⟨c, _ | ⟨d, tail⟩⟩
  · exact absurd rfl htail
  · -- the second opening brace is not the first character of the bare text
    exact absurd (List.cons.inj (List.cons.inj h).2).1 hopen
  · simp only [placeholder, List.cons_append, List.append_assoc, List.cons.injEq] at h
    obtain ⟨rfl, rfl, h⟩ := h
    rcases List.append_eq_append_iff.mp h with ⟨between, rfl, -⟩ | ⟨behind, rfl, hbehind⟩
    · refine ⟨tail ++ '\x7b' :: '\x7b' :: inner, after, ⟨by simp, ?_⟩, by simp [placeholder]⟩
      have htail : '\x7d' ∉ tail := fun hmem => hinner'.2 (List.mem_append_left _ hmem)
      simp [htail, hinner.2]
    · rcases behind with _ | ⟨c, _ | ⟨d, behind⟩⟩
      · exact absurd (List.cons.inj hbehind).1.symm hclose
      · exact absurd (List.cons.inj (List.cons.inj hbehind).2).1.symm hclose
      · simp only [List.cons_append, List.cons.injEq] at hbehind
        obtain ⟨rfl, rfl, -⟩ := hbehind
        exact ⟨inner', behind ++ (placeholder inner ++ after), hinner', by simp [placeholder]⟩

/-- What stands before the first placeholder makes no other one with a bare text in its place. -/
theorem StartsNotWithin.replaced (h : StartsNotWithin before (placeholder inner ++ after))
    (hinner : IsInner inner) (hshown : IsBare shown) (rest : List Char) :
    StartsNotWithin before (shown ++ rest) := by
  rw [startsNotWithin_iff] at h ⊢
  intro tail htail hne
  rw [Option.eq_none_iff_forall_ne_some]
  rintro ⟨inner', after'⟩ hfront
  obtain ⟨hinner', heq⟩ := front?_eq_some_iff.mp hfront
  obtain ⟨inner'', after'', hinner'', hstarts⟩ : ∃ inner'' after'', IsInner inner'' ∧
      tail ++ (placeholder inner ++ after) = placeholder inner'' ++ after'' :=
    exists_placeholder_of_bare hne hinner hshown hinner' heq
  have hnone := h tail htail hne
  rw [hstarts, front?_placeholder hinner''] at hnone
  cases hnone

theorem plain_of_pass {c : Context} {cs : List Char} {pieces : List Piece} (h : Pass cs pieces)
    (hshown : ∀ inner, .value inner ∈ pieces → IsBare ((Piece.value inner).shown c)) :
    Plain (pieces.flatMap (·.shown c)) := by
  induction h with
  | rest hplain => simpa [Piece.shown] using hplain
  | @found before inner after pieces hinner hfirst _ ih =>
    have hbare := hshown inner (by simp)
    have hrest := ih fun inner' hmem => hshown inner' (by simp [hmem])
    have hbehind := plain_append (startsNotWithin_of_not_mem hbare.2.1 _) hrest
    exact plain_append (hfirst.replaced hinner hbare _) hbehind

/-- If each placeholder of a template shows something without braces, resolving it leaves no
placeholder: resolving the result once more, in this context or in any other, gives it back. -/
theorem apply_apply_of_bare (context : Context) (template : String)
    (h : ∀ pieces, Pass template.toList pieces → ∀ inner, .value inner ∈ pieces →
      IsBare ((Piece.value inner).shown context)) :
    Plain (apply context template).toList ∧
      ∀ other, apply other (apply context template) = apply context template := by
  obtain ⟨pieces, hpass⟩ := exists_pass template.toList
  have hplain : Plain (apply context template).toList := by
    rw [apply_eq, String.toList_ofList, expand_of_pass hpass]
    exact plain_of_pass hpass (h pieces hpass)
  refine ⟨hplain, fun other => ?_⟩
  rw [apply_eq other, expand_plain hplain, String.ofList_toList]

/-- Nothing comes between two closing braces, which are then those of a placeholder. -/
example :
    let context := Context.empty.set "vars.name" (.text "Ana")
    apply context "\x7b\x7bvars.name\x7d\x7b\x7bvars.none\x7d\x7d\x7d" =
      "\x7b\x7bvars.name\x7d\x7d" ∧
      apply context "\x7b\x7bvars.name\x7d\x7d" = "Ana" := by
  decide +kernel

theorem apply_apply_of_bare_looseBraces :
    let context := Context.empty.set "vars.name" (.text "Ana")
    let template := "\x7b\x7bno\x7d\x7b\x7b\x7b vars\x7d \x7d\x7b\x7b vars.name \x7d\x7d\x7d\x7d"
    (∀ pieces, Pass template.toList pieces → ∀ inner, .value inner ∈ pieces →
      IsBare ((Piece.value inner).shown context)) ∧
    Plain (apply context template).toList ∧
      ∀ other, apply other (apply context template) = apply context template := by
  intro context template
  have htemplate : template.toList = "\x7b\x7bno\x7d\x7b\x7b\x7b vars\x7d \x7d".toList ++
      placeholder " vars.name ".toList ++ "\x7d\x7d".toList := by decide +kernel
  have hpass : ∃ before after,
      Pass template.toList [.copied before, .value " vars.name ".toList, .copied after] := by
    rw [htemplate]
    exact ⟨_, _, .found ⟨by decide, by decide⟩ (by decide +kernel) (.rest (by decide +kernel))⟩
  obtain ⟨before, after, hpass⟩ := hpass
  have hbare : ∀ pieces, Pass template.toList pieces → ∀ inner, .value inner ∈ pieces →
      IsBare ((Piece.value inner).shown context) := by
    intro pieces hpieces inner hmem
    rw [hpass.unique hpieces] at hmem
    obtain rfl : inner = " vars.name ".toList := by simpa using hmem
    decide +kernel
  exact ⟨hbare, apply_apply_of_bare context template hbare⟩

end ChatFlow.Template
