import ChatFlow.Text.Casing
import Mathlib.Data.List.TakeWhile

namespace ChatFlow.Text

variable {before after front back cs rest : List Char} {c d : Char}

def isIgnorable (c : Char) : Bool := inRanges c.toNat caseIgnorableRanges

/-- A capital sigma in this place ends a word; `before` holds the characters in front of it, last
first. -/
def endsWord (before after : List Char) : Bool := reachesCased before && !reachesCased after

def lowerAt (before : List Char) (c : Char) (after : List Char) : List Char :=
  if c = 'Σ' then if endsWord before after then ['ς'] else ['σ'] else lowerChar c

def lowerWithin (before after : List Char) : List Char → List Char
  | [] => []
  | c :: rest => lowerAt before c (rest ++ after) ++ lowerWithin (c :: before) after rest

theorem lowerAt_of_ne (h : c ≠ 'Σ') : lowerAt before c after = lowerChar c := if_neg h

theorem lowerAt_sigma : lowerAt before 'Σ' after = if endsWord before after then ['ς'] else ['σ'] :=
  if_pos rfl

theorem lowerAt_ne_nil (before : List Char) (c : Char) (after : List Char) :
    lowerAt before c after ≠ [] := by
  unfold lowerAt
  split
  · split <;> simp
  · unfold lowerChar
    split
    · simp
    · split <;> simp

theorem lowerAfter_cons (before : List Char) (c : Char) (rest : List Char) :
    lowerAfter before (c :: rest) = lowerAt before c rest ++ lowerAfter (c :: before) rest := rfl

/-- A text with some part is in lower case if the part and the rest are. -/
theorem lowerAfter_append (before cs rest : List Char) :
    lowerAfter before (cs ++ rest) =
      lowerWithin before rest cs ++ lowerAfter (cs.reverse ++ before) rest := by
  induction cs generalizing before with
  | nil => rfl
  | cons c cs ih =>
    rw [List.cons_append, lowerAfter_cons, ih, lowerWithin, List.append_assoc, List.reverse_cons,
      List.append_assoc]
    rfl

theorem lowerAfter_eq_lowerWithin (before cs : List Char) :
    lowerAfter before cs = lowerWithin before [] cs := by
  have h := lowerAfter_append before cs []
  rwa [List.append_nil, lowerAfter, List.append_nil] at h

theorem lowerWithin_append (before after cs rest : List Char) :
    lowerWithin before after (cs ++ rest) =
      lowerWithin before (rest ++ after) cs ++ lowerWithin (cs.reverse ++ before) after rest := by
  induction cs generalizing before with
  | nil => rfl
  | cons c cs ih =>
    rw [List.cons_append, lowerWithin, ih, lowerWithin, List.append_assoc, List.append_assoc,
      List.reverse_cons, List.append_assoc]
    rfl

theorem lowerAfter_ne_nil (before : List Char) (h : cs ≠ []) : lowerAfter before cs ≠ [] := by
  cases cs with
  | nil => exact absurd rfl h
  | cons c rest => exact List.append_ne_nil_of_left_ne_nil (lowerAt_ne_nil before c rest) _

theorem toLower_eq_empty_iff (s : String) : toLower s = "" ↔ s = "" := by
  constructor
  · intro h
    by_contra hs
    have hnil : s.toList ≠ [] := mt String.toList_eq_nil_iff.mp hs
    apply lowerAfter_ne_nil [] hnil
    rw [← String.toList_ofList (l := lowerAfter [] s.toList)]
    exact String.toList_eq_nil_iff.mpr h
  · rintro rfl
    rfl

/-- A part has the same lower case in two places if each of its characters has. -/
theorem lowerWithin_congr {before₁ before₂ after₁ after₂ : List Char}
    (h : ∀ front c back, cs = front ++ c :: back →
      lowerAt (front.reverse ++ before₁) c (back ++ after₁) =
        lowerAt (front.reverse ++ before₂) c (back ++ after₂)) :
    lowerWithin before₁ after₁ cs = lowerWithin before₂ after₂ cs := by
  induction cs generalizing before₁ before₂ with
  | nil => rfl
  | cons c rest ih =>
    have hrest :
        lowerWithin (c :: before₁) after₁ rest = lowerWithin (c :: before₂) after₂ rest := by
      apply ih
      intro front d back heq
      have hd := h (c :: front) d back (by rw [heq, List.cons_append])
      rwa [List.reverse_cons, List.append_assoc, List.append_assoc] at hd
    rw [lowerWithin, lowerWithin, hrest]
    exact congrArg (· ++ _) (h [] c rest rfl)

theorem count_lowerWithin_le {before₁ before₂ after₁ after₂ : List Char}
    (h : ∀ front c back, cs = front ++ c :: back →
      (lowerAt (front.reverse ++ before₁) c (back ++ after₁)).count d ≤
        (lowerAt (front.reverse ++ before₂) c (back ++ after₂)).count d) :
    (lowerWithin before₁ after₁ cs).count d ≤ (lowerWithin before₂ after₂ cs).count d := by
  induction cs generalizing before₁ before₂ with
  | nil => exact Nat.le_refl _
  | cons c rest ih =>
    rw [lowerWithin, lowerWithin, List.count_append, List.count_append]
    refine Nat.add_le_add (h [] c rest rfl) (ih fun front e back heq => ?_)
    have he := h (c :: front) e back (by rw [heq, List.cons_append])
    rwa [List.reverse_cons, List.append_assoc, List.append_assoc] at he

/-- If no character of a part is found more often in one place than in the other, and one of them
less often, then the whole part has it less often. -/
theorem count_lowerWithin_lt {before₁ before₂ after₁ after₂ : List Char}
    (h : ∀ front c back, cs = front ++ c :: back →
      (lowerAt (front.reverse ++ before₁) c (back ++ after₁)).count d ≤
        (lowerAt (front.reverse ++ before₂) c (back ++ after₂)).count d)
    (hcs : cs = front ++ c :: back)
    (hlt : (lowerAt (front.reverse ++ before₁) c (back ++ after₁)).count d <
      (lowerAt (front.reverse ++ before₂) c (back ++ after₂)).count d) :
    (lowerWithin before₁ after₁ cs).count d < (lowerWithin before₂ after₂ cs).count d := by
  subst hcs
  have hfront : (lowerWithin before₁ ((c :: back) ++ after₁) front).count d ≤
      (lowerWithin before₂ ((c :: back) ++ after₂) front).count d := by
    apply count_lowerWithin_le
    intro first e others heq
    have he := h first e (others ++ c :: back) (by rw [heq, List.append_assoc, List.cons_append])
    rwa [List.append_assoc, List.append_assoc] at he
  have hback : (lowerWithin (c :: (front.reverse ++ before₁)) after₁ back).count d ≤
      (lowerWithin (c :: (front.reverse ++ before₂)) after₂ back).count d := by
    apply count_lowerWithin_le
    intro first e others heq
    have he := h (front ++ c :: first) e others (by rw [heq, List.append_assoc, List.cons_append])
    simpa using he
  rw [lowerWithin_append, lowerWithin_append, lowerWithin, lowerWithin]
  simp only [List.count_append]
  omega

theorem reachesCased_eq (cs : List Char) :
    reachesCased cs =
      (cs.dropWhile isIgnorable).head?.any fun c => inRanges c.toNat casedRanges := by
  show (match cs.dropWhile isIgnorable with
    | [] => false
    | c :: _ => inRanges c.toNat casedRanges) = _
  cases cs.dropWhile isIgnorable with
  | nil => rfl
  | cons c rest => rfl

theorem reachesCased_of_all (h : cs.all isIgnorable = true) : reachesCased cs = false := by
  rw [reachesCased_eq, List.dropWhile_eq_nil_iff.mpr (List.all_eq_true.mp h)]
  rfl

theorem reachesCased_append_of_all (h : cs.all isIgnorable = true) (rest : List Char) :
    reachesCased (cs ++ rest) = reachesCased rest := by
  rw [reachesCased_eq, reachesCased_eq, List.dropWhile_append_of_pos (List.all_eq_true.mp h)]

/-- What stands behind a character that counts makes no difference. -/
theorem reachesCased_append_of_not_all (h : cs.all isIgnorable = false) (rest : List Char) :
    reachesCased (cs ++ rest) = reachesCased cs := by
  have hne : (cs.dropWhile isIgnorable).isEmpty = false := by
    rw [List.isEmpty_eq_false_iff, ne_eq, List.dropWhile_eq_nil_iff, ← List.all_eq_true, h]
    exact Bool.false_ne_true
  rw [reachesCased_eq, reachesCased_eq, List.dropWhile_append, if_neg (by simp [hne])]
  cases hcs : cs.dropWhile isIgnorable with
  | nil => simp [hcs] at hne
  | cons c others => rfl

/-- Whether a sigma ends a word can depend on what stands around the part: nothing in the part
separates it from there, and the rest of the part leaves it open. -/
def Exposed (before after : List Char) : Prop :=
  (before.all isIgnorable = true ∧ reachesCased after = false) ∨
    (after.all isIgnorable = true ∧ reachesCased before = true)

instance (before after : List Char) : Decidable (Exposed before after) :=
  inferInstanceAs (Decidable (_ ∨ _))

theorem endsWord_append_of_not_exposed (h : ¬ Exposed before after)
    (outerBefore outerAfter : List Char) :
    endsWord (before ++ outerBefore) (after ++ outerAfter) = endsWord before after := by
  obtain ⟨hbefore, hafter⟩ := not_or.mp h
  unfold endsWord
  cases hb : before.all isIgnorable with
  | true =>
    -- a letter with case follows, so that no word ends here
    have hcased : reachesCased after = true := by simpa [hb] using hbefore
    have ha : after.all isIgnorable = false := by
      by_contra hall
      rw [reachesCased_of_all (by simpa using hall)] at hcased
      cases hcased
    rw [reachesCased_append_of_not_all ha, hcased, Bool.not_true, Bool.and_false, Bool.and_false]
  | false =>
    rw [reachesCased_append_of_not_all hb]
    cases ha : after.all isIgnorable with
    | true =>
      have hcased : reachesCased before = false := by simpa [ha] using hafter
      rw [hcased, Bool.false_and, Bool.false_and]
    | false => rw [reachesCased_append_of_not_all ha]

theorem not_all_of_reachesCased (h : reachesCased cs = true) : cs.all isIgnorable = false := by
  by_contra hall
  rw [reachesCased_of_all (by simpa using hall)] at h
  cases h

theorem reachesCased_letter : reachesCased ['a'] = true := by decide +kernel

/-- A word that ends in a part does so behind a letter, too. -/
theorem endsWord_behind_letter (h : endsWord before after = true) :
    endsWord (before ++ ['a']) after = true := by
  unfold endsWord at *
  obtain ⟨hbefore, hafter⟩ := Bool.and_eq_true_iff.mp h
  rw [reachesCased_append_of_not_all (not_all_of_reachesCased hbefore), hbefore, hafter]
  rfl

/-- A word that ends in front of a letter ends without the letter, too. -/
theorem endsWord_without_letter (h : endsWord before (after ++ ['a']) = true) :
    endsWord before after = true := by
  unfold endsWord at *
  obtain ⟨hbefore, hafter⟩ := Bool.and_eq_true_iff.mp h
  cases hall : after.all isIgnorable with
  | true => rw [reachesCased_of_all hall, hbefore]; rfl
  | false => rwa [reachesCased_append_of_not_all hall] at h

theorem count_medial_le {before₁ before₂ after₁ after₂ : List Char}
    (h : endsWord before₂ after₂ = true → endsWord before₁ after₁ = true) (c : Char) :
    (lowerAt before₁ c after₁).count 'σ' ≤ (lowerAt before₂ c after₂).count 'σ' := by
  by_cases hc : c = 'Σ'
  · subst hc
    rw [lowerAt_sigma, lowerAt_sigma]
    cases h₁ : endsWord before₁ after₁ with
    | true => exact Nat.zero_le _
    | false =>
      have h₂ : endsWord before₂ after₂ = false := by simpa [h₁] using h
      rw [h₂]
  · rw [lowerAt_of_ne hc, lowerAt_of_ne hc]

theorem count_final_le {before₁ before₂ after₁ after₂ : List Char}
    (h : endsWord before₁ after₁ = true → endsWord before₂ after₂ = true) (c : Char) :
    (lowerAt before₁ c after₁).count 'ς' ≤ (lowerAt before₂ c after₂).count 'ς' := by
  by_cases hc : c = 'Σ'
  · subst hc
    rw [lowerAt_sigma, lowerAt_sigma]
    cases h₁ : endsWord before₁ after₁ with
    | true => rw [h h₁]
    | false => exact Nat.zero_le _
  · rw [lowerAt_of_ne hc, lowerAt_of_ne hc]

theorem not_infix_of_count_lt {part whole : List Char} (h : whole.count d < part.count d) :
    ¬ part <:+: whole :=
  fun hpart => Nat.not_le.mpr h (hpart.sublist.count_le d)

/-- If a sigma is exposed, there is a text around the part whose lower case does not have that of
the part in it. -/
theorem exists_not_infix_of_exposed (hcs : cs = front ++ 'Σ' :: back)
    (h : Exposed front.reverse back) :
    ∃ before after, ¬ lowerAfter [] cs <:+: lowerAfter [] (before ++ cs ++ after) := by
  have hletter : lowerChar 'a' = ['a'] := by decide +kernel
  rcases h with ⟨hignorable, hopen⟩ | ⟨hignorable, hcased⟩
  · -- behind a letter the sigma ends a word
    refine ⟨['a'], [], not_infix_of_count_lt (d := 'σ') ?_⟩
    have hlt : (lowerWithin ['a'] [] cs).count 'σ' < (lowerWithin [] [] cs).count 'σ' := by
      apply count_lowerWithin_lt _ hcs
      · rw [lowerAt_sigma, lowerAt_sigma, List.append_nil, List.append_nil]
        unfold endsWord
        rw [reachesCased_append_of_all hignorable, reachesCased_letter, hopen,
          reachesCased_of_all hignorable]
        decide
      · intro first c others _
        apply count_medial_le
        rw [List.append_nil]
        exact endsWord_behind_letter
    rw [List.append_nil, List.singleton_append, lowerAfter_cons, lowerAt_of_ne (by decide), hletter,
      lowerAfter_eq_lowerWithin, lowerAfter_eq_lowerWithin, List.count_append]
    simpa using hlt
  · -- in front of a letter it does not
    refine ⟨[], ['a'], not_infix_of_count_lt (d := 'ς') ?_⟩
    have hlt : (lowerWithin [] ['a'] cs).count 'ς' < (lowerWithin [] [] cs).count 'ς' := by
      apply count_lowerWithin_lt _ hcs
      · rw [lowerAt_sigma, lowerAt_sigma, List.append_nil, List.append_nil]
        unfold endsWord
        rw [reachesCased_append_of_all hignorable, reachesCased_letter, hcased,
          reachesCased_of_all hignorable]
        decide
      · intro first c others _
        apply count_final_le
        rw [List.append_nil, List.append_nil]
        exact endsWord_without_letter
    rw [List.nil_append, lowerAfter_append, lowerAfter_cons, lowerAt_of_ne (by decide), hletter,
      lowerAfter, lowerAfter_eq_lowerWithin, List.count_append]
    simpa using hlt

end ChatFlow.Text
