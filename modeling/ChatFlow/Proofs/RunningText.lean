import ChatFlow.Coercion
import ChatFlow.Proofs.Parsing

namespace ChatFlow

/-- A numeral denotes its number, if that is not too large. -/
theorem Json.parse_numeral {n : Json.Numeral} (h : n.Legal) :
    Json.parse (.ofList n.text) = (Token.bounded n.number).map .number := by
  have hall : Token.all n.text = [.number (Token.bounded n.number)] := by
    have hafter := @Token.allAfter_numeral n h [] nofun
    rwa [List.append_nil] at hafter
  have hread : Outline.read n.text = ⟨.number (Token.bounded n.number), false⟩ := by
    rw [Outline.read, hall]
    rfl
  rw [Json.parse, String.toList_ofList, hread]
  cases Token.bounded n.number <;> rfl

theorem Decimal.digitsOf_mul_pow {c : Nat} (hc : 0 < c) (j : Nat) :
    digitsOf (c * 10 ^ j) = digitsOf c ++ List.replicate j '0' := by
  induction j with
  | zero => simp
  | succ j ih =>
    have hpos : 0 < c * 10 ^ j := Nat.mul_pos hc (Nat.pow_pos (by decide))
    have hten : c * 10 ^ (j + 1) = 10 * (c * 10 ^ j) + 0 := by rw [Nat.pow_succ]; ring
    calc
      digitsOf (c * 10 ^ (j + 1)) = digitsOf (c * 10 ^ j) ++ ['0'] := by
        rw [hten]
        exact (Nat.toDigits_append_toDigits (by decide) hpos (by decide)).symm
      _ = digitsOf c ++ List.replicate (j + 1) '0' := by
        rw [ih, List.append_assoc, List.replicate_succ']

namespace Coercion

/-- Every number in the value is read back as it is printed in running text, a double perhaps as an
integer. -/
def Kept : Json → Prop
  | .number (.real x) => (Json.parse x.plainText).map number = .ok x
  | v => v.Kept

instance : (v : Json) → Decidable (Kept v)
  | .number (.real x) => inferInstanceAs (Decidable ((Json.parse x.plainText).map number = .ok x))
  | .number (.whole n) => inferInstanceAs (Decidable (Json.number (.whole n)).Kept)
  | .null => inferInstanceAs (Decidable Json.null.Kept)
  | .bool b => inferInstanceAs (Decidable (Json.bool b).Kept)
  | .text s => inferInstanceAs (Decidable (Json.text s).Kept)
  | .list items => inferInstanceAs (Decidable (Json.list items).Kept)
  | .object members => inferInstanceAs (Decidable (Json.object members).Kept)

end Coercion

namespace Json

open Binary64 (finite)
open Decimal (digitsOf)

def PrintsBack (s : String) : Prop := ∃ v, parse s = .ok v ∧ Coercion.text v = s

theorem printsBack_of_numeral {n : Numeral} (h : n.Legal) {x : Binary64}
    (hplain : x.plainText = .ofList n.text)
    (hwhole : ∀ k, n.number = .whole k → Coercion.text (.number (.whole k)) = .ofList n.text)
    (hkept : Coercion.Kept (.number (.real x))) : PrintsBack x.plainText := by
  have hread : (Token.bounded n.number).map (fun v => Coercion.number (.number v)) = .ok x := by
    have hkept : (parse x.plainText).map Coercion.number = .ok x := hkept
    rw [hplain, parse_numeral h] at hkept
    cases hbounded : Token.bounded n.number with
    | error b =>
      rw [hbounded] at hkept
      cases hkept
    | ok v => rwa [hbounded] at hkept
  cases hnumber : n.number with
  | whole k =>
    refine ⟨.number (.whole k), ?_, hplain ▸ hwhole k hnumber⟩
    rw [hplain, parse_numeral h, hnumber]
    rfl
  | real y =>
    refine ⟨.number (.real x), ?_, rfl⟩
    rw [hplain, parse_numeral h]
    rw [hnumber] at hread ⊢
    unfold Token.bounded at hread ⊢
    dsimp only at hread ⊢
    cases hfinite : y.isFinite with
    | false =>
      rw [hfinite] at hread
      cases hread
    | true =>
      rw [hfinite] at hread
      cases hread
      rfl

/-- An integer is printed with the sign and the digits that it is read from. -/
theorem text_of_integer {negative : Bool} {n : Nat} {k : Int}
    (h : Token.integer negative (digitsOf n) = .whole k) :
    Coercion.text (.number (.whole k)) = .ofList (Numeral.sign negative ++ digitsOf n) := by
  unfold Token.integer at h
  rw [Decimal.valueOf_digitsOf] at h
  dsimp only at h
  cases negative with
  | true =>
    rw [if_pos rfl] at h
    split at h
    · cases h
    · next hzero =>
      split at h
      · cases h
        simp [Coercion.text, Number.jsonText, Nat.pos_of_ne_zero hzero, Numeral.sign]
      · cases h
  | false =>
    rw [if_neg Bool.false_ne_true] at h
    split at h
    · cases h
      simp [Coercion.text, Number.jsonText, Numeral.sign]
    · cases h

theorem printsBack_digits {negative : Bool} {n : Nat} {x : Binary64}
    (hplain : x.plainText = .ofList (Numeral.sign negative ++ digitsOf n))
    (hkept : Coercion.Kept (.number (.real x))) : PrintsBack x.plainText := by
  have htext :
      (Numeral.mk negative (digitsOf n) [] none).text = Numeral.sign negative ++ digitsOf n := by
    simp [Numeral.text, Numeral.behind, Numeral.exponentText]
  have hnumber :
      (Numeral.mk negative (digitsOf n) [] none).number = Token.integer negative (digitsOf n) := rfl
  rw [← htext] at hplain
  refine printsBack_of_numeral (Numeral.legal_digitsOf negative n) hplain ?_ hkept
  intro k hk
  rw [htext]
  exact text_of_integer (hnumber ▸ hk)

/-- Digits with a point among them or in front of them have nothing added. -/
theorem positional_of_neg (digits : List Char) {k : Int} (hk : k < 0) (suffix : List Char) :
    Binary64.positional digits (digits.length + k) suffix =
      Binary64.positional digits (digits.length + k) [] := by
  unfold Binary64.positional
  split
  · rfl
  · rw [if_neg (by omega), if_neg (by omega)]

theorem positional_natCast {c : Nat} (hc : 0 < c) (j : Nat) :
    Binary64.positional (digitsOf c) ((digitsOf c).length + j) [] = digitsOf (c * 10 ^ j) := by
  have hlength := Decimal.length_digitsOf_pos c
  have hzeros : ((digitsOf c).length + (j : Int)).natAbs - (digitsOf c).length = j := by omega
  rw [Decimal.digitsOf_mul_pow hc, Binary64.positional, if_neg (by omega), if_pos (by omega),
    hzeros, List.append_nil]

/-- A double that is no short integer is printed with its fewest digits, without an exponent. -/
theorem write_plain {m : Nat} (hm : 0 < m) (negative : Bool) (e : Nat) :
    Binary64.write .plain negative m e = Numeral.sign negative ++
      Binary64.positional (digitsOf (Binary64.shortest .up m e).1)
        ((digitsOf (Binary64.shortest .up m e).1).length + (Binary64.shortest .up m e).2) [] := by
  have htie : Binary64.Layout.plain.tie = .up := rfl
  have hpositional : ∀ place, Binary64.Layout.plain.isPositional place = true := fun _ => rfl
  have hsuffix : Binary64.Layout.plain.wholeSuffix = [] := rfl
  rw [Binary64.write, if_neg (Nat.ne_of_gt hm), htie, hsuffix]
  simp only [hpositional, if_true, Numeral.sign]

/-- A finite double that is read back from running text is printed the same again. -/
theorem printsBack_plainText {negative : Bool} {m e : Nat}
    (hcanonical : (finite negative m e).Canonical)
    (hkept : Coercion.Kept (.number (.real (finite negative m e)))) :
    PrintsBack (finite negative m e).plainText := by
  by_cases hexact : ((finite negative m e).isWhole &&
      (finite negative m e).magnitude < Nat.pow 10 21 * Binary64.unitsPerOne) = true
  · exact printsBack_digits (if_pos hexact) hkept
  · have hm : 0 < m := by
      -- zero is a short integer
      rw [Nat.pos_iff_ne_zero]
      rintro rfl
      have hpos : 0 < Nat.pow 10 21 * Binary64.unitsPerOne :=
        Nat.mul_pos (by decide) Binary64.unitsPerOne_pos
      have hmagnitude : (finite negative 0 e).magnitude = 0 * 2 ^ e := rfl
      rw [Binary64.isWhole, hmagnitude, Nat.zero_mul, Nat.zero_mod, decide_eq_true hpos] at hexact
      exact hexact rfl
    have hplain : (finite negative m e).plainText = .ofList (Binary64.write .plain negative m e) :=
      if_neg hexact
    have hc := Binary64.shortest_pos .up hcanonical hm
    rw [write_plain hm] at hplain
    generalize (Binary64.shortest .up m e).1 = c at *
    generalize (Binary64.shortest .up m e).2 = k at *
    rcases Int.lt_or_le k 0 with hk | hk
    · rw [← positional_of_neg _ hk, ← Numeral.text_positional] at hplain
      refine printsBack_of_numeral (Numeral.legal_positional hc negative _) hplain ?_ hkept
      intro k hwhole
      rw [Numeral.number_of_fraction (Numeral.fraction_positional_ne_nil _ _ _)] at hwhole
      cases hwhole
    · obtain ⟨j, rfl⟩ := Int.eq_ofNat_of_zero_le hk
      rw [positional_natCast hc] at hplain
      exact printsBack_digits hplain hkept

/-- A value that is neither a text nor a double is written in running text as it is in JSON. -/
theorem text_eq_compact {v : Json} (hkind : ∀ w, v ≠ .text w) (hreal : ∀ x, v ≠ .number (.real x)) :
    Coercion.text v = v.compact := by
  cases v with
  | text w => exact absurd rfl (hkind w)
  | number n =>
    cases n with
    | whole n => simp [Coercion.text, compact, print]
    | real x => exact absurd rfl (hreal x)
  | bool b => cases b <;> rfl
  | null | list | object => rfl

/-- The text denotes such a value exactly if the value is kept. -/
theorem parse_text_eq_iff {v : Json} (hv : v.WellFormed) (hdepth : v.depth ≤ maxDepth)
    (hkind : ∀ w, v ≠ .text w) (hreal : ∀ x, v ≠ .number (.real x)) :
    parse (Coercion.text v) = .ok v ↔ Coercion.Kept v := by
  have hkept : Coercion.Kept v ↔ v.Kept := by
    unfold Coercion.Kept
    split
    · next x => exact absurd rfl (hreal x)
    · exact Iff.rfl
  rw [text_eq_compact hkind hreal, parse_compact hv, if_pos hdepth, hkept, Except.ok.injEq, Kept]

/-- A value that is no text prints back if its numbers are read back. -/
theorem printsBack_text {v : Json} (hv : v.WellFormed) (hdepth : v.depth ≤ maxDepth)
    (hkind : ∀ w, v ≠ .text w) (hkept : Coercion.Kept v) : PrintsBack (Coercion.text v) := by
  by_cases hreal : ∃ x, v = .number (.real x)
  · obtain ⟨x, rfl⟩ := hreal
    obtain ⟨hfinite, hcanonical⟩ := hv
    cases x with
    | finite negative m e => exact printsBack_plainText hcanonical hkept
    | nan | infinity => cases hfinite
  · exact ⟨v, (parse_text_eq_iff hv hdepth hkind fun x hx => hreal ⟨x, hx⟩).mpr hkept, rfl⟩

namespace Token

def Within (limit : Nat) : Token → Prop
  | text (.ok s) => s.length < limit
  | _ => True

theorem Within.mono {limit limit' : Nat} {t : Token} (h : t.Within limit) (hle : limit ≤ limit') :
    t.Within limit' := by
  unfold Within at *
  split at h
  · exact Nat.lt_of_lt_of_le h hle
  · trivial

theorem within_scanNumber (limit : Nat) (cs : List Char) : (scanNumber cs).1.Within limit :=
  scanNumber_induction (fun _ => trivial) (fun _ _ => trivial) cs

/-- What was read so far has so many characters, if it can be part of a text. -/
def Partial.Within (limit : Nat) (p : Partial) : Prop := ∀ done due, p = .ok (done, due) →
    done.length ≤ limit

theorem Partial.Within.push {limit : Nat} {p : Partial} (h : p.Within limit) (c : Char) :
    (p.push c).Within (limit + 1) := by
  rintro done due heq
  unfold Partial.push at heq
  split at heq
  · next before =>
    cases heq
    exact Nat.succ_le_succ (h before none rfl)
  · cases heq
  · cases heq

theorem Partial.Within.pushUnit {limit : Nat} {p : Partial} (h : p.Within limit) (n : Nat) :
    (p.pushUnit n).Within (limit + 1) := by
  rintro done due heq
  unfold Partial.pushUnit at heq
  split at heq
  · next before =>
    have hbefore := h before none rfl
    split at heq
    · cases heq
    · split at heq
      · cases heq
        exact Nat.le_succ_of_le hbefore
      · cases heq
        exact Nat.succ_le_succ hbefore
  · next before high =>
    split at heq
    · cases heq
      exact Nat.succ_le_succ (h before (some high) rfl)
    · cases heq
  · cases heq

theorem Partial.within_breakOff (limit : Nat) (b : Break) (p : Partial) :
    (p.breakOff b).Within limit := by
  cases p <;> trivial

theorem Partial.Within.close {limit : Nat} {p : Partial} (h : p.Within limit) :
    (Token.text p.close).Within (limit + 1) := by
  unfold Partial.close
  split
  · next done =>
    have hlength : (String.ofList done.reverse).length = done.length := by simp
    show (String.ofList done.reverse).length < limit + 1
    rw [hlength]
    exact Nat.lt_succ_of_le (h done none rfl)
  · trivial
  · trivial

/-- Every character of a text takes at least one, and the closing mark another. -/
theorem within_scanText {before : Partial} {limit : Nat} (h : before.Within limit) (size : Nat)
    (cs : List Char) :
    (scanText before size cs).1.Within (limit + cs.length) := by
  fun_induction scanText before size cs generalizing limit with
  | case2 => exact h.close.mono (by rw [List.length_cons]; omega)
  | case4 _ _ _ _ _ _ rest _ _ ih =>
    exact (ih (h.pushUnit _)).mono (by simp only [List.length_cons]; omega)
  | case7 _ _ _ rest _ _ _ _ ih =>
    exact (ih (h.push _)).mono (by simp only [List.length_cons]; omega)
  | case10 _ _ _ rest _ _ _ _ _ _ ih => exact (ih (h.push _)).mono (by rw [List.length_cons]; omega)
  | _ => exact Partial.within_breakOff _ _ _

theorem within_scanWord {limit : Nat} {word : List Char} {token : Token} (h : token.Within limit)
    (cs : List Char) :
    (scanWord word token cs).1.Within limit := by
  unfold scanWord
  split
  · exact h
  · split <;> trivial

theorem within_scan (c : Char) (rest : List Char) : (scan c rest).1.Within (c :: rest).length := by
  unfold scan
  split
  -- the six brackets and marks
  iterate 6 trivial
  · have hnothing : Partial.Within 0 (.ok ([], none)) := by
      rintro done due heq
      cases heq
      exact Nat.le_refl 0
    exact (within_scanText hnothing 1 rest).mono (by rw [List.length_cons]; omega)
  · exact @within_scanWord _ _ .null trivial _
  · exact @within_scanWord _ _ (.bool true) trivial _
  · exact @within_scanWord _ _ (.bool false) trivial _
  · split
    · exact within_scanNumber _ _
    · trivial

theorem within_of_mem_allAfter {skip : Nat} {cs : List Char} {t : Token}
    (ht : t ∈ allAfter skip cs) :
    t.Within cs.length := by
  have hstep : ∀ (c : Char) (rest : List Char), t.Within rest.length →
      t.Within (c :: rest).length :=
    fun c rest h => h.mono (Nat.le_succ _)
  fun_induction allAfter skip cs with
  | case1 => cases ht
  | case2 skip c rest ih => exact hstep c rest (ih ht)
  | case3 c rest hspace ih => exact hstep c rest (ih ht)
  | case4 c rest hspace token size hscan hlast =>
    have hwithin := within_scan c rest
    rw [hscan] at hwithin
    rwa [List.mem_singleton.mp ht]
  | case5 c rest hspace token size hscan hlast ih =>
    have hwithin := within_scan c rest
    rw [hscan] at hwithin
    rcases List.mem_cons.mp ht with rfl | ht
    · exact hwithin
    · exact hstep c rest (ih ht)

end Token

namespace Outline

def Within (limit : Nat) : Outline → Prop
  | text (.ok s) => s.length < limit
  | _ => True

variable {limit : Nat}

theorem within_collapse {v : Outline} (h : v.Within limit) (opened : List Frame) :
    (collapse v opened).Within limit := by
  induction opened generalizing v with
  | nil => exact h
  | cons f outer ih => cases f <;> exact ih trivial

theorem within_broken (what : Remnant) (fault : Fault) (opened : List Frame) :
    (collapse (.broken what fault) opened).Within limit :=
  @within_collapse limit (.broken what fault) trivial opened

theorem within_abandon (fault : Fault) (opened : List Frame) :
    (abandon fault opened).Within limit := by
  cases opened with
  | nil => trivial
  | cons f outer =>
    cases f with
    | list done => exact @within_collapse limit (.list done.reverse (some fault)) trivial outer
    | members done => exact @within_collapse limit (.object done.reverse (some fault)) trivial outer
    | member done key => exact @within_collapse limit (.object _ none) trivial outer

section

variable {t : Token} {rest : List Token}

theorem within_after (hrest : ∀ due opened, (build due rest opened).outline.Within limit)
    {v : Outline} (hv : v.Within limit) (opened : List Frame) :
    (after v rest opened).outline.Within limit := by
  unfold after
  split
  · exact hrest _ _
  · exact hv

theorem within_value (ht : t.Within limit)
    (hrest : ∀ due opened, (build due rest opened).outline.Within limit) (opened : List Frame) :
    (build .value (t :: rest) opened).outline.Within limit := by
  have hafter : ∀ v : Outline, v.Within limit → (after v rest opened).outline.Within limit :=
    fun v hv => within_after hrest hv opened
  cases t with
  | openList => exact hrest _ _
  | openObject => exact hrest _ _
  | null => exact hafter .null trivial
  | bool b => exact hafter (.bool b) trivial
  | number n => exact hafter (.number n) trivial
  | text s => exact hafter (.text s) (by cases s <;> exact ht)
  | _ => exact within_broken _ _ _

theorem within_firstItem (ht : t.Within limit)
    (hrest : ∀ due opened, (build due rest opened).outline.Within limit) (opened : List Frame) :
    (build .firstItem (t :: rest) opened).outline.Within limit := by
  by_cases hclose : t = .closeList
  · subst hclose
    rcases opened with _ | ⟨done | done | done, outer⟩
    case cons.list => exact within_after (v := .list _ _) hrest trivial outer
    all_goals exact within_value ht hrest _
  · rw [build_firstItem hclose]
    exact within_value ht hrest _

theorem within_firstKey (hrest : ∀ due opened, (build due rest opened).outline.Within limit)
    (opened : List Frame) :
    (build .firstKey (t :: rest) opened).outline.Within limit := by
  have hstray : ∀ fault, (abandon fault opened).Within limit :=
    fun fault => within_abandon fault opened
  rcases opened with _ | ⟨done | done | done, outer⟩
  case cons.members =>
    cases t with
    | text key => exact hrest _ _
    | closeObject => exact within_after (v := .object _ _) hrest trivial outer
    | _ => exact hstray _
  all_goals cases t <;> exact hstray _

theorem within_key (hrest : ∀ due opened, (build due rest opened).outline.Within limit)
    (opened : List Frame) :
    (build .key (t :: rest) opened).outline.Within limit := by
  have hstray : ∀ fault, (abandon fault opened).Within limit :=
    fun fault => within_abandon fault opened
  rcases opened with _ | ⟨done | done | done, outer⟩
  case cons.members =>
    cases t with
    | text key => exact hrest _ _
    | _ => exact hstray _
  all_goals cases t <;> exact hstray _

theorem within_next (hrest : ∀ due opened, (build due rest opened).outline.Within limit)
    (opened : List Frame) :
    (build .next (t :: rest) opened).outline.Within limit := by
  have hstray : ∀ fault, (abandon fault opened).Within limit :=
    fun fault => within_abandon fault opened
  rcases opened with _ | ⟨done | done | done, outer⟩
  case cons.list =>
    cases t with
    | comma => exact hrest _ _
    | closeList => exact within_after (v := .list _ _) hrest trivial outer
    | _ => exact hstray _
  case cons.members =>
    cases t with
    | comma => exact hrest _ _
    | closeObject => exact within_after (v := .object _ _) hrest trivial outer
    | _ => exact hstray _
  all_goals cases t <;> exact hstray _

end

theorem within_build {tokens : List Token} (ht : ∀ t ∈ tokens, t.Within limit) (due : Due)
    (opened : List Frame) :
    (build due tokens opened).outline.Within limit := by
  induction tokens generalizing due opened with
  | nil =>
    cases due with
    | value => exact within_broken _ _ _
    | colon => exact within_broken _ _ _
    | _ => exact within_abandon _ _
  | cons t rest ih =>
    obtain ⟨ht, hrest⟩ := List.forall_mem_cons.mp ht
    have hrest : ∀ due opened, (build due rest opened).outline.Within limit := ih hrest
    cases due with
    | value => exact within_value ht hrest opened
    | colon =>
      cases t with
      | colon => exact hrest _ _
      | _ => exact within_broken _ _ _
    | firstItem => exact within_firstItem ht hrest opened
    | firstKey => exact within_firstKey hrest opened
    | key => exact within_key hrest opened
    | next => exact within_next hrest opened

theorem eq_text_of_toJson {o : Outline} {room : Nat} {s : String}
    (h : toJson room o = .ok (.text s)) :
    o = .text (.ok s) := by
  match o, room with
  | .text (.ok t), _ =>
    cases h
    rfl
  | .number (.ok n), _ => cases h
  | .number (.error _), _ | .text (.error _), _ | .null, _ | .bool _, _ | .broken _ _, _ => cases h
  | .list _ _, 0 | .object _ _, 0 => cases h
  | .list items fault, room + 1 =>
    obtain ⟨values, -, h⟩ := Except.bind_eq_ok h
    obtain ⟨_, -, h⟩ := Except.bind_eq_ok h
    cases h
  | .object members fault, room + 1 =>
    obtain ⟨values, -, h⟩ := Except.bind_eq_ok h
    obtain ⟨_, -, h⟩ := Except.bind_eq_ok h
    cases h

end Outline

theorem length_lt_of_parse {s t : String} (h : parse s = .ok (.text t)) : t.length < s.length := by
  have hwithin : (Outline.read s.toList).outline.Within s.toList.length :=
    Outline.within_build (fun _ => Token.within_of_mem_allAfter) .value []
  obtain ⟨value, hvalue, h⟩ := Except.bind_eq_ok h
  split at h
  · cases h
  · cases h
    rw [Outline.eq_text_of_toJson hvalue, String.length_toList] at hwithin
    exact hwithin

theorem depth_le_of_parse {s : String} {v : Json} (h : parse s = .ok v) : v.depth ≤ maxDepth := by
  obtain ⟨value, hvalue, h⟩ := Except.bind_eq_ok h
  split at h
  · cases h
  · cases h
    exact Outline.depth_le_of_toJson _ hvalue

/-- The texts that print back are those that values are printed as which are no texts and whose
numbers are read back. -/
theorem printsBack_iff {s : String} : PrintsBack s ↔
    ∃ v : Json, v.WellFormed ∧ v.depth ≤ maxDepth ∧ (∀ w, v ≠ .text w) ∧ Coercion.Kept v ∧
      Coercion.text v = s := by
  constructor
  · rintro ⟨v, hparse, htext⟩
    have hv := wellFormed_of_parse hparse
    have hdepth := depth_le_of_parse hparse
    have hkind : ∀ w, v ≠ .text w := by
      rintro w rfl
      have hshorter := length_lt_of_parse hparse
      rw [← htext] at hshorter
      exact absurd hshorter (Nat.lt_irrefl _)
    refine ⟨v, hv, hdepth, hkind, ?_, htext⟩
    by_cases hreal : ∃ x, v = .number (.real x)
    · obtain ⟨x, rfl⟩ := hreal
      have hplain : x.plainText = s := htext
      rw [Coercion.Kept, hplain, hparse]
      rfl
    · exact (parse_text_eq_iff hv hdepth hkind fun x hx => hreal ⟨x, hx⟩).mp (htext.symm ▸ hparse)
  · rintro ⟨v, hv, hdepth, hkind, hkept, rfl⟩
    exact printsBack_text hv hdepth hkind hkept

end Json

end ChatFlow
