import ChatFlow.Json.Token
import ChatFlow.Proofs.Scaling

namespace ChatFlow

namespace Json

open Decimal (isDigit valueOf digitsOf Stops)

structure Numeral where
  negative : Bool
  whole : List Char
  /-- the digits behind the point; without any there is no point -/
  fraction : List Char
  /-- the sign and the digits of the exponent -/
  exponent : Option (Bool × List Char)

namespace Numeral

def sign (negative : Bool) : List Char := if negative then ['-'] else []

def exponentText : Option (Bool × List Char) → List Char
  | none => []
  | some (negative, digits) => 'e' :: (if negative then '-' else '+') :: digits

def behind (n : Numeral) : List Char :=
  (if n.fraction.isEmpty then [] else '.' :: n.fraction) ++ exponentText n.exponent

def text (n : Numeral) : List Char := sign n.negative ++ (n.whole ++ n.behind)

def exponentValue : Option (Bool × List Char) → Int
  | none => 0
  | some (negative, digits) => if negative then -(valueOf digits : Int) else valueOf digits

def decimal (n : Numeral) : Decimal := Token.decimal n.negative n.whole n.fraction
    (exponentValue n.exponent)

/-- The number that is read from a numeral: an integer if there is neither a point nor an
exponent. -/
def number (n : Numeral) : Number :=
  if n.fraction.isEmpty ∧ n.exponent.isNone then Token.integer n.negative n.whole
  else .real (.scale n.decimal)

/-- The parts are digits; a zero stands in front only by itself. -/
structure Legal (n : Numeral) : Prop where
  whole : ∀ c ∈ n.whole, isDigit c = true
  nonempty : n.whole ≠ []
  leading : n.whole.head? = some '0' → n.whole = ['0']
  fraction : ∀ c ∈ n.fraction, isDigit c = true
  exponent : ∀ e ∈ n.exponent, e.2 ≠ [] ∧ ∀ c ∈ e.2, isDigit c = true

end Numeral

def EndsNumber (tail : List Char) : Prop :=
  ∀ c ∈ tail.head?, isDigit c = false ∧ c ≠ '.' ∧ c ≠ 'e' ∧ c ≠ 'E'

theorem EndsNumber.stops {tail : List Char} (h : EndsNumber tail) : Stops tail :=
  fun c hc => (h c hc).1

namespace Token

theorem gather_of_le {cs : List Char} {n : Nat} (h : n * 10 ^ cs.length + valueOf cs ≤ maxWord) :
    gather n cs = (n * 10 ^ cs.length + valueOf cs, 0) := by
  induction cs generalizing n with
  | nil => simp [gather, valueOf]
  | cons c cs ih =>
    have hvalue : n * 10 ^ (c :: cs).length + valueOf (c :: cs) =
        (10 * n + Decimal.digitValue c) * 10 ^ cs.length + valueOf cs := by
      have happend : valueOf (c :: cs) = valueOf [c] * 10 ^ cs.length + valueOf cs :=
        Decimal.valueOf_append [c] cs
      have hdigit : valueOf [c] = Decimal.digitValue c := by simp [valueOf]
      rw [happend, hdigit, List.length_cons, Nat.pow_succ]
      ring
    rw [hvalue] at h ⊢
    have hnext : 10 * n + Decimal.digitValue c ≤ maxWord := by
      have hle := Nat.le_mul_of_pos_right (10 * n + Decimal.digitValue c)
        (Nat.pow_pos (a := 10) (n := cs.length)
        (by decide))
      omega
    rw [gather, if_pos hnext, ih h]

theorem decimal_of_le {whole fraction : List Char} (h : valueOf (whole ++ fraction) ≤ maxWord)
    (negative : Bool) (e : Int) :
    decimal negative whole fraction e =
      ⟨negative, valueOf (whole ++ fraction), e - fraction.length⟩ := by
  rw [Decimal.valueOf_append] at h ⊢
  have hwhole : gather 0 whole = (valueOf whole, 0) := by
    have hle := Nat.le_mul_of_pos_right (valueOf whole)
      (Nat.pow_pos (a := 10) (n := fraction.length) (by decide))
    have hfits : 0 * 10 ^ whole.length + valueOf whole ≤ maxWord := by omega
    simpa using gather_of_le hfits
  rw [decimal, hwhole]
  dsimp only
  rw [gather_of_le h]
  congr 1
  omega

theorem scanUnsigned_append {whole rest : List Char} (negative : Bool)
    (hdigits : ∀ c ∈ whole, isDigit c = true) (hnonempty : whole ≠ [])
    (hleading : whole.head? = some '0' → whole = ['0']) (hrest : Stops rest) :
    scanUnsigned negative (whole ++ rest) = scanBehind negative whole rest := by
  unfold scanUnsigned
  rw [Decimal.spanDigits_append hdigits hrest]
  dsimp only
  split
  · exact absurd rfl hnonempty
  · exact absurd (hleading rfl) (by simp)
  · rfl

theorem scanNumber_append {n : Numeral} (h : n.Legal) {rest : List Char} (hrest : Stops rest) :
    scanNumber (Numeral.sign n.negative ++ (n.whole ++ rest)) =
      scanBehind n.negative n.whole rest := by
  rw [← scanUnsigned_append n.negative h.whole h.nonempty h.leading hrest]
  cases n.negative with
  | true => rfl
  | false =>
    obtain ⟨c, cs, hcons⟩ := List.exists_cons_of_ne_nil h.nonempty
    show scanNumber (n.whole ++ rest) = _
    rw [hcons]
    unfold scanNumber
    split
    · next heq =>
      have hminus := h.whole c (hcons ▸ List.mem_cons_self)
      rw [(List.cons.inj heq).1] at hminus
      exact absurd hminus (by decide)
    · rfl

theorem scanExponent_append {digits tail : List Char} (negative : Bool) (hnonempty : digits ≠ [])
    (hdigits : ∀ c ∈ digits, isDigit c = true) (htail : Stops tail) :
    scanExponent ((if negative then '-' else '+') :: (digits ++ tail)) =
      .ok (Numeral.exponentValue (some (negative, digits)), 1 + digits.length) := by
  have hspan := Decimal.spanDigits_append hdigits htail
  have htake : (digits ++ tail).takeWhile isDigit = digits := congrArg Prod.fst hspan
  have hempty : digits.isEmpty = false := by simpa using hnonempty
  cases negative <;>
    simp [scanExponent, Decimal.takeSign, htake, hempty, Numeral.exponentValue]

theorem stops_exponentText (e : Option (Bool × List Char)) {tail : List Char}
    (htail : EndsNumber tail) :
    Stops (Numeral.exponentText e ++ tail) := by
  cases e with
  | none => exact htail.stops
  | some e => exact Decimal.stops_cons (by decide) _

theorem stops_behind (n : Numeral) {tail : List Char} (htail : EndsNumber tail) :
    Stops (n.behind ++ tail) := by
  unfold Numeral.behind
  split
  · exact stops_exponentText n.exponent htail
  · exact Decimal.stops_cons (by decide) _

theorem scanExponentPart_append {n : Numeral} (h : n.Legal) {tail : List Char}
    (htail : EndsNumber tail) (plain : Token) (value : Int → Token) (size : Nat) :
    scanExponentPart plain value size (Numeral.exponentText n.exponent ++ tail) =
      (if n.exponent.isNone then plain else value (Numeral.exponentValue n.exponent),
        size + (Numeral.exponentText n.exponent).length) := by
  have hexponent := h.exponent
  cases hn : n.exponent with
  | none =>
    cases tail with
    | nil => rfl
    | cons c tail =>
      obtain ⟨-, -, he⟩ := htail c rfl
      exact if_neg (by simpa using he)
  | some e =>
    obtain ⟨sign, digits⟩ := e
    obtain ⟨hnonempty, hdigits⟩ := hexponent (sign, digits) hn
    have hscan := scanExponent_append sign hnonempty hdigits htail.stops
    show scanExponentPart plain value size
        ('e' :: (if sign then '-' else '+') :: (digits ++ tail)) = _
    rw [scanExponentPart, if_pos (.inl rfl), hscan]
    show (_, _) = (_, _)
    rw [Nat.add_assoc]
    simp [Numeral.exponentText, Nat.add_comm, Nat.add_left_comm]

/-- What stands behind the first digits is read to the end of the numeral. -/
theorem scanBehind_append {n : Numeral} (h : n.Legal) {tail : List Char} (htail : EndsNumber tail) :
    scanBehind n.negative n.whole (n.behind ++ tail) =
      (.number (bounded n.number), n.negative.toNat + (n.whole.length + n.behind.length)) := by
  have hpart := scanExponentPart_append h htail
  have hdigits := h.fraction
  have hstops := stops_exponentText n.exponent htail
  obtain ⟨negative, whole, fraction, exponent⟩ := n
  dsimp only at *
  cases fraction with
  | nil =>
    have hpoint : ∀ rest, Numeral.exponentText exponent ++ tail ≠ '.' :: rest := by
      intro rest hcons
      cases exponent with
      | none => exact (htail '.' (congrArg List.head? hcons)).2.1 rfl
      | some e => exact absurd (List.cons.inj hcons).1 (by decide)
    show scanBehind negative whole (Numeral.exponentText exponent ++ tail) = _
    unfold scanBehind
    dsimp only
    split
    · next hcons => exact absurd hcons (hpoint _)
    · rw [hpart]
      cases exponent <;> simp [Numeral.number, Numeral.decimal, Numeral.behind, Nat.add_assoc]
  | cons c fraction =>
    have hspan := Decimal.spanDigits_append hdigits hstops
    have hbehind : Numeral.behind ⟨negative, whole, c :: fraction, exponent⟩ ++ tail =
        '.' :: ((c :: fraction) ++ (Numeral.exponentText exponent ++ tail)) := by
      simp [Numeral.behind]
    rw [hbehind, scanBehind]
    simp only [hspan, hpart]
    cases exponent <;>
      simp [Numeral.number, Numeral.decimal, Numeral.behind, Numeral.exponentValue] <;> omega

theorem scanNumber_text {n : Numeral} (h : n.Legal) {tail : List Char} (htail : EndsNumber tail) :
    scanNumber (n.text ++ tail) = (.number (bounded n.number), n.text.length) := by
  have hsign : (Numeral.sign n.negative).length = n.negative.toNat := by cases n.negative <;> rfl
  calc
    scanNumber (n.text ++ tail) = scanBehind n.negative n.whole (n.behind ++ tail) := by
      rw [← scanNumber_append h (stops_behind n htail)]
      simp only [Numeral.text, List.append_assoc]
    _ = (.number (bounded n.number), n.negative.toNat + (n.whole.length + n.behind.length)) :=
      scanBehind_append h htail
    _ = (.number (bounded n.number), n.text.length) := by
      simp only [Numeral.text, List.length_append, hsign]

end Token

namespace Numeral

open Binary64 (finite shortest)

def ofInt (n : Int) : Numeral := ⟨decide (n < 0), digitsOf n.natAbs, [], none⟩

def positional (negative : Bool) (digits : List Char) (point : Int) : Numeral :=
  if point ≤ 0 then ⟨negative, ['0'], List.replicate point.natAbs '0' ++ digits, none⟩
  else if digits.length ≤ point.natAbs then
    ⟨negative, digits ++ List.replicate (point.natAbs - digits.length) '0', ['0'], none⟩
  else ⟨negative, digits.take point.natAbs, digits.drop point.natAbs, none⟩

def scientific (negative : Bool) (digits : List Char) (point : Int) : Numeral :=
  ⟨negative, digits.take 1, digits.drop 1,
    some (decide (point - 1 < 0), digitsOf (point - 1).natAbs)⟩

theorem legal_digitsOf (negative : Bool) (n : Nat) :
    (Numeral.mk negative (digitsOf n) [] none).Legal := by
  refine ⟨fun _ => Decimal.isDigit_of_mem_digitsOf, Decimal.digitsOf_ne_nil _, ?_, nofun, nofun⟩
  intro hzero
  show digitsOf n = ['0']
  rcases Nat.eq_zero_or_pos n with h | h
  · rw [h]
    rfl
  · obtain ⟨c, rest, hdigits, hne⟩ := Decimal.digitsOf_eq_cons h
    have hhead : (digitsOf n).head? = some '0' := hzero
    rw [hdigits] at hhead
    exact absurd (Option.some.inj hhead) hne

theorem legal_ofInt (n : Int) : (ofInt n).Legal := legal_digitsOf _ _

theorem number_ofInt {n : Int} (hn : (Number.whole n).Valid) : (ofInt n).number = .whole n := by
  obtain ⟨hlow, hhigh⟩ := hn
  have hvalue : valueOf (digitsOf n.natAbs) = n.natAbs := Decimal.valueOf_digitsOf _
  show Token.integer (decide (n < 0)) (digitsOf n.natAbs) = .whole n
  unfold Token.integer
  simp only [hvalue, decide_eq_true_eq]
  split
  · rw [if_neg (by omega), if_pos (by omega)]
    exact congrArg Number.whole (by omega)
  · rw [if_pos (by omega)]
    exact congrArg Number.whole (by omega)

theorem text_positional (negative : Bool) (c : Nat) (point : Int) :
    (positional negative (digitsOf c) point).text =
      sign negative ++ Binary64.positional (digitsOf c) point ['.', '0'] := by
  unfold positional Binary64.positional
  split
  · simp [text, behind, exponentText, Decimal.digitsOf_ne_nil]
  · split
    · simp [text, behind, exponentText]
    · simp [text, behind, exponentText]
      omega

theorem text_scientific (negative : Bool) (c : Nat) (point : Int) :
    (scientific negative (digitsOf c) point).text =
      sign negative ++ Binary64.scientific (digitsOf c) point := by
  obtain ⟨d, rest, hdigits⟩ := List.exists_cons_of_ne_nil (Decimal.digitsOf_ne_nil c)
  unfold scientific Binary64.scientific
  cases rest <;> simp [text, behind, exponentText, hdigits]

theorem decimal_scientific (negative : Bool) {c : Nat} (hc : c ≤ maxWord) (k : Int) :
    (scientific negative (digitsOf c) ((digitsOf c).length + k)).decimal = ⟨negative, c, k⟩ := by
  have hlength := Decimal.length_digitsOf_pos c
  have hdigits : valueOf ((digitsOf c).take 1 ++ (digitsOf c).drop 1) = c := by
    rw [List.take_append_drop, Decimal.valueOf_digitsOf]
  have hexponent : ∀ e : Int, exponentValue (some (decide (e < 0), digitsOf e.natAbs)) = e := by
    intro e
    simp only [exponentValue, Decimal.valueOf_digitsOf, decide_eq_true_eq]
    split <;> omega
  unfold scientific decimal
  dsimp only
  rw [Token.decimal_of_le (by rwa [hdigits])]
  simp only [hdigits, hexponent, List.length_drop]
  congr 1
  omega

theorem number_of_fraction {n : Numeral} (h : n.fraction ≠ []) :
    n.number = .real (.scale n.decimal) :=
  if_neg fun hempty => h (List.isEmpty_iff.mp hempty.1)

theorem number_of_exponent {n : Numeral} (h : n.exponent ≠ none) :
    n.number = .real (.scale n.decimal) :=
  if_neg fun hempty => h (Option.isNone_iff_eq_none.mp hempty.2)

theorem fraction_positional_ne_nil (negative : Bool) (c : Nat) (point : Int) :
    (positional negative (digitsOf c) point).fraction ≠ [] := by
  unfold positional
  split
  · simp [Decimal.digitsOf_ne_nil]
  · split
    · simp
    · simp
      omega

/-- The decimal of a numeral without an exponent has its last digit behind the point, and the value
that was given. -/
theorem decimal_positional (negative : Bool) {c : Nat} {k : Int} (hle : c ≤ 10 ^ 18 + 1)
    (hpoint : (digitsOf c).length + k ≤ 16) :
    ∃ n j, (positional negative (digitsOf c) ((digitsOf c).length + k)).decimal = ⟨negative, n, j⟩ ∧
      n ≤ maxWord ∧
      j < 0 ∧ ∀ m e, Binary64.NearPower m e c k → Binary64.NearPower m e n j := by
  have hlength := Decimal.length_digitsOf_pos c
  have hvalue := Decimal.valueOf_digitsOf c
  have hword : c ≤ maxWord := hle.trans (by decide)
  unfold positional
  split
  · -- every digit stands behind the point
    have hzeros : valueOf
        (['0'] ++ (List.replicate ((digitsOf c).length + k).natAbs '0' ++ digitsOf c)) = c := by
      rw [Decimal.valueOf_append, Decimal.valueOf_append, Decimal.valueOf_replicate_zero, hvalue]
      simp [valueOf, Decimal.digitValue]
    refine ⟨c, k, ?_, hword, by omega, fun _ _ h => h⟩
    rw [decimal, Token.decimal_of_le (by rwa [hzeros])]
    simp only [hzeros, exponentValue, List.length_append, List.length_replicate]
    congr 1
    omega
  · split
    · -- every digit stands in front of the point
      obtain ⟨j, rfl⟩ : ∃ j : Nat, k = j := ⟨k.toNat, by omega⟩
      have hpower : valueOf ((digitsOf c ++ List.replicate j '0') ++ ['0']) = c * 10 ^ (j + 1) := by
        rw [Decimal.valueOf_append, Decimal.valueOf_append, Decimal.valueOf_replicate_zero, hvalue,
          List.length_replicate, Nat.pow_succ]
        simp [valueOf, Decimal.digitValue, Nat.mul_assoc]
      have hplaces : ((digitsOf c).length + (j : Int)).natAbs - (digitsOf c).length = j := by omega
      have hsmall : c * 10 ^ (j + 1) ≤ maxWord := by
        calc
          c * 10 ^ (j + 1) ≤ 10 ^ (digitsOf c).length * 10 ^ (j + 1) :=
            Nat.mul_le_mul_right _ (Decimal.lt_pow_length_digitsOf c).le
          _ = 10 ^ ((digitsOf c).length + (j + 1)) := (Nat.pow_add _ _ _).symm
          _ ≤ 10 ^ 17 := Nat.pow_le_pow_right (by decide) (by omega)
          _ ≤ maxWord := by decide
      refine ⟨c * 10 ^ (j + 1), -1, ?_,
        hsmall, by decide, fun _ _ h => Binary64.NearPower.pointed h⟩
      rw [decimal, hplaces, Token.decimal_of_le (by rwa [hpower])]
      simp only [hpower, exponentValue]
      rfl
    · -- the point stands between two digits
      refine ⟨c, k, ?_, hword, by omega, fun _ _ h => h⟩
      rw [decimal, Token.decimal_of_le (by rwa [List.take_append_drop, hvalue])]
      simp only [List.take_append_drop, hvalue, exponentValue, List.length_drop]
      congr 1
      omega

section

variable {c : Nat} (hc : 0 < c) (negative : Bool)

include hc

theorem legal_positional (point : Int) : (positional negative (digitsOf c) point).Legal := by
  obtain ⟨d, rest, hdigits, hne⟩ := Decimal.digitsOf_eq_cons hc
  have hall : ∀ x ∈ digitsOf c, isDigit x = true := fun _ => Decimal.isDigit_of_mem_digitsOf
  have hzeros : ∀ k, ∀ x ∈ List.replicate k '0', isDigit x = true :=
    fun _ _ => Decimal.isDigit_of_mem_replicate
  have hzero : ∀ x ∈ ['0'], isDigit x = true := List.forall_mem_singleton.mpr (by decide)
  unfold positional
  split
  · refine ⟨hzero, List.cons_ne_nil _ _, ?_, ?_, nofun⟩
    · intro _
      rfl
    · intro x hx
      exact (List.mem_append.mp hx).elim (hzeros _ x) (hall x)
  · split
    · refine ⟨?_, ?_, ?_, hzero, nofun⟩
      · intro x hx
        exact (List.mem_append.mp hx).elim (hall x) (hzeros _ x)
      · simp [hdigits]
      · simp [hdigits, hne]
    · refine ⟨?_, ?_, ?_, ?_, nofun⟩
      · exact fun x hx => hall x (List.mem_of_mem_take hx)
      · simp [hdigits]
        omega
      · intro hhead
        rw [hdigits, List.head?_take] at hhead
        simp_all
      · exact fun x hx => hall x (List.mem_of_mem_drop hx)

theorem legal_scientific (point : Int) : (scientific negative (digitsOf c) point).Legal := by
  obtain ⟨d, rest, hdigits, hne⟩ := Decimal.digitsOf_eq_cons hc
  have hall : ∀ x ∈ digitsOf c, isDigit x = true := fun _ => Decimal.isDigit_of_mem_digitsOf
  refine ⟨fun x hx => hall x (List.mem_of_mem_take hx), ?_, ?_,
    fun x hx => hall x (List.mem_of_mem_drop hx), ?_⟩
  · simp [scientific, hdigits]
  · simp [scientific, hdigits]
  · rintro _ ⟨⟩
    exact ⟨Decimal.digitsOf_ne_nil _, fun _ => Decimal.isDigit_of_mem_digitsOf⟩

end

def ofFinite (negative : Bool) (m e : Nat) : Numeral :=
  if m = 0 then ⟨negative, ['0'], ['0'], none⟩
  else
    let (c, k) := shortest .toEven m e
    let digits := digitsOf c
    if Binary64.Layout.json.isPositional (digits.length + k - 1) then
      positional negative digits (digits.length + k)
    else scientific negative digits (digits.length + k)

theorem text_ofFinite (negative : Bool) (m e : Nat) :
    (ofFinite negative m e).text = (finite negative m e).jsonText := by
  show _ = Binary64.write .json negative m e
  unfold ofFinite Binary64.write
  split
  · rfl
  · have htie : Binary64.Layout.json.tie = .toEven := rfl
    dsimp only
    rw [htie]
    split
    · exact text_positional _ _ _
    · exact text_scientific _ _ _

theorem legal_ofFinite {negative : Bool} {m e : Nat}
    (hcanonical : (finite negative m e).Canonical) :
    (ofFinite negative m e).Legal := by
  unfold ofFinite
  split
  · have hzero : ∀ x ∈ ['0'], isDigit x = true := List.forall_mem_singleton.mpr (by decide)
    exact ⟨hzero, List.cons_ne_nil _ _, fun _ => rfl, hzero, nofun⟩
  · next hm =>
    have hpos := Binary64.shortest_pos .toEven hcanonical (Nat.pos_of_ne_zero hm)
    dsimp only
    split
    · exact legal_positional hpos negative _
    · exact legal_scientific hpos negative _

section Double

variable {negative : Bool} {m e : Nat} (hcanonical : (finite negative m e).Canonical)

include hcanonical

/-- What is read from the numeral of a double is a decimal near to it. -/
theorem exists_decimal_ofFinite (hm : 0 < m) :
    ∃ c k, (ofFinite negative m e).decimal = ⟨negative, c, k⟩ ∧ c ≤ maxWord ∧ k ≤ 308 ∧
      Binary64.NearPower m e c k ∧
      (ofFinite negative m e).number = .real (.scale (ofFinite negative m e).decimal) := by
  have hpos := Binary64.shortest_pos .toEven hcanonical hm
  have hle := Binary64.shortest_le .toEven hcanonical hm
  have hnear := Binary64.nearPower_shortest .toEven hcanonical hm
  unfold ofFinite
  rw [if_neg (Nat.ne_of_gt hm)]
  dsimp only
  generalize (shortest .toEven m e).1 = c at *
  generalize (shortest .toEven m e).2 = k at *
  split
  · next hplace =>
    have hpoint : (digitsOf c).length + k ≤ 16 := by
      simp only [Binary64.Layout.json, Bool.and_eq_true, decide_eq_true_eq] at hplace
      omega
    obtain ⟨n, j, hdecimal, hn, hj, hnear'⟩ := decimal_positional negative hle hpoint
    exact ⟨n, j, hdecimal, hn, by omega, hnear' m e hnear,
      number_of_fraction (fraction_positional_ne_nil negative _ _)⟩
  · have hword : c ≤ maxWord := hle.trans (by decide)
    exact ⟨c, k, decimal_scientific negative hword k, hword,
      hnear.exponent_le hcanonical hpos, hnear, number_of_exponent (Option.some_ne_none _)⟩

theorem exists_number_ofFinite :
    ∃ x, (ofFinite negative m e).number = .real x ∧ x.isFinite = true ∧ x.Canonical := by
  rcases Nat.eq_zero_or_pos m with rfl | hm
  · obtain rfl : e = 0 := hcanonical.2.1.resolve_right (by decide)
    exact ⟨.zero
      negative, by cases negative <;> decide +kernel, rfl, Binary64.canonical_zero negative⟩
  · obtain ⟨c, k, hdecimal, hc, hplaces, hnear, hnumber⟩ := exists_decimal_ofFinite hcanonical hm
    refine ⟨_, hnumber, ?_, Binary64.canonical_scale _⟩
    obtain ⟨hsig, -, he⟩ := hcanonical
    by_cases hplace : m + 4 ≤ 2 * Binary64.topBit ∨ e < 2045
    · rw [hdecimal]
      rcases Int.lt_or_le k 0 with hk | hk
      · exact Binary64.isFinite_scale_of_neg hc hk
      · obtain ⟨j, rfl⟩ := Int.eq_ofNat_of_zero_le hk
        exact Binary64.isFinite_scale_of_near hsig he hplace hc (by omega) hnear
    · -- the last three doubles are looked at one by one
      have hlast : ∀ s, ∀ d < 3,
          (Binary64.scale (ofFinite s (9007199254740991 - d) 2045).decimal).isFinite = true := by
        decide +kernel
      obtain rfl : e = 2045 := by omega
      have htopBit : Binary64.topBit = 4503599627370496 := rfl
      have hm' : m = 9007199254740991 - (9007199254740991 - m) := by omega
      rw [hm']
      exact hlast negative _ (by omega)

end Double

end Numeral

end Json

namespace Number

def reread : Number → Number
  | real (.finite negative m e) => (Json.Numeral.ofFinite negative m e).number
  | n => n

def Kept (n : Number) : Prop := n.reread = n

instance (n : Number) : Decidable n.Kept := inferInstanceAs (Decidable (_ = _))

/-- A double is read back if its digits and its power of ten are doubles themselves. -/
theorem kept_of_exact {negative : Bool} {m e : Nat}
    (hcanonical : (Binary64.finite negative m e).Canonical)
    (hdigits : (Json.Numeral.ofFinite negative m e).decimal.digits < 2 ^ 53)
    (hexponent : (Json.Numeral.ofFinite negative m e).decimal.exponent.natAbs ≤ 22) :
    (real (.finite negative m e)).Kept := by
  rcases Nat.eq_zero_or_pos m with rfl | hm
  · obtain rfl : e = 0 := hcanonical.2.1.resolve_right (by decide)
    cases negative <;> decide +kernel
  · obtain ⟨c, k, hdecimal, -, -, hnear, hnumber⟩ :=
      Json.Numeral.exists_decimal_ofFinite hcanonical hm
    rw [hdecimal] at hdigits hexponent
    rw [Kept, reread, hnumber, hdecimal]
    exact congrArg real (Binary64.scale_of_near hcanonical hdigits hexponent hnear)

theorem valid_reread {n : Number} (hn : n.Valid) : n.reread.Valid := by
  cases n with
  | whole n => exact hn
  | real x =>
    obtain ⟨hfinite, hcanonical⟩ := hn
    cases x with
    | finite negative m e =>
      obtain ⟨x, hnumber, hx⟩ := Json.Numeral.exists_number_ofFinite hcanonical
      rw [reread, hnumber]
      exact hx
    | nan | infinity => cases hfinite

-- the digits of 0.9452706955539223 are rounded before they are divided
example : (real (.finite false 8514241504521788 1021)).reread =
    real (.finite false 8514241504521789 1021) := by
  decide +kernel

end Number

namespace Json

open Decimal (isDigit)

/-- What is written for a number is a numeral of the number that is read from it. -/
theorem exists_numeral {n : Number} (hn : n.Valid) :
    ∃ numeral : Numeral, numeral.Legal ∧ numeral.text = n.jsonText ∧ numeral.number = n.reread := by
  cases n with
  | whole n =>
    refine ⟨.ofInt n, Numeral.legal_ofInt n, ?_, Numeral.number_ofInt hn⟩
    simp [Numeral.ofInt, Numeral.text, Numeral.behind, Numeral.sign, Numeral.exponentText,
      Number.jsonText]
  | real x =>
    obtain ⟨hfinite, hcanonical⟩ := hn
    cases x with
    | finite negative m e =>
      exact ⟨.ofFinite negative m e, Numeral.legal_ofFinite hcanonical,
        Numeral.text_ofFinite negative m e, rfl⟩
    | nan | infinity => cases hfinite

theorem bounded_of_valid {n : Number} (hn : n.Valid) : Token.bounded n = .ok n := by
  cases n with
  | whole n => rfl
  | real x => exact if_pos hn.1

theorem Numeral.Legal.exists_cons_text {n : Numeral} (h : n.Legal) :
    ∃ c rest, n.text = c :: rest ∧ (c = '-' ∨ isDigit c = true) := by
  obtain ⟨c, rest, hcons⟩ := List.exists_cons_of_ne_nil h.nonempty
  rw [Numeral.text, hcons]
  cases n.negative with
  | true => exact ⟨'-', _, rfl, .inl rfl⟩
  | false => exact ⟨c, _, rfl, .inr (h.whole c (hcons ▸ List.mem_cons_self))⟩

end Json

end ChatFlow
