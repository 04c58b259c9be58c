import ChatFlow.Coercion
import ChatFlow.Proofs.Digits

namespace ChatFlow

namespace Binary64

theorem roundQuotient_ne_nan (negative : Bool) (num den : Nat) :
    roundQuotient negative num den ≠ nan := by
  have hlast : ∀ m e, (if e ≤ 2045 then finite negative m e else infinity negative) ≠ nan := by
    intro m e
    split <;> exact nofun
  exact hlast _ _

theorem ofDecimal_ne_nan (d : Decimal) : ofDecimal d ≠ nan := by
  unfold ofDecimal
  dsimp only
  split
  · exact nofun
  split
  · exact nofun
  split
  · exact nofun
  split <;> exact roundQuotient_ne_nan _ _ _

end Binary64

namespace Script

open Decimal (isDigit takeSign spanDigits readExponent? read? Stops)
open Coercion (isForeignLetter isHexLiteral)

inductive Sign : List Char → Prop
  | none : Sign []
  | plus : Sign ['+']
  | minus : Sign ['-']

def Digits (cs : List Char) : Prop := ∀ c ∈ cs, isDigit c = true

inductive Exponent : List Char → Prop
  | none : Exponent []
  | some {mark : Char} {sign digits : List Char} (hmark : mark = 'e' ∨ mark = 'E')
    (hsign : Sign sign)
      (hdigits : Digits digits) (hne : digits ≠ []) : Exponent (mark :: (sign ++ digits))

/-- A decimal without a sign. There are digits on one side of the point at least, or there is no
point. -/
inductive Unsigned : List Char → Prop
  | whole {whole exponent : List Char} (hwhole : Digits whole) (hne : whole ≠ [])
    (hexponent : Exponent exponent) :
      Unsigned (whole ++ exponent)
  | pointed {whole fraction exponent : List Char} (hwhole : Digits whole) (hne : whole ≠ [])
      (hfraction : Digits fraction) (hexponent : Exponent exponent) :
      Unsigned (whole ++ '.' :: (fraction ++ exponent))
  | fraction {fraction exponent : List Char} (hfraction : Digits fraction) (hne : fraction ≠ [])
      (hexponent : Exponent exponent) : Unsigned ('.' :: (fraction ++ exponent))

inductive Base
  | sixteen
  | eight
  | two
  deriving DecidableEq

namespace Base

def radix : Base → Nat
  | sixteen => 16
  | eight => 8
  | two => 2

def marks : Base → List Char
  | sixteen => ['x', 'X']
  | eight => ['o', 'O']
  | two => ['b', 'B']

def isDigit (base : Base) (c : Char) : Bool := (Text.hexValue? c).any (· < base.radix)

/-- A zero, a letter of the base and one or more of its digits. -/
inductive Spells (base : Base) : List Char → Prop
  | intro {mark : Char} {digits : List Char} (hmark : mark ∈ base.marks)
    (hdigits : ∀ c ∈ digits, base.isDigit c = true)
      (hne : digits ≠ []) : Spells base ('0' :: mark :: digits)

end Base

/-- The texts that spell numbers in scripts, blanks around them aside. -/
inductive Numeral : List Char → Prop
  | empty : Numeral []
  | infinity {sign : List Char} (hsign : Sign sign) :
    Numeral (sign ++ ['I', 'n', 'f', 'i', 'n', 'i', 't', 'y'])
  | decimal {sign cs : List Char} (hsign : Sign sign) (hcs : Unsigned cs) : Numeral (sign ++ cs)
  | based (base : Base) {cs : List Char} (hcs : base.Spells cs) : Numeral cs

inductive Overlooked : List Char → Prop
  | eight {cs : List Char} (hcs : Base.eight.Spells cs) : Overlooked cs
  | two {cs : List Char} (hcs : Base.two.Spells cs) : Overlooked cs
  | large {mark : Char} {digits : List Char} (hcs : Base.sixteen.Spells ('0' :: mark :: digits))
      (hlarge : 2 ^ 63 ≤ Text.hexNumber digits) : Overlooked ('0' :: mark :: digits)

variable {cs sign body : List Char}

theorem sign_takeSign (cs : List Char) : ∃ sign, Sign sign ∧ cs = sign ++ (takeSign cs).2 := by
  unfold takeSign
  split
  · exact ⟨['-'], .minus, rfl⟩
  · exact ⟨['+'], .plus, rfl⟩
  · exact ⟨[], .none, rfl⟩

/-- What follows the sign is found if it does not begin with another one. -/
theorem takeSign_append (hsign : Sign sign) (hbody : ∀ c ∈ body.head?, c ≠ '+' ∧ c ≠ '-') :
    (takeSign (sign ++ body)).2 = body := by
  cases hsign with
  | none =>
    rw [List.nil_append]
    unfold takeSign
    split
    · exact absurd rfl (hbody '-' rfl).2
    · exact absurd rfl (hbody '+' rfl).1
    · rfl
  | plus => rfl
  | minus => rfl

theorem Digits.head_ne (h : Digits cs) : ∀ c ∈ cs.head?, c ≠ '+' ∧ c ≠ '-' := by
  intro c hc
  have hdigit := h c (List.mem_of_mem_head? hc)
  exact ⟨fun heq => absurd (heq ▸ hdigit) (by decide), fun heq => absurd (heq ▸ hdigit) (by decide)⟩

theorem Exponent.stops (h : Exponent cs) : Stops cs := by
  cases h with
  | none => exact nofun
  | some hmark _ _ _ => exact Decimal.stops_cons (by rcases hmark with rfl | rfl <;> rfl) _

theorem isSome_readExponent?_iff : (readExponent? cs).isSome = true ↔ Exponent cs := by
  cases cs with
  | nil => exact ⟨fun _ => .none, fun _ => rfl⟩
  | cons mark rest =>
    have hread : (readExponent? (mark :: rest)).isSome = true ↔
        (mark = 'e' ∨ mark = 'E') ∧ (takeSign rest).2 ≠ [] ∧ Digits (takeSign rest).2 := by
      by_cases hmark : mark = 'e' ∨ mark = 'E'
      · by_cases hnil : (takeSign rest).2 = []
        · simp [readExponent?, hmark, hnil]
        · simp [readExponent?, hmark, hnil, Digits]
      · simp [readExponent?, hmark]
    rw [hread]
    constructor
    · rintro ⟨hmark, hne, hdigits⟩
      obtain ⟨sign, hsign, hrest⟩ := sign_takeSign rest
      rw [hrest]
      exact .some hmark hsign hdigits hne
    · intro h
      cases h with
      | some hmark hsign hdigits hne =>
        rw [takeSign_append hsign hdigits.head_ne]
        exact ⟨hmark, hne, hdigits⟩

def readsUnsigned (body : List Char) : Bool :=
  let (whole, rest) := spanDigits body
  let (fraction, rest) := match rest with
    | '.' :: rest => spanDigits rest
    | rest => ([], rest)
  !(whole.isEmpty && fraction.isEmpty) && (readExponent? rest).isSome

theorem isSome_read? (cs : List Char) : (read? cs).isSome = readsUnsigned (takeSign cs).2 := by
  have hmap : ∀ (empty : Bool) (e : Option Int) (f : Int → Decimal),
      (if empty = true then none else e.map f).isSome = (!empty && e.isSome) := by
    intro empty e f
    cases empty <;> simp
  unfold read? readsUnsigned
  exact hmap _ _ _

theorem exists_split (cs : List Char) : ∃ digits rest, Digits digits ∧ Stops rest ∧
    cs = digits ++ rest := by
  refine ⟨cs.takeWhile isDigit, cs.dropWhile isDigit, List.all_eq_true.mp List.all_takeWhile, ?_,
    List.takeWhile_append_dropWhile.symm⟩
  intro c hc
  have hnot := List.head?_dropWhile_not isDigit cs
  rw [Option.mem_def.mp hc] at hnot
  exact hnot

theorem readsUnsigned_whole {whole rest : List Char} (hwhole : Digits whole) (hrest : Stops rest)
    (hpoint : ∀ tail, rest ≠ '.' :: tail) :
    readsUnsigned (whole ++ rest) = true ↔ whole ≠ [] ∧ Exponent rest := by
  rw [readsUnsigned, Decimal.spanDigits_append hwhole hrest, ← isSome_readExponent?_iff]
  dsimp only
  split
  · next tail => exact absurd rfl (hpoint tail)
  · simp

theorem readsUnsigned_pointed {whole fraction rest : List Char} (hwhole : Digits whole)
    (hfraction : Digits fraction) (hrest : Stops rest) :
    readsUnsigned (whole ++ '.' :: (fraction ++ rest)) = true ↔ (whole ≠ [] ∨ fraction ≠ []) ∧
      Exponent rest := by
  rw [readsUnsigned, Decimal.spanDigits_append hwhole (Decimal.stops_cons rfl _),
    ← isSome_readExponent?_iff]
  simp only [Decimal.spanDigits_append hfraction hrest]
  simp

theorem readsUnsigned_iff : readsUnsigned body = true ↔ Unsigned body := by
  constructor
  · intro h
    obtain ⟨whole, rest, hwhole, hrest, rfl⟩ := exists_split body
    by_cases hpoint : ∃ tail, rest = '.' :: tail
    · obtain ⟨tail, rfl⟩ := hpoint
      obtain ⟨fraction, exponent, hfraction, hexponent, rfl⟩ := exists_split tail
      obtain ⟨hne, hexponent⟩ := (readsUnsigned_pointed hwhole hfraction hexponent).mp h
      by_cases hnil : whole = []
      · rw [hnil]
        exact .fraction hfraction (hne.resolve_left (not_not.mpr hnil)) hexponent
      · exact .pointed hwhole hnil hfraction hexponent
    · obtain ⟨hne, hexponent⟩ := (readsUnsigned_whole hwhole hrest (not_exists.mp hpoint)).mp h
      exact .whole hwhole hne hexponent
  · intro h
    cases h with
    | whole hwhole hne hexponent =>
      refine (readsUnsigned_whole hwhole hexponent.stops ?_).mpr ⟨hne, hexponent⟩
      rintro tail rfl
      cases hexponent with
      | some hmark => exact absurd hmark (by decide)
    | pointed hwhole hne hfraction hexponent =>
      exact (readsUnsigned_pointed hwhole hfraction hexponent.stops).mpr ⟨.inl hne, hexponent⟩
    | fraction hfraction hne hexponent =>
      have hnone : Digits [] := nofun
      exact (readsUnsigned_pointed hnone hfraction hexponent.stops).mpr ⟨.inr hne, hexponent⟩

theorem Unsigned.head_ne (h : Unsigned cs) : ∀ c ∈ cs.head?, c ≠ '+' ∧ c ≠ '-' := by
  have hdigits : ∀ {whole : List Char} (rest : List Char), Digits whole → whole ≠ [] →
      ∀ c ∈ (whole ++ rest).head?, c ≠ '+' ∧ c ≠ '-' := by
    intro whole rest hwhole hne
    obtain ⟨c, others, rfl⟩ := List.exists_cons_of_ne_nil hne
    exact hwhole.head_ne
  cases h with
  | whole hwhole hne _ => exact hdigits _ hwhole hne
  | pointed hwhole hne _ _ => exact hdigits _ hwhole hne
  | fraction _ _ _ =>
    rintro c ⟨⟩
    decide

theorem isSome_read?_iff : (read? cs).isSome = true ↔ ∃ sign body, Sign sign ∧ Unsigned body ∧
    cs = sign ++ body := by
  rw [isSome_read?, readsUnsigned_iff]
  constructor
  · intro h
    obtain ⟨sign, hsign, hcs⟩ := sign_takeSign cs
    exact ⟨sign, _, hsign, h, hcs⟩
  · rintro ⟨sign, body, hsign, hbody, rfl⟩
    rw [takeSign_append hsign hbody.head_ne]
    exact hbody

/-- No letter but those that occur in the decimals and in the mark of base sixteen. -/
def Lettered (cs : List Char) : Prop := ∀ c ∈ cs, isForeignLetter c = false

theorem lettered_append {a b : List Char} : Lettered (a ++ b) ↔ Lettered a ∧ Lettered b :=
  List.forall_mem_append

theorem lettered_cons {c : Char} : Lettered (c :: cs) ↔ isForeignLetter c = false ∧ Lettered cs :=
  List.forall_mem_cons

theorem Sign.lettered (h : Sign sign) : Lettered sign := by
  cases h with
  | none => exact nofun
  | plus => exact lettered_cons.mpr ⟨rfl, nofun⟩
  | minus => exact lettered_cons.mpr ⟨rfl, nofun⟩

theorem Digits.lettered (h : Digits cs) : Lettered cs := by
  intro c hc
  have hdigit := h c hc
  simp only [isDigit, Bool.and_eq_true, decide_eq_true_eq, Char.le_def, UInt32.le_iff_toNat_le]
    at hdigit
  have hnine : c.val.toNat ≤ 57 := hdigit.2
  have hcapital : ('A' : Char).val.toNat = 65 := rfl
  have hsmall : ('a' : Char).val.toNat = 97 := rfl
  have hletter : c.isAlpha = false := by
    refine Bool.or_eq_false_iff.mpr
      ⟨decide_eq_false ?_, Bool.and_eq_false_iff.mpr (.inl (decide_eq_false ?_))⟩
    · rintro ⟨hle, -⟩
      have hnat := UInt32.le_iff_toNat_le.mp hle
      omega
    · intro hle
      have hnat := UInt32.le_iff_toNat_le.mp hle
      omega
  rw [isForeignLetter, hletter, Bool.false_and]

theorem Exponent.lettered (h : Exponent cs) : Lettered cs := by
  cases h with
  | none => exact nofun
  | some hmark hsign hdigits _ =>
    refine lettered_cons.mpr ⟨?_, lettered_append.mpr ⟨hsign.lettered, hdigits.lettered⟩⟩
    rcases hmark with rfl | rfl <;> rfl

theorem Unsigned.lettered (h : Unsigned cs) : Lettered cs := by
  cases h with
  | whole hwhole _ hexponent => exact lettered_append.mpr ⟨hwhole.lettered, hexponent.lettered⟩
  | pointed hwhole _ hfraction hexponent =>
    exact lettered_append.mpr ⟨hwhole.lettered,
      lettered_cons.mpr ⟨rfl, lettered_append.mpr ⟨hfraction.lettered, hexponent.lettered⟩⟩⟩
  | fraction hfraction _ hexponent =>
    exact lettered_cons.mpr ⟨rfl, lettered_append.mpr ⟨hfraction.lettered, hexponent.lettered⟩⟩

namespace Base

theorem eq_of_mark {a b : Base} {mark : Char} (ha : mark ∈ a.marks) (hb : mark ∈ b.marks) :
    a = b := by
  cases a <;> cases b <;> simp only [marks, List.mem_cons, List.not_mem_nil, or_false] at ha hb <;>
    rcases ha with rfl | rfl <;> revert hb <;> decide

theorem Spells.eq {a b : Base} (ha : a.Spells cs) (hb : b.Spells cs) : a = b := by
  cases ha with
  | intro hmarkA _ _ =>
    cases hb with
    | intro hmarkB _ _ => exact eq_of_mark hmarkA hmarkB

/-- The marks of the other bases are letters that the coercion does not expect. -/
theorem Spells.foreign {base : Base} (h : base.Spells cs) (hbase : base ≠ .sixteen) :
    cs.any isForeignLetter = true := by
  cases h with
  | @intro mark digits hmark _ _ =>
    have hforeign : isForeignLetter mark = true := by
      cases base with
      | sixteen => exact absurd rfl hbase
      | eight =>
        simp only [marks, List.mem_cons, List.not_mem_nil, or_false] at hmark
        rcases hmark with rfl | rfl <;> rfl
      | two =>
        simp only [marks, List.mem_cons, List.not_mem_nil, or_false] at hmark
        rcases hmark with rfl | rfl <;> rfl
    exact List.any_eq_true.mpr ⟨mark, .tail _ (.head _), hforeign⟩

theorem hexValue?_lt {c : Char} {v : Nat} (h : Text.hexValue? c = some v) : v < 16 := by
  have hends : ('9' : Char).val.toNat = '0'.toNat + 9 ∧ ('f' : Char).val.toNat = 'a'.toNat + 5 ∧
      ('F' : Char).val.toNat = 'A'.toNat + 5 := by decide
  have hvalue : c.toNat = c.val.toNat := rfl
  unfold Text.hexValue? at h
  simp only [Bool.and_eq_true, decide_eq_true_eq, Char.le_def, UInt32.le_iff_toNat_le] at h
  split at h
  · cases h
    omega
  split at h
  · cases h
    omega
  split at h
  · cases h
    omega
  · cases h

theorem isDigit_sixteen (c : Char) : isDigit .sixteen c = Text.isHex c := by
  cases hv : Text.hexValue? c with
  | none => simp [isDigit, Text.isHex, hv]
  | some v => simp [isDigit, Text.isHex, hv, radix, hexValue?_lt hv]

theorem isHexLiteral_iff : isHexLiteral cs = true ↔ sixteen.Spells cs := by
  constructor
  · intro h
    unfold isHexLiteral at h
    split at h
    · next mark digits =>
      simp only [Bool.and_eq_true, Bool.or_eq_true, beq_iff_eq, Bool.not_eq_true',
        List.isEmpty_eq_false_iff, List.all_eq_true] at h
      obtain ⟨⟨hmark, hne⟩, hdigits⟩ := h
      refine .intro (by simpa [marks] using hmark) (fun c hc => ?_) hne
      rw [isDigit_sixteen]
      exact hdigits c hc
    · cases h
  · intro h
    cases h with
    | intro hmark hdigits hne =>
      simp only [isDigit_sixteen] at hdigits
      simp only [marks, List.mem_cons, List.not_mem_nil, or_false] at hmark
      simpa [isHexLiteral, hne] using And.intro hmark hdigits

end Base

theorem Overlooked.head? (h : Overlooked cs) : cs.head? = some '0' := by
  cases h with
  | eight hcs =>
    cases hcs
    rfl
  | two hcs =>
    cases hcs
    rfl
  | large _ _ => rfl

theorem hexNumber_eq_nan_iff {mark : Char} {digits : List Char}
    (h : Base.sixteen.Spells ('0' :: mark :: digits)) :
    Coercion.hexNumber digits = .nan ↔ Overlooked ('0' :: mark :: digits) := by
  unfold Coercion.hexNumber
  dsimp only
  constructor
  · intro hnan
    split at hnan
    · exact absurd hnan (Binary64.roundQuotient_ne_nan _ _ _)
    · next hlarge => exact .large h (Nat.lt_of_not_le hlarge)
  · intro hover
    cases hover with
    | eight hcs => cases h.eq hcs
    | two hcs => cases h.eq hcs
    | large _ hlarge => exact if_neg (Nat.not_le_of_lt hlarge)

theorem Overlooked.foreign_or_hex (h : Overlooked cs) : cs.any isForeignLetter = true ∨
    isHexLiteral cs = true := by
  cases h with
  | eight hcs => exact .inl (hcs.foreign nofun)
  | two hcs => exact .inl (hcs.foreign nofun)
  | large hcs _ => exact .inr (Base.isHexLiteral_iff.mpr hcs)

/-- The texts that pass a test of the coercion: one of the fixed spellings, an integer in base
sixteen that is not too large, or a decimal. -/
inductive Accepted (cs : List Char) : Prop
  | empty (h : cs = [])
  | infinity {sign : List Char} (hsign : Sign sign)
    (h : cs = sign ++ ['I', 'n', 'f', 'i', 'n', 'i', 't', 'y'])
  | sixteen (hhex : isHexLiteral cs = true) (h : Coercion.hexNumber (cs.drop 2) ≠ .nan)
  | decimal (hhex : isHexLiteral cs = false) (hletters : cs.any isForeignLetter = false)
    (h : (read? cs).isSome = true)

theorem numeral_ne_nan_iff (s : String) : Coercion.numeral s ≠ .nan ↔
    Accepted (Text.trimBoth s.toList) := by
  unfold Coercion.numeral
  generalize Text.trimBoth s.toList = cs
  dsimp only
  split
  · next hempty => exact iff_of_true nofun (.empty (List.isEmpty_iff.mp hempty))
  next hempty =>
  split
  · next hplus => exact iff_of_true nofun (hplus.elim (.infinity .none) (.infinity .plus))
  next hplus =>
  split
  · next hminus => exact iff_of_true nofun (.infinity .minus hminus)
  next hminus =>
  -- the fixed spellings are out, so that the two other tests decide
  have hrest : Accepted cs → (isHexLiteral cs = true ∧ Coercion.hexNumber (cs.drop 2) ≠ .nan) ∨
      (isHexLiteral cs = false ∧ cs.any isForeignLetter = false ∧ (read? cs).isSome = true) := by
    intro h
    cases h with
    | empty h => exact absurd (List.isEmpty_iff.mpr h) hempty
    | infinity hsign h =>
      cases hsign with
      | none => exact absurd (.inl h) hplus
      | plus => exact absurd (.inr h) hplus
      | minus => exact absurd h hminus
    | sixteen hhex h => exact .inl ⟨hhex, h⟩
    | decimal hhex hletters h => exact .inr ⟨hhex, hletters, h⟩
  split
  · next hhex =>
    refine ⟨.sixteen hhex, fun h => ?_⟩
    obtain ⟨-, h⟩ | ⟨hnot, -⟩ := hrest h
    · exact h
    · exact absurd hhex (Bool.eq_false_iff.mp hnot)
  next hhex =>
  split
  · next hforeign =>
    refine iff_of_false (not_not.mpr rfl) fun h => ?_
    obtain ⟨h, -⟩ | ⟨-, hletters, -⟩ := hrest h
    · exact hhex h
    · exact absurd hforeign (Bool.eq_false_iff.mp hletters)
  next hforeign =>
  cases hdecimal : read? cs with
  | some d =>
    refine iff_of_true (Binary64.ofDecimal_ne_nan d) (.decimal (Bool.eq_false_iff.mpr hhex) ?_ ?_)
    · exact Bool.eq_false_iff.mpr hforeign
    · exact Option.isSome_of_eq_some hdecimal
  | none =>
    refine iff_of_false (not_not.mpr rfl) fun h => ?_
    obtain ⟨h, -⟩ | ⟨-, -, h⟩ := hrest h
    · exact hhex h
    · rw [hdecimal] at h
      cases h

theorem Accepted.numeral (h : Accepted cs) : Numeral cs := by
  cases h with
  | empty h => exact h ▸ .empty
  | infinity hsign h => exact h ▸ .infinity hsign
  | sixteen hhex _ => exact .based .sixteen (Base.isHexLiteral_iff.mp hhex)
  | decimal _ _ h =>
    obtain ⟨sign, body, hsign, hbody, rfl⟩ := isSome_read?_iff.mp h
    exact .decimal hsign hbody

theorem Accepted.not_overlooked (h : Accepted cs) : ¬ Overlooked cs := by
  intro hover
  cases h with
  | empty h =>
    rw [h] at hover
    cases hover.head?
  | infinity hsign h =>
    rw [h] at hover
    cases hsign <;> cases hover.head?
  | sixteen hhex h =>
    cases Base.isHexLiteral_iff.mp hhex with
    | intro hmark hdigits hne =>
      exact h ((hexNumber_eq_nan_iff (.intro hmark hdigits hne)).mpr hover)
  | decimal hhex hletters _ =>
    rcases hover.foreign_or_hex with h | h
    · exact Bool.eq_false_iff.mp hletters h
    · exact Bool.eq_false_iff.mp hhex h

theorem Numeral.accepted (h : Numeral cs) (hover : ¬ Overlooked cs) : Accepted cs := by
  have hsixteen : isHexLiteral cs = true → Accepted cs := by
    intro hhex
    refine .sixteen hhex ?_
    cases Base.isHexLiteral_iff.mp hhex with
    | intro hmark hdigits hne => exact mt (hexNumber_eq_nan_iff (.intro hmark hdigits hne)).mp hover
  cases h with
  | empty => exact .empty rfl
  | infinity hsign => exact .infinity hsign rfl
  | @decimal sign body hsign hbody =>
    cases hhex : isHexLiteral (sign ++ body) with
    | true => exact hsixteen hhex
    | false =>
      have hlettered := lettered_append.mpr ⟨hsign.lettered, hbody.lettered⟩
      refine .decimal hhex ?_ (isSome_read?_iff.mpr ⟨sign, body, hsign, hbody, rfl⟩)
      exact List.any_eq_false.mpr fun c hc => Bool.eq_false_iff.mp (hlettered c hc)
  | based base hcs =>
    cases base with
    | sixteen => exact hsixteen (Base.isHexLiteral_iff.mpr hcs)
    | eight => exact absurd (.eight hcs) hover
    | two => exact absurd (.two hcs) hover

/-- A text is no number to the coercion if and only if it is no numeral, or one of those that are
overlooked. -/
theorem number_text_eq_nan_iff (s : String) :
    Coercion.number (.text s) = .nan ↔
      ¬ Numeral (Text.trimBoth s.toList) ∨ Overlooked (Text.trimBoth s.toList) := by
  have hread : ¬ Coercion.number (.text s) = .nan ↔
      Numeral (Text.trimBoth s.toList) ∧ ¬ Overlooked (Text.trimBoth s.toList) :=
    (numeral_ne_nan_iff s).trans ⟨fun h => ⟨h.numeral, h.not_overlooked⟩, fun h => h.1.accepted h.2⟩
  rw [← not_iff_not, hread, not_or, not_not]

/-- An integer in base two is a numeral, and no number to the coercion. -/
theorem not_read_five :
    ¬ (Coercion.number (.text "0b101") = .nan ↔ ¬ Numeral (Text.trimBoth "0b101".toList)) := by
  have hnan : Coercion.number (.text "0b101") = .nan := by decide +kernel
  have htrim : Text.trimBoth "0b101".toList = ['0', 'b', '1', '0', '1'] := by decide +kernel
  have hdigits : ['1', '0', '1'].all Base.two.isDigit = true := by decide
  rw [htrim]
  exact fun h => h.mp hnan (.based .two (.intro (.head _) (List.all_eq_true.mp hdigits) nofun))

end Script

end ChatFlow
