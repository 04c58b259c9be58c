import ChatFlow.Condition
import ChatFlow.Proofs.Placeholders
import ChatFlow.Proofs.RunningText
import ChatFlow.Proofs.WholeDoubles

namespace ChatFlow

namespace Binary64

theorem Holds.isZero_eq_false {x : Binary64} {negative : Bool} {u : Nat} (h : x.Holds negative u)
    (hu : 0 < u) :
    x.isZero = false := by
  obtain ⟨m, e, rfl, rfl⟩ := h
  have hm : m ≠ 0 := by
    rintro rfl
    rw [Nat.zero_mul] at hu
    exact absurd hu (Nat.lt_irrefl 0)
  simpa [isZero] using hm

theorem Holds.ne_nan {x : Binary64} {negative : Bool} {u : Nat} (h : x.Holds negative u) :
    x ≠ nan := by
  obtain ⟨m, e, rfl, -⟩ := h
  exact nofun

end Binary64

namespace Coercion

def falseTexts : List String := ["0", "-0", "false", "null"]

theorem isTruthy_whole {n : Int} (hn : (Number.whole n).Valid) (hne : n ≠ 0) :
    isTruthy (some (.number (.whole n))) = true := by
  obtain ⟨x, hx, -, hholds⟩ :=
    Binary64.exists_holds_ofInt (l := 1) (by decide) (by omega) hn.natAbs_le
  have hpos : 0 < x := Nat.lt_of_lt_of_le (Nat.mul_pos Nat.one_pos Binary64.unitsPerOne_pos) hx
  show (!(Binary64.ofInt n).isZero && Binary64.ofInt n != .nan) = true
  rw [hholds.isZero_eq_false hpos, bne_iff_ne.mpr hholds.ne_nan]
  rfl

theorem text_mem_falseTexts {v : Json} (hv : v.WellFormed) (hkind : ∀ w, v ≠ .text w)
    (hfalse : isTruthy (some v) = false) : text v ∈ falseTexts := by
  cases v with
  | null => decide
  | bool b =>
    cases b with
    | false => decide
    | true => cases hfalse
  | number n =>
    cases n with
    | whole n =>
      have hzero : n = 0 := by
        by_contra hne
        rw [isTruthy_whole hv hne] at hfalse
        cases hfalse
      rw [hzero]
      decide
    | real x =>
      obtain ⟨hfinite, hcanonical⟩ := hv
      cases x with
      | finite negative m e =>
        -- only a zero counts as false, and it has the least exponent
        have hm : m = 0 := by simpa [isTruthy, Number.toBinary64, Binary64.isZero] using hfalse
        have he : e = 0 := hcanonical.2.1.resolve_right (by rw [hm]; decide)
        rw [hm, he]
        cases negative <;> decide +kernel
      | nan | infinity => cases hfinite
  | text w => exact absurd rfl (hkind w)
  | list | object => cases hfalse

theorem isTruthy_of_mem_falseTexts {s : String} (h : s ∈ falseTexts) :
    isTruthy (some (parseOrText s)) = false := by
  have hall : ∀ s ∈ falseTexts, isTruthy (some (parseOrText s)) = false := by decide +kernel
  exact hall s h

/-- A literal is printed as it is written if it is no JSON, or if it prints back. -/
theorem text_parseOrText_eq_iff {s : String} :
    text (parseOrText s) = s ↔ (∀ v, Json.parse s ≠ .ok v) ∨ Json.PrintsBack s := by
  unfold parseOrText Json.PrintsBack
  cases Json.parse s with
  | error b => simp [text]
  | ok v => simp

end Coercion

namespace Condition

open Coercion (falseTexts)

theorem textOrEmpty_text (t : String) : textOrEmpty (some (.text t)) = t := by
  have htruthy : Coercion.isTruthy (some (.text t)) = !t.isEmpty := rfl
  rw [textOrEmpty, htruthy]
  cases hempty : t.isEmpty with
  | true =>
    rw [String.isEmpty_iff.mp hempty]
    rfl
  | false => rfl

theorem textOrEmpty_of_falseText {s : String} (h : s ∈ falseTexts) :
    textOrEmpty (some (Coercion.parseOrText s)) = "" := by
  rw [textOrEmpty, Coercion.isTruthy_of_mem_falseTexts h]
  rfl

/-- A literal that is printed as it is written counts as false only if it is one of those, or
nothing. -/
theorem eq_empty_of_not_truthy {s : String} (hs : s ∉ falseTexts)
    (htext : Coercion.text (Coercion.parseOrText s) = s)
    (hfalse : Coercion.isTruthy (some (Coercion.parseOrText s)) = false) : s = "" := by
  unfold Coercion.parseOrText at htext hfalse
  cases hparse : Json.parse s with
  | error b =>
    rw [hparse] at hfalse
    exact String.isEmpty_iff.mp (by simpa [Coercion.isTruthy] using hfalse)
  | ok v =>
    rw [hparse] at htext hfalse
    have hkind : ∀ w, v ≠ .text w := by
      rintro w rfl
      exact absurd (Json.length_lt_of_parse hparse) (by rw [← htext]; exact Nat.lt_irrefl _)
    exact absurd
      (htext ▸ Coercion.text_mem_falseTexts (Json.wellFormed_of_parse hparse) hkind hfalse) hs

theorem textOrEmpty_parseOrText_eq_iff {s : String} :
    textOrEmpty (some (Coercion.parseOrText s)) = s ↔
    Coercion.text (Coercion.parseOrText s) = s ∧ s ∉ falseTexts := by
  by_cases hmem : s ∈ falseTexts
  · have hne : "" ≠ s := by
      rintro rfl
      exact absurd hmem (by decide)
    rw [textOrEmpty_of_falseText hmem]
    exact ⟨fun h => absurd h hne, fun h => absurd hmem h.2⟩
  · rw [textOrEmpty]
    cases htruthy : Coercion.isTruthy (some (Coercion.parseOrText s)) with
    | true => exact ⟨fun h => ⟨h, hmem⟩, fun h => h.1⟩
    | false =>
      refine ⟨fun h => ?_, fun h => (eq_empty_of_not_truthy hmem h.1 htruthy).symm⟩
      have hempty : "" = s := h
      rw [← hempty] at hmem ⊢
      exact ⟨by decide +kernel, hmem⟩

variable {context : Context} {path t s : String}

/-- Without opening braces a literal is read as it stands. -/
theorem holds_of_bare {name : String} {op : Operator} (hop : Operator.ofName? name = some op)
    (ht : context.get? (Text.trim path) = some (.text t)) (hs : ¬ ['\x7b', '\x7b'] <:+: s.toList) :
    (Condition.mk path name (.text s)).holds context =
      compare op (some (.text t)) (Coercion.parseOrText s) := by
  have hliteral : (Condition.mk path name (.text s)).literal context = Coercion.parseOrText s :=
    congrArg Coercion.parseOrText (Template.apply_of_not_infix hs context)
  simp only [holds, operator?, hop, ht, hliteral]

/-- A text is compared with what the literal denotes, printed again, or with nothing where that
counts as false. This is the literal as it is written if it is no JSON, or if it is written as a
value is printed that is no text and whose numbers are read back; where a value that counts as false
matters, it must not be one of those. -/
theorem literals_compare_as_printed (ht : context.get? (Text.trim path) = some (.text t))
    (hs : ¬ ['\x7b', '\x7b'] <:+: s.toList) :
    ((Condition.mk path "EQUALS" (.text s)).holds context = true ↔
      t = Coercion.text (Coercion.parseOrText s)) ∧
      ((Condition.mk path "CONTAINS" (.text s)).holds context = true ↔
        (textOrEmpty (some (Coercion.parseOrText s))).toList <:+: t.toList) ∧
      ((Condition.mk path "STARTS_WITH" (.text s)).holds context = true ↔
        (textOrEmpty (some (Coercion.parseOrText s))).toList <+: t.toList) ∧
      (Coercion.text (Coercion.parseOrText s) = s ↔ (∀ v, Json.parse s ≠ .ok v) ∨
        ∃ v : Json, v.WellFormed ∧ v.depth ≤ Json.maxDepth ∧ (∀ w, v ≠ .text w) ∧ Coercion.Kept v ∧
          Coercion.text v = s) ∧
      (textOrEmpty (some (Coercion.parseOrText s)) = s ↔
        Coercion.text (Coercion.parseOrText s) = s ∧ s ∉ ["0", "-0", "false", "null"]) := by
  have hequals : Operator.ofName? "EQUALS" = some .equals := by decide +kernel
  have hcontains : Operator.ofName? "CONTAINS" = some .contains := by decide +kernel
  have hstarts : Operator.ofName? "STARTS_WITH" = some .startsWith := by decide +kernel
  refine ⟨?_, ?_, ?_, ?_, textOrEmpty_parseOrText_eq_iff⟩
  · rw [holds_of_bare hequals ht hs, compare, beq_iff_eq]
    rfl
  · rw [holds_of_bare hcontains ht hs, compare, textOrEmpty_text]
    exact Text.contains_iff
  · rw [holds_of_bare hstarts ht hs, compare, textOrEmpty_text]
    exact List.isPrefixOf_iff_prefix
  · rw [Coercion.text_parseOrText_eq_iff, Json.printsBack_iff]

-- its digits are rounded before they are divided
example : Coercion.text (Coercion.parseOrText "0.9452706955539223") = "0.9452706955539224" := by
  decide +kernel

def visitor : Context :=
  (Context.empty.set "vars.version" (.text "1.0")).set "vars.zip" (.text "48149")

theorem literals_compare_as_printed_version :
    visitor.get? (Text.trim " vars.version ") = some (.text "1.0") ∧
      ¬ ['\x7b', '\x7b'] <:+: "1.0".toList ∧
      ¬ (Condition.mk " vars.version " "EQUALS" (.text "1.0")).holds visitor = true ∧
      (Condition.mk " vars.version " "CONTAINS" (.text "1.0")).holds visitor = true := by
  have ht : visitor.get? (Text.trim " vars.version ") = some (.text "1.0") := by decide +kernel
  have hs : ¬ ['\x7b', '\x7b'] <:+: "1.0".toList := by decide +kernel
  obtain ⟨hequals, hcontains, -, -, -⟩ := literals_compare_as_printed ht hs
  exact ⟨ht, hs, fun h => absurd (hequals.mp h) (by decide +kernel),
    hcontains.mpr (by decide +kernel)⟩

theorem literals_differ_from_what_is_written :
    visitor.get? "vars.version" = some (.text "1.0") ∧
      visitor.get? "vars.zip" = some (.text "48149") ∧
      (Condition.mk "vars.version" "EQUALS" (.text "1.0")).holds visitor = false ∧
      ¬ "0".toList <:+: "48149".toList ∧
      (Condition.mk "vars.zip" "CONTAINS" (.text "0")).holds visitor = true ∧
      (Condition.mk "vars.zip" "STARTS_WITH" (.text "0")).holds visitor = true := by
  decide +kernel

end Condition

end ChatFlow
