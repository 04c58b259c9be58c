import ChatFlow.Word

namespace ChatFlow

/-- A double. A finite one is `significand * 2 ^ exponent` units of `2 ^ -1074`, so that arithmetic
is on natural numbers of units, followed by one rounding to nearest, ties to even. -/
inductive Binary64
  | nan
  | infinity (negative : Bool)
  | finite (negative : Bool) (significand exponent : Nat)
  deriving DecidableEq, Repr, Inhabited

namespace Binary64

def unitsPerOne : Nat := Nat.pow 2 1074

def topBit : Nat := 4503599627370496

def signBit : Nat := 9223372036854775808

/-- The significand fits, has its top bit unless the exponent is the least, and the exponent is not
above that of the largest finite double. -/
def Canonical : Binary64 → Prop
  | finite _ significand exponent =>
    significand < 2 * topBit ∧ (exponent = 0 ∨ topBit ≤ significand) ∧ exponent ≤ 2045
  | _ => True

def zero (negative : Bool) : Binary64 := finite negative 0 0

/-- The quotient rounded to the nearest natural number, a half to the even one. -/
def divideEven (num den : Nat) : Nat :=
  let q := num / den
  let r := num % den
  if 2 * r < den then q else if den < 2 * r then q + 1 else q + q % 2

/-- The double nearest to `num / den` units, ties to even; infinity beyond the largest one. -/
def roundQuotient (negative : Bool) (num den : Nat) : Binary64 :=
  let q := num / den
  let e := if q < 2 * topBit then 0 else q.log2 - 52
  let m := divideEven num (den * Nat.pow 2 e)
  let (m, e) := if m = 2 * topBit then (topBit, e + 1) else (m, e)
  if e ≤ 2045 then finite negative m e else infinity negative

def ofInt (n : Int) : Binary64 := roundQuotient (decide (n < 0)) (n.natAbs * unitsPerOne) 1

def magnitude : Binary64 → Nat
  | finite _ significand exponent => significand * Nat.pow 2 exponent
  | _ => 0

def units : Binary64 → Int
  | finite true significand exponent => -(significand * Nat.pow 2 exponent : Nat)
  | finite false significand exponent => (significand * Nat.pow 2 exponent : Nat)
  | _ => 0

def isFinite : Binary64 → Bool
  | finite .. => true
  | _ => false

def isZero : Binary64 → Bool
  | finite _ significand _ => significand == 0
  | _ => false

def mul : Binary64 → Binary64 → Binary64
  | nan, _ | _, nan => nan
  | infinity s, infinity t => infinity (s != t)
  | infinity s, finite t m _ | finite t m _, infinity s => if m = 0 then nan else infinity (s != t)
  | finite s m e, finite t n f => roundQuotient (s != t) (m * n * Nat.pow 2 (e + f)) unitsPerOne

def div : Binary64 → Binary64 → Binary64
  | nan, _ | _, nan | infinity _, infinity _ => nan
  | infinity s, finite t _ _ => infinity (s != t)
  | finite s _ _, infinity t => zero (s != t)
  | finite s m e, finite t n f =>
    if n = 0 then if m = 0 then nan else infinity (s != t)
    else roundQuotient (s != t) (m * Nat.pow 2 e * unitsPerOne) (n * Nat.pow 2 f)

def lt : Binary64 → Binary64 → Bool
  | nan, _ | _, nan => false
  | infinity s, infinity t => s && !t
  | infinity s, finite .. => s
  | finite .., infinity t => !t
  | a@(finite ..), b@(finite ..) => decide (a.units < b.units)

def truncate (x : Binary64) : Int := x.units.tdiv unitsPerOne

def isWhole (x : Binary64) : Bool := x.magnitude % unitsPerOne == 0

/-- The interchange encoding: sign, eleven bits of exponent, fifty-two of fraction. -/
def bits : Binary64 → Nat
  | nan => 0x7FF8000000000000
  | infinity s => s.toNat * signBit + 0x7FF0000000000000
  | finite s m e => s.toNat * signBit + (if m < topBit then m else (e + 1) * topBit + (m - topBit))

theorem divideEven_le (num den : Nat) : divideEven num den ≤ num / den + 1 := by
  simp only [divideEven]
  split
  · omega
  · split <;> omega

theorem le_divideEven (num den : Nat) : num / den ≤ divideEven num den := by
  simp only [divideEven]
  split
  · omega
  · split <;> omega

end Binary64

end ChatFlow
