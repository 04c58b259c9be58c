import ChatFlow.Binary64.Basic

namespace ChatFlow

structure Decimal where
  negative : Bool
  digits : Nat
  exponent : Int
  deriving DecidableEq, Repr

namespace Decimal

def isDigit (c : Char) : Bool := '0' ≤ c && c ≤ '9'

def digitValue (c : Char) : Nat := c.toNat - 48

def valueOf (cs : List Char) : Nat := cs.foldl (fun n c => 10 * n + digitValue c) 0

def spanDigits (cs : List Char) : List Char × List Char :=
  (cs.takeWhile isDigit, cs.dropWhile isDigit)

def digitsOf (n : Nat) : List Char := Nat.toDigits 10 n

/-- The number up to `limit` that digits denote, perhaps after a plus sign. -/
def natural? (limit : Nat) (cs : List Char) : Option Nat :=
  let digits := match cs with
    | '+' :: rest => rest
    | cs => cs
  if digits.isEmpty || !digits.all isDigit then none
  else if valueOf digits ≤ limit then some (valueOf digits) else none

def takeSign : List Char → Bool × List Char
  | '-' :: rest => (true, rest)
  | '+' :: rest => (false, rest)
  | cs => (false, cs)

/-- The exponent part of a literal, which must extend to the end; no part at all means zero. -/
def readExponent? : List Char → Option Int
  | [] => some 0
  | c :: rest =>
    if c = 'e' ∨ c = 'E' then
      let (negative, digits) := takeSign rest
      if digits.isEmpty || !digits.all isDigit then none
      else some (if negative then -(valueOf digits : Int) else valueOf digits)
    else none

/-- Reads a decimal literal: an optional sign, digits with at most one point among or beside them,
and an optional exponent. At least one digit must stand before the exponent. -/
def read? (cs : List Char) : Option Decimal :=
  let (negative, cs) := takeSign cs
  let (whole, rest) := spanDigits cs
  let (fraction, rest) := match rest with
    | '.' :: rest => spanDigits rest
    | rest => ([], rest)
  if whole.isEmpty && fraction.isEmpty then none
  else (readExponent? rest).map fun e =>
    ⟨negative, valueOf (whole ++ fraction), e - fraction.length⟩

end Decimal

namespace Binary64

/-- The double nearest to a decimal. Numbers beyond every finite double, or below the half of the
least one, are settled by the place of their first digit. -/
def ofDecimal (d : Decimal) : Binary64 :=
  if d.digits = 0 then zero d.negative
  else
    let top := (Decimal.digitsOf d.digits).length + d.exponent
    if 310 < top then infinity d.negative
    else if top < -330 then zero d.negative
    else match d.exponent with
      | .ofNat k => roundQuotient d.negative (d.digits * Nat.pow 10 k * unitsPerOne) 1
      | .negSucc k => roundQuotient d.negative (d.digits * unitsPerOne) (Nat.pow 10 (k + 1))

def powerOfTen (k : Nat) : Binary64 := .ofInt (Nat.pow 10 k)

/-- So many divisions by `10 ^ 308`, the largest power of ten below some double; a zero stays as
it is. -/
def shrink : Nat → Binary64 → Binary64
  | 0, x => x
  | n + 1, x => if x.isZero then x else shrink n (x.div (powerOfTen 308))

/-- The double of a decimal by way of the one nearest to its digits, which is multiplied or divided
by the one nearest to the power of ten. With two roundings or three it need not be the nearest. -/
def scale (d : Decimal) : Binary64 :=
  let x := roundQuotient d.negative (d.digits * unitsPerOne) 1
  match d.exponent with
  | .ofNat k =>
    if k ≤ 308 then x.mul (powerOfTen k) else if x.isZero then x else infinity d.negative
  | .negSucc k => (shrink (k / 308) x).div (powerOfTen (k % 308 + 1))

/-- Which way the last digit goes when two shortest decimals are equally near. -/
inductive Tie
  | toEven
  | up
  deriving DecidableEq, Repr

def comparePower (c : Nat) (k : Int) (num den : Nat) : Ordering :=
  match k with
  | .ofNat j => compare (c * Nat.pow 10 j * den) num
  | .negSucc j => compare (c * den) (num * Nat.pow 10 (j + 1))

def floorPower (k : Int) (num den : Nat) : Nat :=
  match k with
  | .ofNat j => num / (den * Nat.pow 10 j)
  | .negSucc j => num * Nat.pow 10 (j + 1) / den

/-- The numbers that round to a double, in quarters of a unit: the lower end, the number itself, the
upper end, and whether the ends belong. -/
def interval (significand exponent : Nat) : Nat × Nat × Nat × Bool :=
  let here := 4 * significand * Nat.pow 2 exponent
  let below :=
    if significand = Binary64.topBit ∧ 0 < exponent then Nat.pow 2 exponent
      else 2 * Nat.pow 2 exponent
  (here - below, here, here + 2 * Nat.pow 2 exponent, significand % 2 == 0)

/-- Tries the decimal grids from `10 ^ k` on downward and returns the first multiple that rounds to
the double, of two such neighbours the nearer. -/
def searchGrid (tie : Tie) (significand exponent : Nat) : Nat → Int → Nat × Int
  | 0, k => (floorPower k (4 * significand * Nat.pow 2 exponent) (4 * unitsPerOne), k)
  | steps + 1, k =>
    let den := 4 * unitsPerOne
    let (low, here, high, closed) := interval significand exponent
    let floor := floorPower k here den
    let inside (c : Nat) : Bool :=
      match comparePower c k low den, comparePower c k high den with
      | .gt, .lt => true
      | .eq, _ | _, .eq => closed
      | _, _ => false
    match inside floor, inside (floor + 1) with
    | true, true =>
      match comparePower (2 * floor + 1) k (2 * here) den with
      | .gt => (floor, k)
      | .lt => (floor + 1, k)
      | .eq => if tie = .up ∨ floor % 2 = 1 then (floor + 1, k) else (floor, k)
    | true, false => (floor, k)
    | false, true => (floor + 1, k)
    | false, false => searchGrid tie significand exponent steps (k - 1)

/-- The fewest decimal digits that round to the double `significand * 2 ^ exponent` units, and the
power of ten of the last of them. -/
def shortest (tie : Tie) (significand exponent : Nat) : Nat × Int :=
  let here := significand * Nat.pow 2 exponent
  let top : Int :=
    if unitsPerOne ≤ here then (Decimal.digitsOf (here / unitsPerOne)).length
    else 2 - (Decimal.digitsOf (unitsPerOne / here)).length
  searchGrid tie significand exponent 20 top

/-- Digits written without an exponent; `suffix` follows a number without a fraction. -/
def positional (digits : List Char) (point : Int) (suffix : List Char) : List Char :=
  if point ≤ 0 then '0' :: '.' :: (List.replicate point.natAbs '0' ++ digits)
  else if digits.length ≤ point.natAbs then
    digits ++ List.replicate (point.natAbs - digits.length) '0' ++ suffix
  else digits.take point.natAbs ++ '.' :: digits.drop point.natAbs

/-- Digits written with one digit before the point and a signed exponent. -/
def scientific (digits : List Char) (point : Int) : List Char :=
  let e := point - 1
  digits.take 1 ++ (if digits.length ≤ 1 then [] else '.' :: digits.drop 1) ++
    'e' :: (if e < 0 then '-' else '+') :: Decimal.digitsOf e.natAbs

structure Layout where
  /-- the place of the last digit when two decimals are equally near -/
  tie : Tie
  /-- the decimal exponents of the first digit that are written without an exponent -/
  isPositional : Int → Bool
  /-- what follows a number without a fraction -/
  wholeSuffix : List Char

/-- Numbers in JSON: a point in every positional number, an exponent from `1e+16` on and below
`1e-5`. -/
def Layout.json : Layout := ⟨.toEven, fun e => -5 ≤ e && e < 16, ['.', '0']⟩

/-- Numbers in running text: never an exponent, no point in a whole number. -/
def Layout.plain : Layout := ⟨.up, fun _ => true, []⟩

def write (layout : Layout) (negative : Bool) (significand exponent : Nat) : List Char :=
  let sign := if negative then ['-'] else []
  if significand = 0 then sign ++ '0' :: layout.wholeSuffix
  else
    let (n, k) := shortest layout.tie significand exponent
    let digits := Decimal.digitsOf n
    let point := digits.length + k
    sign ++ if layout.isPositional (point - 1) then positional digits point layout.wholeSuffix
      else scientific digits point

def jsonText : Binary64 → List Char
  | finite s m e => write .json s m e
  | _ => ['n', 'u', 'l', 'l']

/-- A double in running text. A whole number below `10 ^ 21` is written exactly, any other with the
fewest digits that read back. -/
def plainText : Binary64 → String
  | nan => "NaN"
  | infinity false => "Infinity"
  | infinity true => "-Infinity"
  | finite s m e =>
    let x := finite s m e
    if x.isWhole && x.magnitude < Nat.pow 10 21 * unitsPerOne then
      .ofList ((if s then ['-'] else []) ++ Decimal.digitsOf (x.magnitude / unitsPerOne))
    else .ofList (write .plain s m e)

end Binary64

end ChatFlow
