namespace ChatFlow.Punycode

/-- The value of a digit: letters of either case, then the decimal digits. -/
def digitValue? (c : Char) : Option Nat :=
  if 'a' ≤ c && c ≤ 'z' then some (c.toNat - 'a'.toNat)
  else if 'A' ≤ c && c ≤ 'Z' then some (c.toNat - 'A'.toNat)
  else if '0' ≤ c && c ≤ '9' then some (c.toNat - '0'.toNat + 26)
  else none

def threshold (place bias : Nat) : Nat :=
  if place ≤ bias then 1 else if bias + 26 ≤ place then 26 else place - bias

def settle : (fuel : Nat) → (delta : Nat) → Nat
  | 0, _ => 0
  | fuel + 1, delta =>
    if 455 < delta then 36 + settle fuel (delta / 35) else 36 * delta / (delta + 38)

def adapt (delta length : Nat) (isFirst : Bool) : Nat :=
  let delta := if isFirst then delta / 700 else delta / 2
  let delta := delta + delta / length
  settle (delta + 1) delta

/-- Reads a number: its digits from the lowest up, ending with one below the threshold. -/
def number (bias : Nat) : (place weight : Nat) → List Char → Option (Nat × List Char)
  | _, _, [] => none
  | place, weight, c :: rest => do
    let digit ← digitValue? c
    let t := threshold place bias
    if digit < t then return (digit * weight, rest)
    else do
      let (n, rest) ← number bias (place + 36) (weight * (36 - t)) rest
      return (digit * weight + n, rest)

def insertions : (fuel : Nat) → (n i bias : Nat) → List Nat → List Char → Option (List Nat)
  | _, _, _, _, points, [] => some points
  | 0, _, _, _, _, _ :: _ => none
  | fuel + 1, n, i, bias, points, cs => do
    let (delta, rest) ← number bias 36 1 cs
    let length := points.length + 1
    let n := n + (i + delta) / length
    let place := (i + delta) % length
    if n < 0x110000 && !(0xD800 ≤ n && n < 0xE000) then
      insertions fuel n (place + 1) (adapt delta length (i == 0 && points.all (· < 0x80)))
        (points.take place ++ n :: points.drop place) rest
    else none

/-- The code points of a label without its mark `xn--`: what stands before the last hyphen, and
the insertions that are described behind it, each by its distance from the one before, in digits
of base 36. -/
def decode (label : List Char) : Option (List Nat) :=
  let tail := (label.reverse.takeWhile (· ≠ '-')).reverse
  let basic := (label.take (label.length - tail.length)).dropLast
  insertions (tail.length + 1) 128 0 72 (basic.map Char.toNat) tail

def digitChar (d : Nat) : Char :=
  if d < 26 then Char.ofNat ('a'.toNat + d) else Char.ofNat ('0'.toNat + (d - 26))

/-- Writes a number: its digits from the lowest up, ending with one below the threshold. -/
def digits (bias : Nat) : (fuel : Nat) → (place n : Nat) → List Char
  | 0, _, _ => []
  | fuel + 1, place, n =>
    let t := threshold place bias
    if n < t then [digitChar n]
    else digitChar (t + (n - t) % (36 - t)) :: digits bias fuel (place + 36) ((n - t) / (36 - t))

/-- How far a label is described: the code points inserted, the distance from the last one and the
bias. -/
structure Progress where
  inserted : Nat
  delta : Nat
  bias : Nat

/-- Describes where one code point stands in a label, of which `basic` code points are plain. -/
def describe (basic point : Nat) : Progress → List Nat → List Char × Progress
  | p, [] => ([], p)
  | p, n :: rest =>
    if n < point then describe basic point { p with delta := p.delta + 1 } rest
    else if n = point then
      let bias := adapt p.delta (p.inserted + 1) (p.inserted = basic)
      let (text, last) := describe basic point ⟨p.inserted + 1, 0, bias⟩ rest
      (digits p.bias (p.delta + 1) 36 p.delta ++ text, last)
    else describe basic point p rest

/-- Describes the code points from `n` on, which are given in ascending order. -/
def descriptions (basic : Nat) (points : List Nat) : (n : Nat) → Progress → List Nat → List Char
  | _, _, [] => []
  | n, p, point :: later =>
    let (text, last) :=
      describe basic point { p with delta := p.delta + (point - n) * (p.inserted + 1) } points
    text ++ descriptions basic points (point + 1) { last with delta := last.delta + 1 } later

def encode (points : List Nat) : List Char :=
  let basic := points.filter (· < 0x80)
  let others := ((points.filter (0x80 ≤ ·)).eraseDups).mergeSort
  basic.map Char.ofNat ++ (if basic.isEmpty then [] else ['-']) ++
    descriptions basic.length points 0x80 ⟨basic.length, 0, 72⟩ others

end ChatFlow.Punycode
