import ChatFlow.Time.Instant
import ChatFlow.Json.Decoder
import ChatFlow.Text.Blank

namespace ChatFlow.Instant

def padded (width n : Nat) : List Char :=
  let digits := Decimal.digitsOf n
  List.replicate (width - digits.length) '0' ++ digits

/-- A year: four digits, or a sign and at least four outside of 0 to 9999. -/
def yearText (year : Int) : List Char :=
  if 0 ≤ year ∧ year ≤ 9999 then padded 4 year.natAbs
  else (if year < 0 then '-' else '+') :: padded 4 year.natAbs

/-- The fraction of a second, in the fewest of no, three, six or nine digits. -/
def fractionText (nanos : Nat) : List Char :=
  if nanos = 0 then []
  else if nanos % 1000000 = 0 then '.' :: padded 3 (nanos / 1000000)
  else if nanos % 1000 = 0 then '.' :: padded 6 (nanos / 1000)
  else '.' :: padded 9 nanos

def stamp (t : Instant) : String :=
  let date := Date.ofDays (t.seconds / 86400)
  let clock := (t.seconds % 86400).toNat
  let leap := t.nanos / nanosPerSecond
  .ofList (yearText date.year ++ '-' :: padded 2 date.month ++ '-' :: padded 2 date.day ++
    'T' :: padded 2 (clock / 3600) ++ ':' :: padded 2 (clock / 60 % 60) ++
    ':' :: padded 2 (clock % 60 + leap) ++ fractionText (t.nanos % nanosPerSecond) ++ ['Z'])

/-- A number of one to `width` digits, blanks before it left out, and what follows it. -/
def readNumber (width : Nat) (cs : List Char) : Option (Nat × List Char) :=
  let cs := Text.trimFront cs
  let digits := (cs.takeWhile Decimal.isDigit).take width
  if digits.isEmpty then none else some (Decimal.valueOf digits, cs.drop digits.length)

def readYear (cs : List Char) : Option (Int × List Char) :=
  match Text.trimFront cs with
  | '-' :: rest => signed rest (-1)
  | '+' :: rest => signed rest 1
  | cs => (readNumber 4 cs).map fun (n, rest) => (n, rest)
where
  /-- Any number of digits with a sign. -/
  signed (cs : List Char) (sign : Int) : Option (Int × List Char) :=
    let (digits, rest) := Decimal.spanDigits cs
    if digits.isEmpty then none else some (sign * Decimal.valueOf digits, rest)

def expect (mark : Char) (cs : List Char) : Option (List Char) :=
  match Text.trimFront cs with
  | c :: rest => if c = mark then some rest else none
  | [] => none

/-- The nanoseconds of an optional fraction; digits beyond the ninth do not count. -/
def readFraction : List Char → Option (Nat × List Char)
  | '.' :: cs =>
    let (digits, rest) := Decimal.spanDigits cs
    if digits.isEmpty then none
    else
      let kept := digits.take 9
      some (Decimal.valueOf kept * Nat.pow 10 (9 - kept.length), rest)
  | cs => some (0, cs)

def readOffset (cs : List Char) : Option (Int × List Char) :=
  match cs with
  | 'Z' :: rest | 'z' :: rest => some (0, rest)
  | '+' :: rest => signed rest 1
  | '-' :: rest | '−' :: rest => signed rest (-1)
  | u :: t :: c :: rest =>
    if [u, t, c].map Char.toUpper = ['U', 'T', 'C'] then some (0, rest) else none
  | _ => none
where
  /-- Two digits of hours and two of minutes, with colons or blanks between. -/
  signed (cs : List Char) (sign : Int) : Option (Int × List Char) :=
    match cs with
    | a :: b :: rest =>
      if Decimal.isDigit a && Decimal.isDigit b then
        match rest.dropWhile fun c => c == ':' || Text.isBlank c with
        | c :: d :: rest =>
          if '0' ≤ c && c ≤ '5' && Decimal.isDigit d then
            some (sign * (Decimal.valueOf [a, b] * 3600 + Decimal.valueOf [c, d] * 60 : Nat), rest)
          else none
        | _ => none
      else none
    | _ => none

def ofStamp? (s : String) : Option Instant := do
  let (year, cs) ← readYear s.toList
  let (month, cs) ← readNumber 2 (← expect '-' cs)
  let (day, cs) ← readNumber 2 (← expect '-' cs)
  let cs ← match cs with
    | 'T' :: rest | 't' :: rest | ' ' :: rest => some rest
    | _ => none
  let (hour, cs) ← readNumber 2 cs
  let (minute, cs) ← readNumber 2 (← expect ':' cs)
  let (second, cs) ← readNumber 2 (← expect ':' cs)
  let (nanos, cs) ← readFraction cs
  let (offset, cs) ← readOffset (Text.trimFront cs)
  let date : Date := ⟨year, month, day⟩
  let leap := second / 60
  let local_ := date.toDays * 86400 + (hour * 3600 + minute * 60 + (second - leap) : Nat)
  let seconds := local_ - offset
  if cs.all Text.isBlank && date.isValid && hour < 24 && minute < 60 && second ≤ 60 &&
      offset.natAbs < 86400 && inRange local_ && inRange seconds then
    some ⟨seconds, nanos + leap * nanosPerSecond⟩
  else none

def decoder : Json.Decoder Instant := Json.Decoder.text.refine ofStamp?

def toJson (t : Instant) : Json := .text t.stamp

end ChatFlow.Instant
