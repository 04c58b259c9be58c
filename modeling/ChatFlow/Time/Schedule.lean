import ChatFlow.Binary64.Decimal
import ChatFlow.Time.Instant

namespace ChatFlow

inductive TimeUnit
  | second
  | minute
  | hour
  | day
  | month
  | weekday
  | year
  deriving DecidableEq, Repr

namespace TimeUnit

def first : TimeUnit → Nat
  | second | minute | hour => 0
  | day | month | weekday => 1
  | year => 1970

def last : TimeUnit → Nat
  | second | minute => 59
  | hour => 23
  | day => 31
  | month => 12
  | weekday => 7
  | year => 2100

/-- The names of the values of a unit, from the first one on. A week starts on Sunday. -/
def names : TimeUnit → List (List String)
  | month =>
    [["jan", "january"], ["feb", "february"], ["mar", "march"], ["apr", "april"], ["may"],
      ["jun", "june"], ["jul", "july"], ["aug", "august"], ["sep", "september"], ["oct", "october"],
      ["nov", "november"], ["dec", "december"]]
  | weekday =>
    [["sun", "sunday"], ["mon", "monday"], ["tue", "tues", "tuesday"], ["wed", "wednesday"],
      ["thu", "thurs", "thursday"], ["fri", "friday"], ["sat", "saturday"]]
  | _ => []

def allowsAny : TimeUnit → Bool
  | day | weekday => true
  | _ => false

def holds (u : TimeUnit) (n : Nat) : Bool := u.first ≤ n && n ≤ u.last

def ofName? (u : TimeUnit) (name : String) : Option Nat :=
  (u.names.findIdx? (·.contains name.toLower)).map (u.first + ·)

def between? (u : TimeUnit) (a b : Nat) : Option (List Nat) :=
  if u.holds a && u.holds b && a ≤ b then some (List.range' a (b + 1 - a)) else none

end TimeUnit

/-- The seconds at which something is due: those whose values are all listed. -/
structure Schedule where
  seconds : List Nat
  minutes : List Nat
  hours : List Nat
  days : List Nat
  months : List Nat
  weekdays : List Nat
  years : List Nat
  deriving DecidableEq, Repr

namespace Schedule

inductive Span
  | all
  | one (n : Nat)
  | range (a b : Nat)
  | name (s : String)
  | nameRange (s t : String)
  deriving DecidableEq, Repr

/-- An item of a field: a span, and the step with which its values are taken. -/
structure Item where
  span : Span
  step : Option Nat
  deriving DecidableEq, Repr

namespace Item

def everyOf (step : Nat) (values : List Nat) : List Nat :=
  values.zipIdx.filterMap fun (n, i) => if i % step = 0 then some n else none

def spanValues? (u : TimeUnit) : Span → Option (List Nat)
  | .all => u.between? u.first u.last
  | .one n => if u.holds n then some [n] else none
  | .range a b => u.between? a b
  | .name s => (u.ofName? s).map ([·])
  | .nameRange s t => do u.between? (← u.ofName? s) (← u.ofName? t)

/-- The values of an item. With a step, a single value stands for all values from there on. -/
def values? (u : TimeUnit) (item : Item) : Option (List Nat) :=
  match item.step with
  | none => spanValues? u item.span
  | some 0 => none
  | some step =>
    (match item.span with
      | .one n => u.between? n u.last
      | span => spanValues? u span).map (everyOf step)

end Item

def isBlank (c : Char) : Bool := c == ' ' || c == '\t' || c == '\r' || c == '\n'

def skip (cs : List Char) : List Char := cs.dropWhile isBlank

def readNumber? (cs : List Char) : Option (Nat × List Char) :=
  let (digits, rest) := Decimal.spanDigits (skip cs)
  (Decimal.natural? maxHalfWord digits).map fun n => (n, skip rest)

def readName? (cs : List Char) : Option (String × List Char) :=
  let letters := (skip cs).takeWhile Char.isAlpha
  if letters.isEmpty then none
  else some (.ofList letters, skip ((skip cs).dropWhile Char.isAlpha))

def readStep? (span : Span) (cs : List Char) : Option (Item × List Char) :=
  match cs with
  | '/' :: rest => (readNumber? rest).map fun (n, rest) => (⟨span, some n⟩, rest)
  | cs => some (⟨span, none⟩, cs)

def readItem? (u : TimeUnit) (cs : List Char) : Option (Item × List Char) :=
  match cs with
  | '*' :: rest => readStep? .all rest
  | '?' :: rest => if u.allowsAny then readStep? .all rest else none
  | cs =>
    match readNumber? cs with
    | some (a, '-' :: rest) => do
      let (b, rest) ← readNumber? rest
      readStep? (.range a b) rest
    | some (a, rest) => readStep? (.one a) rest
    | none =>
      match readName? cs with
      | some (s, '-' :: rest) => do
        let (t, rest) ← readName? rest
        readStep? (.nameRange s t) rest
      | some (s, rest) => some (⟨.name s, none⟩, rest)
      | none => none

def readItems? (u : TimeUnit) (cs : List Char) : Option (List Item × List Char) :=
  match readItem? u cs with
  | some (item, ',' :: rest) =>
    if _h : rest.length < cs.length then
      (readItems? u rest).map fun (items, rest) => (item :: items, rest)
    else none
  | some (item, rest) => some ([item], rest)
  | none => none
termination_by cs.length

/-- Reads the values of a field, blanks around it aside. Fields need no blanks between them. -/
def readField? (u : TimeUnit) (cs : List Char) : Option (List Nat × List Char) := do
  let (items, rest) ← readItems? u (skip cs)
  let values ← items.mapM (Item.values? u)
  return (values.flatten, skip rest)

def named? (name : String) : Option String :=
  [("@yearly", "0 0 0 1 1 *"), ("@monthly", "0 0 0 1 * *"), ("@weekly", "0 0 0 * * 1"),
    ("@daily", "0 0 0 * * *"), ("@hourly", "0 0 * * * *")].lookup name

def ofFields? (cs : List Char) : Option Schedule := do
  let (seconds, cs) ← readField? .second cs
  let (minutes, cs) ← readField? .minute cs
  let (hours, cs) ← readField? .hour cs
  let (days, cs) ← readField? .day cs
  let (months, cs) ← readField? .month cs
  let (weekdays, cs) ← readField? .weekday cs
  let (years, cs) ←
    if cs.isEmpty then (Item.spanValues? .year .all).map fun years => (years, cs)
    else readField? .year cs
  if cs.isEmpty then return ⟨seconds, minutes, hours, days, months, weekdays, years⟩ else none

def ofText? (s : String) : Option Schedule :=
  let cs := ((skip s.toList).reverse.dropWhile isBlank).reverse
  match named? (.ofList cs) with
  | some fields => ofFields? fields.toList
  | none => ofFields? cs

/-- The day of the week of a day after 1970-01-01, which was a Thursday. -/
def weekdayOf (days : Int) : Nat := ((days + 4) % 7).toNat + 1

def isDue (schedule : Schedule) (t : Instant) : Bool :=
  let days := t.seconds / 86400
  let second := (t.seconds % 86400).toNat
  let date := Date.ofDays days
  schedule.seconds.contains (second % 60) && schedule.minutes.contains (second / 60 % 60) &&
    schedule.hours.contains (second / 3600) && schedule.days.contains date.day &&
    schedule.months.contains date.month && schedule.weekdays.contains (weekdayOf days) &&
    schedule.years.contains date.year.toNat

end Schedule

end ChatFlow
