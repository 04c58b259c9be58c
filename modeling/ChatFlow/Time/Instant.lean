import ChatFlow.Time.Calendar

namespace ChatFlow

/-- An instant: seconds since 1970-01-01T00:00:00 and nanoseconds within the second. A leap second
is kept as the second before it with a thousand million nanoseconds or more. -/
structure Instant where
  seconds : Int
  nanos : Nat
  deriving DecidableEq, Repr, Inhabited

namespace Instant

def nanosPerSecond : Nat := 1000000000

def firstSecond : Int := Date.toDays ⟨-262143, 1, 1⟩ * 86400

def lastSecond : Int := Date.toDays ⟨262142, 12, 31⟩ * 86400 + 86399

def latest : Instant := ⟨lastSecond, 999999999⟩

def inRange (seconds : Int) : Bool := firstSecond ≤ seconds && seconds ≤ lastSecond

def le (a b : Instant) : Bool :=
  decide (a.seconds < b.seconds) || (a.seconds == b.seconds && decide (a.nanos ≤ b.nanos))

/-- The instant so many milliseconds after 1970, if instants reach that far. -/
def ofMillis? (ms : Int) : Option Instant :=
  if inRange (ms / 1000) then some ⟨ms / 1000, (ms % 1000).toNat * 1000000⟩ else none

def ofMillis (ms : Int) : Instant := ⟨ms / 1000, (ms % 1000).toNat * 1000000⟩

def toMillis (t : Instant) : Int := t.seconds * 1000 + (t.nanos / 1000000 : Nat)

def carry (seconds : Int) (nanos : Nat) : Instant :=
  ⟨seconds + (nanos / nanosPerSecond : Nat), nanos % nanosPerSecond⟩

/-- The instant so many milliseconds later; the count may be negative. -/
def shift (t : Instant) (ms : Int) : Instant :=
  let seconds := ms / 1000
  let extra := (ms % 1000).toNat * 1000000
  if t.nanos < nanosPerSecond then carry (t.seconds + seconds) (t.nanos + extra)
  else if seconds = 0 ∧ t.nanos + extra < 2 * nanosPerSecond then ⟨t.seconds, t.nanos + extra⟩
  else carry (t.seconds + seconds) (t.nanos - nanosPerSecond + extra)

/-- The instant so many milliseconds later, or the last one where instants do not reach that far. -/
def after (t : Instant) (ms : Nat) : Instant :=
  let later := t.shift ms
  if inRange later.seconds then later else latest

end Instant

end ChatFlow
