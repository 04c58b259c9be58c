import ChatFlow.Keyed
import ChatFlow.Binary64.Decimal

namespace ChatFlow

/-- A JSON number: an integer from `-2 ^ 63` to `2 ^ 64 - 1`, or a double. -/
inductive Number
  | whole (n : Int)
  | real (x : Binary64)
  deriving DecidableEq, Repr

/-- A JSON value. `1` and `1.0` are different values, and an object lists its members in the order
of the keys. -/
inductive Json
  | null
  | bool (b : Bool)
  | number (n : Number)
  | text (s : String)
  | list (items : List Json)
  | object (members : List (String × Json))
  deriving Repr, Inhabited

namespace Number

def toBinary64 : Number → Binary64
  | whole n => .ofInt n
  | real x => x

def jsonText : Number → List Char
  | whole n => (if n < 0 then ['-'] else []) ++ Decimal.digitsOf n.natAbs
  | real x => x.jsonText

def Valid : Number → Prop
  | whole n => -(maxSignedWord + 1) ≤ n ∧ n ≤ maxWord
  | real x => x.isFinite = true ∧ x.Canonical

end Number

namespace Json

mutual

def decEq : (a b : Json) → Decidable (a = b)
  | null, null => isTrue rfl
  | bool a, bool b => decidable_of_iff (a = b) (by simp)
  | number a, number b => decidable_of_iff (a = b) (by simp)
  | text a, text b => decidable_of_iff (a = b) (by simp)
  | list a, list b => match decEqItems a b with
    | isTrue h => isTrue (by rw [h])
    | isFalse h => isFalse (by simpa using h)
  | object a, object b => match decEqMembers a b with
    | isTrue h => isTrue (by rw [h])
    | isFalse h => isFalse (by simpa using h)
  | null, bool _ | null, number _ | null, text _ | null, list _ | null, object _
  | bool _, null | bool _, number _ | bool _, text _ | bool _, list _ | bool _, object _
  | number _, null | number _, bool _ | number _, text _ | number _, list _ | number _, object _
  | text _, null | text _, bool _ | text _, number _ | text _, list _ | text _, object _
  | list _, null | list _, bool _ | list _, number _ | list _, text _ | list _, object _
  | object _, null | object _, bool _ | object _, number _ | object _, text _
  | object _, list _ => isFalse nofun

def decEqItems : (a b : List Json) → Decidable (a = b)
  | [], [] => isTrue rfl
  | [], _ :: _ | _ :: _, [] => isFalse nofun
  | a :: as, b :: bs => match decEq a b, decEqItems as bs with
    | isTrue h, isTrue h' => isTrue (by rw [h, h'])
    | isFalse h, _ => isFalse (by simp [h])
    | _, isFalse h => isFalse (by simp [h])

def decEqMembers : (a b : List (String × Json)) → Decidable (a = b)
  | [], [] => isTrue rfl
  | [], _ :: _ | _ :: _, [] => isFalse nofun
  | (k, a) :: as, (l, b) :: bs => match decEq a b, decEqMembers as bs with
    | isTrue h, isTrue h' => decidable_of_iff (k = l) (by simp [h, h'])
    | isFalse h, _ => isFalse (by simp [h])
    | _, isFalse h => isFalse (by simp [h])

end

instance : DecidableEq Json := decEq

def ofInt (n : Int) : Json := number (.whole n)

def ofNat (n : Nat) : Json := number (.whole n)

/-- An object with the given members; of two with one key the later counts. -/
def ofMembers (members : List (String × Json)) : Json := object (Keyed.ofList members)

def asText? : Json → Option String
  | text s => some s
  | _ => none

def isObject : Json → Bool
  | object _ => true
  | _ => false

def member? (key : String) : Json → Option Json
  | object members => Keyed.get? key members
  | _ => none

mutual

/-- Every object lists its keys in increasing order, and every number is valid. -/
def WellFormed : Json → Prop
  | number n => n.Valid
  | list items => WellFormedItems items
  | object members => Keyed.Sorted members ∧ WellFormedMembers members
  | _ => True

def WellFormedItems : List Json → Prop
  | [] => True
  | v :: rest => WellFormed v ∧ WellFormedItems rest

def WellFormedMembers : List (String × Json) → Prop
  | [] => True
  | (_, v) :: rest => WellFormed v ∧ WellFormedMembers rest

end

mutual

/-- How many lists and objects are open at the deepest place. -/
def depth : Json → Nat
  | list items => depthItems items + 1
  | object members => depthMembers members + 1
  | _ => 0

def depthItems : List Json → Nat
  | [] => 0
  | v :: rest => max (depth v) (depthItems rest)

def depthMembers : List (String × Json) → Nat
  | [] => 0
  | (_, v) :: rest => max (depth v) (depthMembers rest)

end

end Json

end ChatFlow
