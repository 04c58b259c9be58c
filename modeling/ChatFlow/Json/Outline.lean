import ChatFlow.Json.Token

namespace ChatFlow

theorem Except.bind_eq_ok {ε α β : Type} {x : Except ε α} {f : α → Except ε β} {b : β}
    (h : x >>= f = .ok b) : ∃ a, x = .ok a ∧ f a = .ok b := by
  cases x with
  | error e => cases h
  | ok a => exact ⟨a, rfl, h⟩

namespace Json

/-- What stands at a place where no value can be read. -/
inductive Remnant
  | nothing
  | text
  | scalar
  | stray
  deriving DecidableEq, Repr

/-- A text as it was read: its values in the order of the text, duplicate members included. The
fault of a list or an object lies behind its last item. -/
inductive Outline
  | null
  | bool (b : Bool)
  | number (value : Except Break Number)
  | text (value : Except Break String)
  | list (items : List Outline) (fault : Option Fault)
  | object (members : List (Except Break String × Outline)) (fault : Option Fault)
  | broken (what : Remnant) (fault : Fault)

namespace Outline

/-- A list or an object that is still open: what it holds so far, last first, and for `member` the
key whose value is due. -/
inductive Frame
  | list (done : List Outline)
  | members (done : List (Except Break String × Outline))
  | member (done : List (Except Break String × Outline)) (key : Except Break String)

/-- The open containers, innermost first, around a value after which nothing is read. -/
def collapse (v : Outline) : List Frame → Outline
  | [] => v
  | .list done :: outer => collapse (.list (v :: done).reverse none) outer
  | .members done :: outer => collapse (.object done.reverse none) outer
  | .member done key :: outer => collapse (.object ((key, v) :: done).reverse none) outer

/-- The open containers when the innermost one is at fault behind its last item. -/
def abandon (fault : Fault) : List Frame → Outline
  | [] => .broken .stray fault
  | .list done :: outer => collapse (.list done.reverse (some fault)) outer
  | .members done :: outer => collapse (.object done.reverse (some fault)) outer
  | .member done key :: outer =>
    collapse (.object ((key, .broken .stray fault) :: done).reverse none) outer

inductive Due
  /-- a value -/
  | value
  /-- the first item of a list, or its end -/
  | firstItem
  /-- the first key of an object, or its end -/
  | firstKey
  /-- a key -/
  | key
  /-- the colon behind a key -/
  | colon
  /-- a comma, or the end of the container -/
  | next

def ofToken? : Token → Option Outline
  | .null => some .null
  | .bool b => some (.bool b)
  | .number n => some (.number n)
  | .text s => some (.text s)
  | _ => none

/-- A complete value in the innermost container; none where it stands by itself. -/
def place (v : Outline) : List Frame → Option (List Frame)
  | .list done :: outer => some (.list (v :: done) :: outer)
  | .member done key :: outer => some (.members ((key, v) :: done) :: outer)
  | _ => none

/-- What was read of a text, and whether anything follows the value. -/
structure Result where
  outline : Outline
  trailing : Bool

def stop (v : Outline) : Result := ⟨v, false⟩

def build : Due → List Token → List Frame → Result
  | .value, [], opened => stop (collapse (.broken .nothing (.both .early)) opened)
  | .colon, [], opened => stop (collapse (.broken .nothing (.both .early)) opened)
  | _, [], opened => stop (abandon (.both .early) opened)
  | due, t :: rest, opened =>
    let malformed := Fault.both .malformed
    let finish (v : Outline) (outer : List Frame) : Result :=
      match place v outer with
      | some frames => build .next rest frames
      | none => ⟨v, !rest.isEmpty⟩
    let read : Result :=
      match t with
      | .openList => build .firstItem rest (.list [] :: opened)
      | .openObject => build .firstKey rest (.members [] :: opened)
      | .brokenText f => stop (collapse (.broken .text f) opened)
      | .brokenScalar f => stop (collapse (.broken .scalar f) opened)
      | t => match ofToken? t with
        | some v => finish v opened
        | none => stop (collapse (.broken .stray malformed) opened)
    match due with
    | .value => read
    | .firstItem => match t, opened with
      | .closeList, .list done :: outer => finish (.list done.reverse none) outer
      | _, _ => read
    | .firstKey => match t, opened with
      | .text key, .members done :: outer => build .colon rest (.member done key :: outer)
      | .closeObject, .members done :: outer => finish (.object done.reverse none) outer
      | .brokenText f, _ => stop (abandon f opened)
      | _, _ => stop (abandon malformed opened)
    | .key => match t, opened with
      | .text key, .members done :: outer => build .colon rest (.member done key :: outer)
      | .brokenText f, _ => stop (abandon f opened)
      | _, _ => stop (abandon malformed opened)
    | .colon => match t with
      | .colon => build .value rest opened
      | _ => stop (collapse (.broken .stray malformed) opened)
    | .next => match t, opened with
      | .comma, .list _ :: _ => build .value rest opened
      | .comma, .members _ :: _ => build .key rest opened
      | .closeList, .list done :: outer => finish (.list done.reverse none) outer
      | .closeObject, .members done :: outer => finish (.object done.reverse none) outer
      | _, _ => stop (abandon malformed opened)

def read (cs : List Char) : Result := build .value (Token.all cs) []

mutual

def ofJson : Json → Outline
  | .null => .null
  | .bool b => .bool b
  | .number n => .number (.ok n)
  | .text s => .text (.ok s)
  | .list items => .list (ofItems items) none
  | .object members => .object (ofMembers members) none

def ofItems : List Json → List Outline
  | [] => []
  | v :: rest => ofJson v :: ofItems rest

def ofMembers : List (String × Json) → List (Except Break String × Outline)
  | [] => []
  | (k, v) :: rest => (.ok k, ofJson v) :: ofMembers rest

end

/-- The fault behind the last item, if any, as a reader that wants the values meets it. -/
def closed : Option Fault → Except Break Unit
  | none => .ok ()
  | some f => .error f.strict

mutual

def skip : Outline → Except Break Unit
  | .list items fault => do
    skipItems items
    match fault with
    | none => .ok ()
    | some f => .error f.loose
  | .object members fault => do
    skipMembers members
    match fault with
    | none => .ok ()
    | some f => .error f.loose
  | .broken _ f => .error f.loose
  | _ => .ok ()

def skipItems : List Outline → Except Break Unit
  | [] => .ok ()
  | v :: rest => do skip v; skipItems rest

def skipMembers : List (Except Break String × Outline) → Except Break Unit
  | [] => .ok ()
  | (_, v) :: rest => do skip v; skipMembers rest

end

mutual

/-- The value that an outline denotes, with at most `room` lists and objects open at a time. Of two
members with one key the later counts. -/
def toJson : Nat → Outline → Except Break Json
  | _, .null => .ok .null
  | _, .bool b => .ok (.bool b)
  | _, .number n => n.map .number
  | _, .text s => s.map .text
  | 0, .list _ _ | 0, .object _ _ => .error .malformed
  | room + 1, .list items fault => do
    let items ← toItems room items
    closed fault
    return .list items
  | room + 1, .object members fault => do
    let members ← toMembers room members
    closed fault
    return .ofMembers members
  | _, .broken _ f => .error f.strict

def toItems : Nat → List Outline → Except Break (List Json)
  | _, [] => .ok []
  | room, v :: rest => do
    let v ← toJson room v
    let rest ← toItems room rest
    return v :: rest

def toMembers : Nat → List (Except Break String × Outline) → Except Break (List (String × Json))
  | _, [] => .ok []
  | room, (k, v) :: rest => do
    let k ← k
    let v ← toJson room v
    let rest ← toMembers room rest
    return (k, v) :: rest

end

end Outline

/-- How many lists and objects a text may have open at a time. -/
def maxDepth : Nat := 127

def parse (text : String) : Except Break Json := do
  let result := Outline.read text.toList
  let v ← result.outline.toJson maxDepth
  if result.trailing then .error .malformed else return v

end Json

end ChatFlow
