import ChatFlow.Json.Outline

namespace ChatFlow.Json

/-- Reads a value with at most so many lists and objects open at a time. The outline is walked from
left to right, up to the first defect, be it in the text or in the shape. -/
abbrev Decoder (α : Type) := Nat → Outline → Except Break α

namespace Decoder

variable {α β : Type}

/-- What a decoder meets that wants another kind of value: a defect of the text if there is one. -/
def mismatch : Outline → Break
  | .number (.error b) | .text (.error b) => b
  | .broken _ f => f.strict
  | _ => .mismatch

def json : Decoder Json := Outline.toJson

def text : Decoder String
  | _, .text s => s
  | _, o => .error (mismatch o)

def members : Decoder (Keyed Json)
  | 0, .object _ _ => .error .malformed
  | room + 1, .object members fault => do
    let members ← Outline.toMembers room members
    Outline.closed fault
    return Keyed.ofList members
  | _, o => .error (mismatch o)

def optional (d : Decoder α) : Decoder (Option α)
  | _, .null => .ok none
  | room, o => (d room o).map some

def refine (d : Decoder α) (f : α → Option β) : Decoder β := fun room o => do
  match f (← d room o) with
  | some b => return b
  | none => throw .mismatch

def natural (limit : Nat) : Decoder Nat
  | _, .number n => do
    match ← n with
    | .whole n => if 0 ≤ n ∧ n ≤ limit then return n.toNat else throw .mismatch
    | .real _ => throw .mismatch
  | _, o => .error (mismatch o)

def bool : Decoder Bool
  | _, .bool b => .ok b
  | _, o => .error (mismatch o)

def items (d : Decoder α) (room : Nat) : List Outline → Except Break (List α)
  | [] => .ok []
  | o :: rest => do
    let a ← d room o
    let rest ← items d room rest
    return a :: rest

def list (d : Decoder α) : Decoder (List α)
  | 0, .list _ _ => .error .malformed
  | room + 1, .list outlines fault => do
    let values ← items d room outlines
    Outline.closed fault
    return values
  | _, o => .error (mismatch o)

/-- One of the named values: its name, or an object with the name as its one key and `null`. -/
def variant (choose : String → Option α) : Decoder α
  | _, .text s => do
    match choose (← s) with
    | some a => return a
    | none => throw .mismatch
  | 0, .object _ _ => .error .malformed
  | _, .object [] fault => .error (match fault with | some f => f.strict | none => .malformed)
  | _, .object ((k, v) :: rest) fault => do
    match choose (← k), v with
    | none, _ => throw .mismatch
    | some a, .null =>
      match rest, fault with
      | [], none => return a
      | [], some f => throw f.strict
      | _ :: _, _ => throw .malformed
    | some _, o => throw (mismatch o)
  | _, .broken what f => .error (match what with | .text | .nothing => f.strict | _ => .malformed)
  | _, _ => .error .malformed

structure Field (α : Type) where
  name : String
  /-- reads the field into the record -/
  read : Nat → Outline → α → Except Break α
  /-- the field may be absent from an object -/
  optional : Bool
  /-- the field may be absent at the end of a list -/
  defaulted : Bool

def required (name : String) (d : Decoder β) (set : β → α → α) : Field α :=
  ⟨name, fun room o a => (d room o).map fun b => set b a, false, false⟩

def defaulted (name : String) (d : Decoder β) (set : β → α → α) : Field α :=
  ⟨name, fun room o a => (d room o).map fun b => set b a, true, true⟩

/-- A field that keeps its initial value where it is absent from an object. -/
def nullable (name : String) (d : Decoder β) (set : β → α → α) : Field α :=
  ⟨name, fun room o a => (d room o).map fun b => set b a, true, false⟩

/-- Reads the members of an object into a record; `seen` are the fields read so far. -/
def readMembers (fields : List (Field α)) (room : Nat) :
    List (Except Break String × Outline) → List String → α → Except Break (List String × α)
  | [], seen, a => .ok (seen, a)
  | (k, o) :: rest, seen, a => do
    let k ← k
    match fields.find? (·.name == k) with
    | none => do
      o.skip
      readMembers fields room rest seen a
    | some field =>
      if seen.contains k then throw .mismatch
      else do
        let a ← field.read room o a
        readMembers fields room rest (k :: seen) a

/-- Reads the items of a list into the fields of a record in their order; returns what is left. -/
def readItems (room : Nat) (fault : Option Fault) :
    List (Field α) → List Outline → α → Except Break (List Outline × α)
  | [], rest, a => .ok (rest, a)
  | field :: fields, [], a => do
    Outline.closed fault
    if field.defaulted then readItems room fault fields [] a else throw .mismatch
  | field :: fields, o :: rest, a => do
    let a ← field.read room o a
    readItems room fault fields rest a

/-- A record with the given fields, starting from `initial`. -/
def record (fields : List (Field α)) (initial : α) : Decoder α
  | 0, .object _ _ | 0, .list _ _ => .error .malformed
  | room + 1, .object members fault => do
    let (seen, a) ← readMembers fields room members [] initial
    Outline.closed fault
    if fields.all fun f => f.optional || seen.contains f.name then return a else throw .mismatch
  | room + 1, .list items fault => do
    let (rest, a) ← readItems room fault fields items initial
    if !rest.isEmpty then throw .malformed
    Outline.closed fault
    return a
  | _, o => .error (mismatch o)

def ofText (d : Decoder α) (text : String) : Except Break α := do
  let result := Outline.read text.toList
  let a ← d maxDepth result.outline
  if result.trailing then .error .malformed else return a

/-- Reads a value; whatever is wrong with it is a matter of its shape. -/
def ofValue (d : Decoder α) (v : Json) : Except Break α :=
  match d (v.depth + 1) (.ofJson v) with
  | .ok a => .ok a
  | .error _ => .error .mismatch

end Decoder

end ChatFlow.Json
