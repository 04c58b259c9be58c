import ChatFlow.Template

namespace ChatFlow

inductive Operator
  | equals
  | contains
  | startsWith
  | greaterThan
  | «exists»
  deriving DecidableEq, Repr

def Operator.ofName? (name : String) : Option Operator :=
  match Text.trim name with
  | "EQUALS" => some .equals
  | "CONTAINS" => some .contains
  | "STARTS_WITH" => some .startsWith
  | "GT" => some .greaterThan
  | "EXISTS" => some .exists
  | _ => none

inductive BranchMode
  | all
  | any
  deriving DecidableEq, Repr

/-- Only `ANY` asks for one condition; every other mode, and none, asks for all. -/
def BranchMode.ofName (name : Option String) : BranchMode :=
  if name.map Text.trim = some "ANY" then .any else .all

/-- A comparison of the value at a path with a literal. The literal is read as JSON where it is
JSON, so `18` is a number, and is a text otherwise. -/
structure Condition where
  /-- the path whose value is compared -/
  left : String
  /-- the name of the operator -/
  op : String
  /-- what it is compared with, before placeholders are replaced -/
  right : Json
  deriving DecidableEq

namespace Condition

def operator? (c : Condition) : Option Operator := Operator.ofName? c.op

/-- The text of a value, or no text where the value counts as false. -/
def textOrEmpty (v : Option Json) : String :=
  if Coercion.isTruthy v then Coercion.optionalText v else ""

/-- The literal with its placeholders replaced, read as JSON where it is JSON. -/
def literal (c : Condition) (context : Context) : Json :=
  let raw := match c.right with
    | .null => ""
    | v => Coercion.text v
  Coercion.parseOrText (Template.apply context raw)

/-- Whether a value compares with a literal as the operator says. -/
def compare (op : Operator) (left : Option Json) (right : Json) : Bool :=
  match op with
  | .equals => Coercion.optionalText left == Coercion.text right
  | .contains => Text.contains (textOrEmpty (some right)).toList (textOrEmpty left).toList
  | .startsWith => Text.startsWith (textOrEmpty (some right)).toList (textOrEmpty left).toList
  | .greaterThan => (Coercion.number right).lt (Coercion.optionalNumber left)
  | .exists => match left with
    | none | some .null => false
    | some v => v != .text ""

/-- Whether the condition holds; one with an unknown operator does not. -/
def holds (c : Condition) (context : Context) : Bool :=
  match c.operator? with
  | none => false
  | some op => compare op (context.get? (Text.trim c.left)) (c.literal context)

def holdTogether (conditions : List Condition) (mode : BranchMode) (context : Context) : Bool :=
  match mode with
  | .all => conditions.all (·.holds context)
  | .any => conditions.any (·.holds context)

/-- The condition of a line: path, operator, and the rest of the line. A line without an operator is
none. -/
def ofLine (line : List Char) : Option Condition := do
  let (left, rest) ← Text.cutAt Text.isBlank (Text.trimBoth line)
  let rest := Text.trimFront rest
  let (op, right) := match Text.cutAt Text.isBlank rest with
    | some (op, right) => (op, Text.trimBoth right)
    | none => (rest, [])
  if op.isEmpty then none else some ⟨.ofList left, .ofList op, .text (.ofList right)⟩

def ofItem (item : Json) : Option Condition :=
  (item.member? "left").map fun left =>
    ⟨Coercion.text left, ((item.member? "op").map Coercion.text).getD "",
      (item.member? "right").getD .null⟩

def ofBlock : Option Json → List Condition
  | some (.list items) => items.filterMap ofItem
  | some (.text s) => (Text.lines s.toList).filterMap ofLine
  | _ => []

end Condition

end ChatFlow
