import ChatFlow.Coercion
import ChatFlow.Context
import ChatFlow.Text.Casing

namespace ChatFlow.Template

/-- The characters up to the first closing brace, which must be two; none where there is nothing in
between. -/
def inner? (cs : List Char) : Option (List Char × List Char) :=
  match cs.takeWhile (· ≠ '\x7d'), cs.dropWhile (· ≠ '\x7d') with
  | c :: path, '\x7d' :: '\x7d' :: rest => some (c :: path, rest)
  | _, _ => none

theorem length_lt_of_inner? {cs path rest : List Char} (h : inner? cs = some (path, rest)) :
    rest.length < cs.length := by
  have hlen :
      cs.length = (cs.takeWhile (· ≠ '\x7d')).length + (cs.dropWhile (· ≠ '\x7d')).length := by
    rw [← List.length_append, List.takeWhile_append_dropWhile]
  unfold inner? at h
  split at h
  · next heq₁ heq₂ =>
    simp only [Option.some.injEq, Prod.mk.injEq] at h
    rw [hlen, heq₂, ← h.2]
    simp only [List.length_cons]
    omega
  · simp at h

/-- The text of the value at a path, blanks around the path aside. -/
def lookup (c : Context) (path : List Char) : List Char :=
  match c.get? (.ofList (Text.trimBoth path)) with
  | none | some .null => []
  | some v => (Coercion.text v).toList

/-- Replaces the placeholders from left to right; what is put in is not looked at again. -/
def expand (c : Context) : List Char → List Char
  | '\x7b' :: '\x7b' :: rest =>
    match _h : inner? rest with
    | some (path, more) => lookup c path ++ expand c more
    | none => '\x7b' :: expand c ('\x7b' :: rest)
  | ch :: rest => ch :: expand c rest
  | [] => []
termination_by cs => cs.length
decreasing_by
  · have := length_lt_of_inner? _h
    simp only [List.length_cons]
    omega
  · simp
  · simp

/-- A text with its placeholders replaced. A text without two opening braces is left as it is. -/
def apply (c : Context) (template : String) : String :=
  if Text.contains ['\x7b', '\x7b'] template.toList then .ofList (expand c template.toList)
  else template

/-- A field as running text with its placeholders replaced; an absent one and `null` are empty. -/
def applyValue (c : Context) : Option Json → String
  | none | some .null => ""
  | some (.text s) => apply c s
  | some v => apply c (Coercion.text v)

def pairOfLine (line : List Char) : Option (String × String) :=
  (Text.cutAt (· == '=') line).map fun (key, value) => (.ofList key, .ofList value)

def pairOfItem (item : Json) : Option (String × String) :=
  (item.member? "key").map fun key =>
    (Coercion.text key, match item.member? "value" with
      | none | some .null => ""
      | some value => Coercion.text value)

/-- The pairs of a block as authored: lines, a list of entries, or an object. -/
def rawPairs : Option Json → List (String × String)
  | some (.text s) => (Text.lines s.toList).filterMap pairOfLine
  | some (.list items) => items.filterMap pairOfItem
  | some (.object members) => members.map fun (key, value) => (key, Coercion.text value)
  | _ => []

/-- The pairs of a block: keys trimmed and in lower case, values trimmed and with their placeholders
replaced; a pair without a key is left out. -/
def pairs (c : Context) (block : Option Json) : List (String × String) :=
  ((rawPairs block).map fun (key, value) =>
    (Text.toLower (Text.trim key), apply c (Text.trim value))).filter fun (key, _) => !key.isEmpty

/-- Where a value of a response is read, and where it is written. -/
structure Mapping where
  source : String
  target : String
  deriving DecidableEq, Repr

def Mapping.isComplete (m : Mapping) : Bool := !m.source.isEmpty && !m.target.isEmpty

def mappingOfLine (line : List Char) : Option Mapping :=
  (Text.cutAtArrow line).map fun (source, target) =>
    ⟨.ofList (Text.trimBoth source), .ofList (Text.trimBoth target)⟩

def mappingOfItem (item : Json) : Option Mapping := do
  let source ← item.member? "from"
  let source ← source.asText?
  let target ← item.member? "to"
  let target ← target.asText?
  return ⟨Text.trim source, Text.trim target⟩

/-- The mappings of a block: lines, or a list of entries; incomplete ones are left out. -/
def mappings : Option Json → List Mapping
  | some (.text s) => ((Text.lines s.toList).filterMap mappingOfLine).filter (·.isComplete)
  | some (.list items) => (items.filterMap mappingOfItem).filter (·.isComplete)
  | _ => []

end ChatFlow.Template
