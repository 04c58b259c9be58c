import ChatFlow.Pattern.Basic
import ChatFlow.Pattern.Bracket

namespace ChatFlow.Pattern

def isNameChar (first : Bool) (c : Char) : Bool :=
  c == '_' || Charset.alphabetic.contains c ||
    (!first && (c == '.' || c == '[' || c == ']' || (Charset.category "N").contains c))

def groupName (cs : List Char) : Option (String × List Char) :=
  let name := cs.takeWhile (· ≠ '>')
  match name, cs.drop name.length with
  | c :: more, '>' :: rest =>
    if isNameChar true c && more.all (isNameChar false) then some (.ofList name, rest) else none
  | _, _ => none

def Mode.withFlag (mode : Mode) (value : Bool) : Char → Option Mode
  | 'i' => some { mode with ignoreCase := value }
  | 'm' => some { mode with multiLine := value }
  | 's' => some { mode with dotAll := value }
  | 'u' => some { mode with unicode := value }
  | 'x' => some { mode with spaced := value }
  | 'R' => some { mode with returns := value }
  | 'U' => some mode
  | _ => none

/-- Reads settings up to a colon or a closing bracket; `seen` holds those read so far, last first.
Each setting may stand once, and a minus sign needs one behind it. -/
def flags : Mode → (seen : List Char) → List Char → Option (Mode × Bool × List Char)
  | _, _, [] => none
  | mode, seen, c :: rest =>
    if c = ':' || c = ')' then
      if seen.head? = some '-' || (c = ')' && seen.isEmpty) then none
        else some (mode, c = ')', rest)
    else if seen.contains c then none
    else if c = '-' then flags mode ('-' :: seen) rest
    else do flags (← mode.withFlag (!seen.contains '-') c) (c :: seen) rest

inductive Opening
  /-- the group captures, perhaps under a name -/
  | capture (name : Option String)
  /-- the group only sets its parts apart, and is read in this mode -/
  | plain (mode : Mode)
  /-- there is no group; the rest of the surrounding one is read in this mode -/
  | settings (mode : Mode)

/-- Reads the opening of a group after its bracket. Demands on what stands around a place are
refused, being nothing that can be followed side by side. -/
def opening (mode : Mode) (cs : List Char) : Option (Opening × List Char) :=
  match mode.skip cs with
  | '?' :: '=' :: _ | '?' :: '!' :: _ | '?' :: '<' :: '=' :: _ | '?' :: '<' :: '!' :: _ => none
  | '?' :: 'P' :: '<' :: rest | '?' :: '<' :: rest => do
    let (name, cs) ← groupName rest
    return (.capture (some name), cs)
  | '?' :: rest => do
    let (inner, closed, cs) ← flags mode [] rest
    return (if closed then .settings inner else .plain inner, cs)
  | cs => some (.capture none, cs)

def countDigits (mode : Mode) : List Char → List Char × List Char
  | [] => ([], [])
  | c :: rest =>
    if Decimal.isDigit c then
      let (ds, cs) := countDigits mode rest
      (c :: ds, cs)
    else if mode.spaced && Text.isBlank c then countDigits mode rest
    else ([], c :: rest)

def count (mode : Mode) (cs : List Char) : Option (Nat × List Char) :=
  let (ds, cs) := countDigits mode (Text.trimFront cs)
  let n := Decimal.valueOf ds
  if ds.isEmpty || maxHalfWord < n then none else some (n, mode.skip (Text.trimFront cs))

/-- Reads the upper limit of a repetition behind the lower one: none after a bare comma, the lower
one without a comma. -/
def upperCount (mode : Mode) (least : Nat) (cs : List Char) : Option (Option Nat × List Char) :=
  match cs with
  | ',' :: rest =>
    match mode.skip rest with
    | '\x7d' :: _ => some (none, mode.skip rest)
    | cs => (count mode cs).map fun (most, cs) => (some most, cs)
  | cs => some (some least, cs)

def counts (mode : Mode) (cs : List Char) : Option (Nat × Option Nat × List Char) := do
  let (least, cs) ← count mode (mode.skip cs)
  let (most, cs) ← upperCount mode least cs
  match cs with
  | '\x7d' :: rest => if most.all (least ≤ ·) then some (least, most, mode.skip rest) else none
  | _ => none

def dropLazy : List Char → List Char
  | '?' :: rest => rest
  | cs => cs

def repeatLast (least : Nat) (most : Option Nat) : List Pattern → Option (List Pattern)
  | [] | empty :: _ => none
  | p :: rest => some (times p least most :: rest)

def literal (mode : Mode) (c : Char) : Option Pattern := (mode.close false (.single c)).map set

def ofEscape (mode : Mode) : Escape → Option Pattern
  | .char c byte => if byte && !mode.unicode && 0x80 ≤ c.toNat then none else literal mode c
  | .set s => some (set s)
  | .start => some (look .start)
  | .finish => some (look .finish)
  | .border allowed => some (look (.border mode.word allowed))

/-- The dot: any character, line ends excepted unless the mode says otherwise. -/
def dot (mode : Mode) : Option Pattern :=
  if !mode.unicode then none
  else some <| set <|
    if mode.dotAll then .all
    else if mode.returns then .compl (.union (.single '\r') (.single '\n'))
    else .compl (.single '\n')

def caret (mode : Mode) : Pattern :=
  look (if !mode.multiLine then .start else if mode.returns then .returnStart else .lineStart)

def dollar (mode : Mode) : Pattern :=
  look (if !mode.multiLine then .finish else if mode.returns then .returnEnd else .lineEnd)

def sequence : List Pattern → Pattern
  | [] => empty
  | last :: before => before.foldl (fun p q => seq q p) last

def choice (last : Pattern) (before : List Pattern) : Pattern :=
  before.foldl (fun p q => alt q p) last

/-- Reads alternatives up to a closing bracket or the end. `names` are the names of groups so far,
`before` the alternatives so far and `items` the items of the current one, each last first. -/
def body : (fuel : Nat) → Mode → (names : List String) → (before items : List Pattern) → List Char →
    Option (Pattern × List String × List Char)
  | 0, _, _, _, _, _ => none
  | fuel + 1, mode, names, before, items, cs =>
    match mode.skip cs with
    | [] => some (choice (sequence items) before, names, [])
    | ')' :: rest => some (choice (sequence items) before, names, ')' :: rest)
    | '|' :: rest => body fuel mode names (sequence items :: before) [] rest
    | '(' :: rest => do
      let (o, cs) ← opening mode rest
      match o with
      | .settings inner => body fuel inner names before (empty :: items) cs
      | .capture name =>
        if name.any names.contains then none
        else do
          let (p, names, cs) ← body fuel mode (name.toList ++ names) [] [] cs
          match cs with
          | ')' :: rest => body fuel mode names before (group p :: items) rest
          | _ => none
      | .plain inner => do
        let (p, names, cs) ← body fuel inner names [] [] cs
        match cs with
        | ')' :: rest => body fuel mode names before (group p :: items) rest
        | _ => none
    | '[' :: rest => do
      let (s, cs) ← bracket mode rest
      body fuel mode names before (set s :: items) cs
    | '*' :: rest => do
      body fuel mode names before (← repeatLast 0 none items) (dropLazy rest)
    | '+' :: rest => do
      body fuel mode names before (← repeatLast 1 none items) (dropLazy rest)
    | '?' :: rest => do
      body fuel mode names before (← repeatLast 0 (some 1) items) (dropLazy rest)
    | '\x7b' :: rest => do
      let (least, most, cs) ← counts mode rest
      body fuel mode names before (← repeatLast least most items) (dropLazy cs)
    | '\\' :: rest => do
      let (e, cs) ← escape mode rest
      body fuel mode names before ((← ofEscape mode e) :: items) cs
    | '.' :: rest => do body fuel mode names before ((← dot mode) :: items) rest
    | '^' :: rest => body fuel mode names before (caret mode :: items) rest
    | '$' :: rest => body fuel mode names before (dollar mode :: items) rest
    | c :: rest => do body fuel mode names before ((← literal mode c) :: items) rest

/-- The pattern that a text spells, if it is one and keeps within the limits. -/
def ofText? (text : String) : Option Pattern :=
  let cs := text.toList
  match body (cs.length + 1) {} [] [] [] cs with
  | some (p, _, []) => if p.isModest then some p else none
  | _ => none

end ChatFlow.Pattern
