import ChatFlow.Pattern.Charset
import ChatFlow.Text.Hex

namespace ChatFlow.Pattern

structure Mode where
  /-- letters match in either case -/
  ignoreCase : Bool := false
  /-- `^` and `$` match at every line -/
  multiLine : Bool := false
  /-- the dot matches line feeds -/
  dotAll : Bool := false
  /-- classes have all characters in them, not only those of ASCII -/
  unicode : Bool := true
  /-- carriage returns end lines as well -/
  returns : Bool := false
  /-- blanks and comments between the parts count for nothing -/
  spaced : Bool := false

/-- What follows blanks and comments; `inComment` says that a comment is open. -/
def skipSpace (inComment : Bool) : List Char → List Char
  | [] => []
  | c :: rest =>
    if inComment then skipSpace (c != '\n') rest
    else if c == '#' then skipSpace true rest
    else if Text.isBlank c then skipSpace false rest
    else c :: rest

def Mode.skip (mode : Mode) (cs : List Char) : List Char :=
  if mode.spaced then skipSpace false cs else cs

/-- The set, with the other cases of its characters where case is ignored, and negated if asked for.
Outside of Unicode a negated set is refused, because it would hold parts of characters. -/
def Mode.close (mode : Mode) (negated : Bool) (s : Charset) : Option Charset :=
  let folded := if mode.ignoreCase then
      if mode.unicode then .folded s else .inter (.folded s) (.range 0 0x7F)
    else s
  if negated && !mode.unicode then none else some (.complIf negated folded)

def Mode.word (mode : Mode) : Charset := if mode.unicode then .word else .asciiWord

inductive Escape
  /-- a character; `byte` if two digits give its number -/
  | char (c : Char) (byte : Bool)
  | set (s : Charset)
  | start
  | finish
  /-- about word characters before and after -/
  | border (allowed : Bool → Bool → Bool)

def isMeta (c : Char) : Bool := "\\.+*?()|[]\x7b\x7d^$#&-~".toList.contains c

/-- Whether an escaped character stands for itself: a sign of ASCII other than angle brackets. -/
def isEscapable (c : Char) : Bool :=
  isMeta c || (c.toNat < 0x80 && !c.isAlphanum && c != '<' && c != '>')

def charOf? (n : Nat) : Option Char := if h : n.isValidChar then some (Char.ofNatAux n h) else none

def fixedHex (mode : Mode) : Nat → List Char → Option (List Char × List Char)
  | 0, cs => some ([], cs)
  | n + 1, c :: rest =>
    if Text.isHex c then (fixedHex mode n (mode.skip rest)).map fun (ds, cs) => (c :: ds, cs)
      else none
  | _ + 1, [] => none

def untilBrace (mode : Mode) : List Char → Option (List Char × List Char)
  | [] => none
  | c :: rest =>
    if c = '\x7d' then some ([], rest)
    else
      (untilBrace mode rest).map fun (inner, cs) =>
        (if mode.spaced && Text.isBlank c then inner else c :: inner, cs)

/-- Reads the number of a character: so many digits, or any number of digits in braces. -/
def hexEscape (mode : Mode) (digits : Nat) (cs : List Char) : Option (Escape × List Char) :=
  match mode.skip cs with
  | '\x7b' :: rest => do
    let (ds, cs) ← untilBrace mode rest
    if ds.isEmpty || !ds.all Text.isHex then none
    else return (.char (← charOf? (Text.hexNumber ds)) false, mode.skip cs)
  | cs => do
    let (ds, cs) ← fixedHex mode digits cs
    return (.char (← charOf? (Text.hexNumber ds)) (digits == 2), cs)

def cutAtText (mark : List Char) : List Char → Option (List Char × List Char)
  | [] => none
  | c :: rest =>
    if mark.isPrefixOf (c :: rest) then some ([], (c :: rest).drop mark.length)
    else (cutAtText mark rest).map fun (a, b) => (c :: a, b)

/-- The set of a property in braces: a name, or a property and its value. -/
def propertySet (inner : List Char) : Option (Bool × Charset) :=
  let valued (negated : Bool) : List Char × List Char → Option (Bool × Charset) := fun (p, v) =>
    (Charset.ofPropertyValue? (Charset.plainName p) (Charset.plainName v)).map fun s => (negated, s)
  match cutAtText ['!', '='] inner with
  | some cut => valued true cut
  | none => match cutAtText [':'] inner with
    | some cut => valued false cut
    | none => match cutAtText ['='] inner with
      | some cut => valued false cut
      | none => (Charset.ofName? (Charset.plainName inner)).map fun s => (false, s)

/-- Reads the name of a property: one letter, or what stands in braces. -/
def property (mode : Mode) (cs : List Char) : Option ((Bool × Charset) × List Char) :=
  match mode.skip cs with
  | '\x7b' :: rest => do
    let (inner, cs) ← untilBrace mode rest
    return (← propertySet inner, cs)
  | c :: rest =>
    if c = '\\' then none
    else (Charset.ofName? (Charset.plainName [c])).map fun s => ((false, s), mode.skip rest)
  | [] => none

def propertyEscape (mode : Mode) (negated : Bool) (cs : List Char) :
    Option (Escape × List Char) := do
  let ((contrary, s), cs) ← property mode cs
  if !mode.unicode then none
  else return (.set (← mode.close (negated != contrary) s), cs)

def letterClass (mode : Mode) (c : Char) : Option Charset :=
  let s := match c.toLower with
    | 'd' => if mode.unicode then Charset.digit else .asciiDigit
    | 's' => if mode.unicode then .blank else .asciiBlank
    | _ => mode.word
  if c.isLower then some s else if mode.unicode then some (.compl s) else none

/-- Reads the name of a word border in braces. Where the first character cannot belong to a name,
there is no name but a repetition count. -/
def borderName (mode : Mode) (cs : List Char) : Option (Escape × List Char) :=
  let plain : Option (Escape × List Char) := some (.border (· != ·), cs)
  match cs with
  | '\x7b' :: rest =>
    match mode.skip rest with
    | [] => none
    | c :: more =>
      if c.isAlpha || c == '-' then do
        let (name, cs) ← untilBrace mode (c :: more)
        match String.ofList name with
        | "start" => return (.border fun before after => !before && after, cs)
        | "end" => return (.border fun before after => before && !after, cs)
        | "start-half" => return (.border fun before _ => !before, cs)
        | "end-half" => return (.border fun _ after => !after, cs)
        | _ => none
      else plain
  | _ => plain

def escape (mode : Mode) : List Char → Option (Escape × List Char)
  | [] => none
  | c :: rest =>
    match c with
    | 'x' => hexEscape mode 2 rest
    | 'u' => hexEscape mode 4 rest
    | 'U' => hexEscape mode 8 rest
    | 'p' => propertyEscape mode false rest
    | 'P' => propertyEscape mode true rest
    | 'd' | 's' | 'w' | 'D' | 'S' | 'W' => (letterClass mode c).map fun s => (.set s, rest)
    | 'a' => some (.char '\x07' false, rest)
    | 'f' => some (.char '\x0c' false, rest)
    | 't' => some (.char '\t' false, rest)
    | 'n' => some (.char '\n' false, rest)
    | 'r' => some (.char '\r' false, rest)
    | 'v' => some (.char '\x0b' false, rest)
    | 'A' => some (.start, rest)
    | 'z' => some (.finish, rest)
    | 'b' => borderName mode rest
    | 'B' => some (.border (· == ·), rest)
    | '<' => some (.border fun before after => !before && after, rest)
    | '>' => some (.border fun before after => before && !after, rest)
    | c => if isEscapable c then some (.char c false, rest) else none

inductive Combination
  | inter
  | difference
  | symmetricDifference

def Combination.apply : Combination → Charset → Charset → Charset
  | inter => .inter
  | difference => .difference
  | symmetricDifference => .symmetricDifference

/-- The set to the left of a combination that is still open, and the combination. -/
abbrev Pending := Option (Charset × Combination)

/-- The set of the items so far, joined to what is to the left of it. -/
def joined (mode : Mode) (left : Pending) (items : List Charset) : Option Charset :=
  match left with
  | none => some (.unions items)
  | some (s, op) => do
    return op.apply (← mode.close false s) (← mode.close false (.unions items))

def posixClass (cs : List Char) : Option (Bool × Charset × List Char) :=
  match cs with
  | ':' :: rest => do
    let (negated, rest) := match rest with
      | '^' :: rest => (true, rest)
      | _ => (false, rest)
    let name := rest.takeWhile (· ≠ ':')
    match rest.drop name.length with
    | ':' :: ']' :: more => return (negated, ← Charset.posix? (.ofList name), more)
    | _ => none
  | _ => none

def bracketAtom (mode : Mode) : List Char → Option (Escape × List Char)
  | '\\' :: rest => escape mode rest
  | c :: rest => some (.char c false, rest)
  | [] => none

/-- The character of an item of a set. Outside of Unicode it has to be one of ASCII. -/
def Escape.asChar? (mode : Mode) : Escape → Option Char
  | .char c _ => if mode.unicode || c.toNat < 0x80 then some c else none
  | _ => none

/-- Reads an item of a set: a character, a class, or a range. A hyphen before the closing bracket or
before another hyphen makes no range. -/
def bracketItem (mode : Mode) (cs : List Char) : Option (Charset × List Char) := do
  let (first, cs) ← bracketAtom mode cs
  let cs := mode.skip cs
  let alone : Option (Charset × List Char) := match first with
    | .set s => some (s, cs)
    | e => (e.asChar? mode).map fun c => (.single c, cs)
  match cs with
  | '-' :: rest =>
    match mode.skip rest with
    | ']' :: _ | '-' :: _ => alone
    | more => do
      let (last, cs) ← bracketAtom mode more
      let low ← first.asChar? mode
      let high ← last.asChar? mode
      if low ≤ high then return (.range low.toNat high.toNat, cs) else none
  | [] => none
  | _ => alone

def leadingHyphens (mode : Mode) : Nat → List Char → List Charset × List Char
  | 0, cs => ([], cs)
  | fuel + 1, cs =>
    match cs with
    | '-' :: rest =>
      let (items, cs) := leadingHyphens mode fuel (mode.skip rest)
      (.single '-' :: items, cs)
    | _ => ([], cs)

/-- Reads the beginning of a set after its bracket: whether it is negated, and the characters that
stand for themselves in this place only. -/
def bracketOpen (mode : Mode) (cs : List Char) : Bool × List Charset × List Char :=
  let (negated, cs) := match mode.skip cs with
    | '^' :: rest => (true, mode.skip rest)
    | cs => (false, cs)
  match leadingHyphens mode cs.length cs with
  | ([], ']' :: rest) => (negated, [.single ']'], mode.skip rest)
  | (items, cs) => (negated, items, cs)

def bracketBody (mode : Mode) :
    (fuel : Nat) → (negated : Bool) → Pending → List Charset → List Char →
      Option (Charset × List Char)
  | 0, _, _, _, _ => none
  | fuel + 1, negated, left, items, cs =>
    match mode.skip cs with
    | [] => none
    | ']' :: rest => do return (← mode.close negated (← joined mode left items), rest)
    | '&' :: '&' :: rest => do
      bracketBody mode fuel negated (some (← joined mode left items, .inter)) [] rest
    | '-' :: '-' :: rest => do
      bracketBody mode fuel negated (some (← joined mode left items, .difference)) [] rest
    | '~' :: '~' :: rest => do
      bracketBody mode fuel negated (some (← joined mode left items, .symmetricDifference)) [] rest
    | '[' :: rest =>
      match posixClass rest with
      | some (contrary, s, more) => do
        bracketBody mode fuel negated left (items ++ [← mode.close contrary s]) more
      | none => do
        let (nestedNegated, first, more) := bracketOpen mode rest
        let (s, more) ← bracketBody mode fuel nestedNegated none first more
        bracketBody mode fuel negated left (items ++ [s]) more
    | cs => do
      let (s, rest) ← bracketItem mode cs
      bracketBody mode fuel negated left (items ++ [s]) rest

def bracket (mode : Mode) (cs : List Char) : Option (Charset × List Char) :=
  let (negated, items, rest) := bracketOpen mode cs
  bracketBody mode (cs.length + 1) negated none items rest

end ChatFlow.Pattern
