import ChatFlow.Text.Blank
import ChatFlow.Text.CaseProperty
import ChatFlow.Text.Casing
import ChatFlow.Text.Category
import ChatFlow.Text.Folding
import ChatFlow.Text.Property
import ChatFlow.Text.Script

namespace ChatFlow

inductive Charset
  | empty
  /-- the code points from one to another -/
  | range (first last : Nat)
  /-- a general category by its two letters, or a group of categories by its one letter -/
  | category (name : String)
  /-- a script by its code -/
  | script (code : String)
  /-- white space -/
  | blank
  /-- the code points of a table -/
  | table (ranges : List (Nat × Nat))
  | union (a b : Charset)
  | inter (a b : Charset)
  | compl (a : Charset)
  /-- the characters that differ from one of the set in case only -/
  | folded (a : Charset)
  deriving Repr, DecidableEq

namespace Charset

def holds : Charset → Nat → Bool
  | empty, _ => false
  | range first last, n => first ≤ n && n ≤ last
  | category name, n => name.toList.isPrefixOf (Text.category n).toList
  | script code, n => Text.script n == code
  | blank, n => Text.isBlank (Char.ofNat n)
  | table ranges, n => Text.inRanges n ranges
  | union a b, n => a.holds n || b.holds n
  | inter a b, n => a.holds n && b.holds n
  | compl a, n => !a.holds n
  | folded a, n => (Text.caseVariants n).any a.holds

def contains (s : Charset) (c : Char) : Bool := s.holds c.toNat

def single (c : Char) : Charset := range c.toNat c.toNat

def unions : List Charset → Charset
  | [] => empty
  | [s] => s
  | s :: rest => union s (unions rest)

def all : Charset := range 0 0x10FFFF

def difference (a b : Charset) : Charset := inter a (compl b)

def symmetricDifference (a b : Charset) : Charset := union (difference a b) (difference b a)

def complIf (negated : Bool) (s : Charset) : Charset := if negated then compl s else s

def digit : Charset := category "Nd"

def alphabetic : Charset := unions [category "L", category "Nl", table Text.alphabeticOthers]

/-- The characters of words: letters, marks, digits, connecting punctuation and the joiners. -/
def word : Charset :=
  unions [alphabetic, category "M", category "Nd", category "Pc", range 0x200C 0x200D]

def asciiDigit : Charset := range 0x30 0x39

def asciiLetter : Charset := union (range 0x41 0x5A) (range 0x61 0x7A)

def asciiBlank : Charset := union (range 9 13) (single ' ')

def asciiWord : Charset := unions [asciiLetter, asciiDigit, single '_']

def posix? : String → Option Charset
  | "alnum" => some (union asciiLetter asciiDigit)
  | "alpha" => some asciiLetter
  | "ascii" => some (range 0 0x7F)
  | "blank" => some (union (single '\t') (single ' '))
  | "cntrl" => some (union (range 0 0x1F) (range 0x7F 0x7F))
  | "digit" => some asciiDigit
  | "graph" => some (range 0x21 0x7E)
  | "lower" => some (range 0x61 0x7A)
  | "print" => some (range 0x20 0x7E)
  | "punct" =>
    some (unions [range 0x21 0x2F, range 0x3A 0x40, range 0x5B 0x60, range 0x7B 0x7E])
  | "space" => some asciiBlank
  | "upper" => some (range 0x41 0x5A)
  | "word" => some asciiWord
  | "xdigit" => some (unions [asciiDigit, range 0x41 0x46, range 0x61 0x66])
  | _ => none

/-- A property name in lower case, without blanks, hyphens, underscores and a leading `is`. -/
def plainName (name : List Char) : String :=
  let name := (name.map Char.toLower).filter fun c => !Text.isBlank c && c != '_' && c != '-'
  match name with
  | ['i', 's', 'c'] => "isc"
  | 'i' :: 's' :: rest => .ofList rest
  | name => .ofList name

def categoryNames : List (String × String) := [
  ("c", "C"), ("other", "C"), ("cc", "Cc"), ("control", "Cc"), ("cntrl", "Cc"), ("cf", "Cf"),
  ("format", "Cf"), ("cn", "Cn"), ("unassigned", "Cn"), ("co", "Co"), ("privateuse", "Co"),
  ("l", "L"), ("letter", "L"), ("ll", "Ll"), ("lowercaseletter", "Ll"), ("lm", "Lm"),
  ("modifierletter", "Lm"), ("lo", "Lo"), ("otherletter", "Lo"), ("lt", "Lt"),
  ("titlecaseletter", "Lt"), ("lu", "Lu"), ("uppercaseletter", "Lu"), ("m", "M"), ("mark", "M"),
  ("combiningmark", "M"), ("mc", "Mc"), ("spacingmark", "Mc"), ("me", "Me"),
  ("enclosingmark", "Me"), ("mn", "Mn"), ("nonspacingmark", "Mn"), ("n", "N"), ("number", "N"),
  ("nd", "Nd"), ("decimalnumber", "Nd"), ("digit", "Nd"), ("nl", "Nl"), ("letternumber", "Nl"),
  ("no", "No"), ("othernumber", "No"), ("p", "P"), ("punctuation", "P"), ("punct", "P"),
  ("pc", "Pc"), ("connectorpunctuation", "Pc"), ("pd", "Pd"), ("dashpunctuation", "Pd"),
  ("pe", "Pe"), ("closepunctuation", "Pe"), ("pf", "Pf"), ("finalpunctuation", "Pf"), ("pi", "Pi"),
  ("initialpunctuation", "Pi"), ("po", "Po"), ("otherpunctuation", "Po"), ("ps", "Ps"),
  ("openpunctuation", "Ps"), ("s", "S"), ("symbol", "S"), ("sc", "Sc"), ("currencysymbol", "Sc"),
  ("sk", "Sk"), ("modifiersymbol", "Sk"), ("sm", "Sm"), ("mathsymbol", "Sm"), ("so", "So"),
  ("othersymbol", "So"), ("z", "Z"), ("separator", "Z"), ("zl", "Zl"), ("lineseparator", "Zl"),
  ("zp", "Zp"), ("paragraphseparator", "Zp"), ("zs", "Zs"), ("spaceseparator", "Zs")]

def ofCategoryName? : String → Option Charset
  | "any" => some all
  | "assigned" => some (compl (category "Cn"))
  | "ascii" => some (range 0 0x7F)
  | "lc" | "casedletter" => some (unions [category "Lu", category "Ll", category "Lt"])
  | name => (categoryNames.lookup name).map category

def ofScriptName? (name : String) : Option Charset := (Text.scriptNames.lookup name).map script

def ofPropertyName? : String → Option Charset
  | "alphabetic" | "alpha" => some alphabetic
  | "lowercase" | "lower" => some (union (category "Ll") (table Text.lowercaseOthers))
  | "uppercase" | "upper" => some (union (category "Lu") (table Text.uppercaseOthers))
  | "whitespace" | "wspace" | "space" => some blank
  | "cased" => some (table Text.casedRanges)
  | "caseignorable" | "ci" => some (table Text.caseIgnorableRanges)
  | "emoji" => some (table Text.emojiRanges)
  | "emojipresentation" | "epres" => some (table Text.emojiPresentationRanges)
  | "extendedpictographic" | "extpict" => some (table Text.pictographicRanges)
  | "ideographic" | "ideo" => some (table Text.ideographicRanges)
  | "asciihexdigit" | "ahex" => some (unions [asciiDigit, range 0x41 0x46, range 0x61 0x66])
  | "joincontrol" | "joinc" => some (range 0x200C 0x200D)
  | _ => none

/-- The set of a single name: a property, a general category, or a script. -/
def ofName? (name : String) : Option Charset :=
  ((ofPropertyName? name).or (ofCategoryName? name)).or (ofScriptName? name)

def ofPropertyValue? (property value : String) : Option Charset :=
  match property with
  | "generalcategory" | "gc" => ofCategoryName? value
  | "script" | "sc" | "scriptextensions" | "scx" => ofScriptName? value
  | _ => none

/-- How many times the value begins to satisfy `p` along a table; `inside` says whether it did at
the last stretch. -/
def beginnings (p : String → Bool) (inside : Bool) : List Text.Stretch → Nat
  | [] => 0
  | s :: rest =>
    (if p s.value && !inside then 1 else 0) + beginnings p (p s.value) rest

/-- About how much room the set takes: five halves for every stretch of a table. -/
def weight : Charset → Nat
  | empty => 1
  | range _ last => if last < 0x80 then 1 else 3
  | category name =>
    5 * beginnings (fun value => name.toList.isPrefixOf value.toList) false
      Text.categoryStretches / 2
  | script code => 5 * beginnings (· == code) false Text.scriptStretches / 2
  | blank => 10
  | table ranges => 5 * ranges.length / 2
  | union a b => max a.weight b.weight
  | inter a b => min a.weight b.weight
  | compl a => a.weight + 5
  | folded a => a.weight

end Charset

end ChatFlow
