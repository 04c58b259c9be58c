import ChatFlow.Text.Blank
import ChatFlow.Text.Casing
import ChatFlow.Text.Category
import ChatFlow.Binary64.Decimal
import ChatFlow.Url.Percent
import ChatFlow.Url.Punycode

namespace ChatFlow

inductive UrlDefect
  | emptyHost
  | internationalName
  | port
  | address4
  | address6
  | hostCharacter
  | relative
  deriving DecidableEq, Repr

def UrlDefect.message : UrlDefect → String
  | emptyHost => "empty host"
  | internationalName => "invalid international domain name"
  | port => "invalid port number"
  | address4 => "invalid IPv4 address"
  | address6 => "invalid IPv6 address"
  | hostCharacter => "invalid domain character"
  | relative => "relative URL without a base"

inductive Host
  | name (name : String)
  | address4 (n : Nat)
  /-- eight groups of sixteen bits -/
  | address6 (groups : List Nat)
  deriving DecidableEq, Repr

namespace Host

def numeral : List Char → Nat × List Char
  | '0' :: 'x' :: ds | '0' :: 'X' :: ds => (16, ds)
  | '0' :: d :: ds => (8, d :: ds)
  | ds => (10, ds)

/-- A part of an address: decimal, octal after a zero, hexadecimal after `0x`. -/
def part? (cs : List Char) : Option Nat :=
  if cs.isEmpty then none
  else
    let (base, ds) := numeral cs
    if ds.all fun c => (Text.hexValue? c).any (· < base) then
      some (ds.foldl (fun n c => base * n + (Text.hexValue? c).getD 0) 0)
    else none

def nameParts (name : List Char) : List (List Char) :=
  let parts := Text.pieces '.' name
  if parts.getLast? = some [] then parts.dropLast else parts

/-- Whether the last part of a name is a number, so that the whole has to be an address. -/
def endsInNumber (name : List Char) : Bool :=
  match (nameParts name).getLast? with
  | some last => (!last.isEmpty && last.all Decimal.isDigit) || (part? last).isSome
  | none => false

/-- The address of up to four parts: each is a byte, but the last fills what is left. -/
def address4? (name : List Char) : Option Nat := do
  let parts ← (nameParts name).mapM part?
  let last ← parts.getLast?
  let bytes := parts.dropLast
  if 4 < parts.length || Nat.pow 256 (4 - bytes.length) ≤ last || bytes.any (255 < ·) then none
  else return bytes.zipIdx.foldl (fun sum (b, i) => sum + b * Nat.pow 256 (3 - i)) last

def byte? (cs : List Char) : Option Nat :=
  let n := Decimal.valueOf cs
  if cs.isEmpty || !cs.all Decimal.isDigit || (cs.head? =
    some '0' && 1 < cs.length) || 255 < n then none
  else some n

def decimalGroups? (cs : List Char) : Option (List Nat) :=
  match (Text.pieces '.' cs).mapM byte? with
  | some [a, b, c, d] => some [a * 256 + b, c * 256 + d]
  | _ => none

def group? (cs : List Char) : Option Nat :=
  if cs.isEmpty || 4 < cs.length || !cs.all Text.isHex then none else some (Text.hexNumber cs)

/-- Groups between colons; the last two may be written as four decimal bytes. -/
def groups? : List (List Char) → Option (List Nat)
  | [] => some []
  | [last] => if last.contains '.' then decimalGroups? last else (group? last).map ([·])
  | cs :: rest => do return (← group? cs) :: (← groups? rest)

def groupsOf? (cs : List Char) : Option (List Nat) :=
  if cs.isEmpty then some [] else groups? (Text.pieces ':' cs)

def cutAtColons : List Char → Option (List Char × List Char)
  | [] => none
  | ':' :: ':' :: rest => some ([], rest)
  | c :: rest => (cutAtColons rest).map fun (a, b) => (c :: a, b)

/-- The address: eight groups, one stretch of which may be left out if it is all zeros. -/
def address6? (cs : List Char) : Option (List Nat) :=
  match cutAtColons cs with
  | none => do
    let groups ← groupsOf? cs
    if groups.length = 8 then return groups else none
  | some (front, back) => do
    let front' ← groupsOf? front
    let back ← groupsOf? back
    if front.contains '.' || 8 ≤ front'.length + back.length then none
    else return front' ++ List.replicate (8 - front'.length - back.length) 0 ++ back

def isForbidden (c : Char) : Bool :=
  c.toNat ≤ 0x20 || c.toNat = 0x7F || "%#/:<>?@[\\]^|".toList.contains c

/-- The characters that names are written without: soft hyphens, blanks of no width, selectors of
variants. -/
def ignoredRanges : List (Nat × Nat) :=
  [(0xAD, 0xAD), (0x34F, 0x34F), (0x180B, 0x180D), (0x180F, 0x180F), (0x200B, 0x200B),
    (0x2060, 0x2060), (0x2064, 0x2064), (0xFE00, 0xFE0F), (0xFEFF, 0xFEFF), (0xE0100, 0xE01EF)]

/-- What a character of a name is written as. Characters composed of others are left as they are. -/
def mapped (c : Char) : List Char :=
  if c.toNat < 0x80 then [c.toLower]
  else if Text.inRanges c.toNat ignoredRanges then []
  else if c.toNat = 0x3002 || c.toNat = 0xFF61 then ['.']
  -- the full-width forms of the characters of ASCII
  else if 0xFF01 ≤ c.toNat && c.toNat ≤ 0xFF5E then [(Char.ofNat (c.toNat - 0xFEE0)).toLower]
  else Text.lowerChar c

/-- Whether a label can hold a character: no blank, no mark of layout and no code point without a
character. -/
def isAdmissible (c : Char) : Bool :=
  let unfit := ["Cc", "Cf", "Cn", "Co", "Cs", "Zl", "Zp", "Zs"]
  c.toNat < 0x80 || !unfit.contains (Text.category c.toNat)

/-- Whether a label is written as itself and does not begin with a mark that joins the character
before. -/
def isSettled (label : List Char) : Bool :=
  label.all isAdmissible && label.flatMap mapped == label &&
    !label.head?.any fun c => 0x80 ≤ c.toNat && ["Mc", "Me", "Mn"].contains (Text.category c.toNat)

/-- Whether a label of a name is in order: one with the mark `xn--` stands for other characters. -/
def isLabel (label : List Char) : Bool :=
  match label with
  | 'x' :: 'n' :: '-' :: '-' :: rest =>
    rest.all (·.toNat < 0x80) && (Punycode.decode rest).any fun points =>
      points.any (0x80 ≤ ·) && isSettled (points.map Char.ofNat)
  | label => isSettled label

def labelText (label : List Char) : List Char :=
  if label.all (·.toNat < 0x80) then label
  else 'x' :: 'n' :: '-' :: '-' :: Punycode.encode (label.map Char.toNat)

def ofBrackets (cs : List Char) : Except UrlDefect Host :=
  match address6? cs.dropLast with
  | some groups => if cs.getLast? = some ']' then .ok (address6 groups) else .error .address6
  | none => .error .address6

/-- The host of an address of one of the well-known schemes. -/
def ofText (cs : List Char) : Except UrlDefect Host :=
  match cs with
  | '[' :: rest => ofBrackets rest
  | cs =>
    match Text.ofUtf8? (Percent.decode cs) with
    | none => .error .internationalName
    | some domain =>
      let labels := Text.pieces '.' (domain.flatMap mapped)
      let domain := ['.'].intercalate (labels.map labelText)
      if domain.any isForbidden || !labels.all isLabel then .error .internationalName
      else if domain.isEmpty then .error .emptyHost
      else if endsInNumber domain then
        match address4? domain with
        | some n => .ok (address4 n)
        | none => .error .address4
      else .ok (name (.ofList domain))

def isForbiddenElsewhere (c : Char) : Bool := "\x00\t\n\r #/:<>?@[\\]^|".toList.contains c

def ofOpaqueText (cs : List Char) : Except UrlDefect Host :=
  match cs with
  | '[' :: rest => ofBrackets rest
  | cs =>
    if cs.any isForbiddenElsewhere then .error .hostCharacter
    else .ok (name (.ofList (Percent.encode Percent.inOpaque cs)))

/-- The longest stretch of two or more zeros, the first of several: where it begins and how long it
is. -/
def longestZeros (groups : List Nat) : Option (Nat × Nat) :=
  let stretches :=
    (List.range groups.length).map fun i => (i, ((groups.drop i).takeWhile (· == 0)).length)
  stretches.foldl (fun best s =>
    match best with
    | some b => if b.2 < s.2 then some s else best
    | none => if 2 ≤ s.2 then some s else none) none

def groupsText (groups : List Nat) : List Char := [':'].intercalate (groups.map Text.hexDigits)

def text : Host → String
  | name s => s
  | address4 n =>
    ".".intercalate ([n / 0x1000000, n / 0x10000 % 0x100, n / 0x100 % 0x100, n % 0x100].map fun b =>
      .ofList (Decimal.digitsOf b))
  | address6 groups =>
    match longestZeros groups with
    | none => .ofList ('[' :: groupsText groups ++ [']'])
    | some (start, length) =>
      .ofList ('[' :: groupsText (groups.take start) ++ [':', ':'] ++
        groupsText (groups.drop (start + length)) ++ [']'])

end Host

end ChatFlow
