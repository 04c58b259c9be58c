import ChatFlow.Binary64.Decimal

namespace ChatFlow.Column

def digits (cs : List Char) : List Char × List Char :=
  (cs.takeWhile Decimal.isDigit, cs.dropWhile Decimal.isDigit)

def unsigned : List Char → List Char
  | '+' :: rest | '-' :: rest => rest
  | cs => cs

def isExponent : List Char → Bool
  | [] => true
  | e :: rest =>
    (e == 'e' || e == 'E') && !(unsigned rest).isEmpty && (unsigned rest).all Decimal.isDigit

def isSpace (c : Char) : Bool := c == ' ' || (9 ≤ c.toNat && c.toNat ≤ 13)

def spellsNumber (s : String) : Bool :=
  let cs := ((s.toList.dropWhile isSpace).reverse.dropWhile isSpace).reverse
  let (whole, rest) := digits (unsigned cs)
  match rest with
  | '.' :: rest =>
    let (fraction, rest) := digits rest
    !(whole.isEmpty && fraction.isEmpty) && isExponent rest
  | rest => !whole.isEmpty && isExponent rest

/-- What is read back of a text. The database keeps a text that spells a number as that number, and
a number cannot be read back as text. -/
def read? (s : String) : Option String := if spellsNumber s then none else some s

end ChatFlow.Column
