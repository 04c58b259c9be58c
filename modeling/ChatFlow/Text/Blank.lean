namespace ChatFlow.Text

def isBlank (c : Char) : Bool :=
  let n := c.toNat
  (9 ≤ n && n ≤ 13) || n == 0x20 || n == 0x85 || n == 0xA0 || n == 0x1680 ||
    (0x2000 ≤ n && n ≤ 0x200A) || n == 0x2028 || n == 0x2029 || n == 0x202F || n == 0x205F ||
    n == 0x3000

def trimFront (cs : List Char) : List Char := cs.dropWhile isBlank

def trimEnd (cs : List Char) : List Char := (cs.reverse.dropWhile isBlank).reverse

def trimBoth (cs : List Char) : List Char := trimEnd (trimFront cs)

/-- What stands before and after the first character that satisfies `p`, that character left out. -/
def cutAt (p : Char → Bool) : List Char → Option (List Char × List Char)
  | [] => none
  | c :: rest => if p c then some ([], rest) else (cutAt p rest).map fun (a, b) => (c :: a, b)

def cutAtArrow : List Char → Option (List Char × List Char)
  | [] => none
  | '-' :: '>' :: rest => some ([], rest)
  | c :: rest => (cutAtArrow rest).map fun (a, b) => (c :: a, b)

/-- The pieces between the occurrences of `separator`; there is always at least one. -/
def pieces (separator : Char) : List Char → List (List Char)
  | [] => [[]]
  | c :: rest =>
    if c = separator then [] :: pieces separator rest
    else match pieces separator rest with
      | [] => [[c]]
      | piece :: more => (c :: piece) :: more

/-- A line without the carriage return that stands before its line feed. -/
def dropReturn (line : List Char) : List Char :=
  match line.reverse with
  | '\r' :: front => front.reverse
  | _ => line

/-- The lines of a text. A line ends at a line feed, or at one preceded by a carriage return; what
follows the last line feed is a line unless it is empty. -/
def lines (cs : List Char) : List (List Char) :=
  let all := pieces '\n' cs
  let closed := all.dropLast.map dropReturn
  match all.getLast? with
  | none | some [] => closed
  | some last => closed ++ [last]

def startsWith (part : List Char) (cs : List Char) : Bool := part.isPrefixOf cs

def contains (part : List Char) : List Char → Bool
  | [] => part.isEmpty
  | c :: rest => part.isPrefixOf (c :: rest) || contains part rest

def trim (s : String) : String := .ofList (trimBoth s.toList)

def allBlank (s : String) : Bool := s.toList.all isBlank

def segments (s : String) : List String := (pieces '.' s.toList).map .ofList

/-- Code point order, which is also the order of the UTF-8 encodings. -/
def le (a b : String) : Bool := decide (a ≤ b)

@[simp] theorem cutAt_nil (p : Char → Bool) : cutAt p [] = none := rfl

theorem pieces_ne_nil (separator : Char) (cs : List Char) : pieces separator cs ≠ [] := by
  cases cs with
  | nil => simp [pieces]
  | cons c rest =>
    simp only [pieces]
    split
    · simp
    · split <;> simp

theorem pieces_eq_of_cutAt {separator : Char} {cs a b : List Char}
    (h : cutAt (· == separator) cs = some (a, b)) :
    pieces separator cs = a :: pieces separator b := by
  induction cs generalizing a b with
  | nil => simp at h
  | cons c rest ih =>
    simp only [cutAt, beq_iff_eq] at h
    by_cases hc : c = separator
    · simp only [hc, ↓reduceIte, Option.some.injEq, Prod.mk.injEq] at h
      simp [pieces, hc, ← h.1, h.2]
    · simp only [hc, ↓reduceIte, Option.map_eq_some_iff, Prod.mk.injEq] at h
      obtain ⟨⟨a', b'⟩, hcut, ha, hb⟩ := h
      simp only at ha hb
      subst ha; subst hb
      simp [pieces, hc, ih hcut]

theorem pieces_eq_singleton {separator : Char} {cs : List Char}
    (h : cutAt (· == separator) cs = none) : pieces separator cs = [cs] := by
  induction cs with
  | nil => rfl
  | cons c rest ih =>
    simp only [cutAt, beq_iff_eq] at h
    by_cases hc : c = separator
    · simp [hc] at h
    · simp only [hc, ↓reduceIte, Option.map_eq_none_iff] at h
      simp [pieces, hc, ih h]

end ChatFlow.Text
