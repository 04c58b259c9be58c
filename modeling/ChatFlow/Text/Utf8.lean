namespace ChatFlow.Text

def utf8Of (n : Nat) : List Nat :=
  if n < 0x80 then [n]
  else if n < 0x800 then [0xC0 + n / 0x40, 0x80 + n % 0x40]
  else if n < 0x10000 then [0xE0 + n / 0x1000, 0x80 + n / 0x40 % 0x40, 0x80 + n % 0x40]
  else [0xF0 + n / 0x40000, 0x80 + n / 0x1000 % 0x40, 0x80 + n / 0x40 % 0x40, 0x80 + n % 0x40]

def toUtf8 (cs : List Char) : List Nat := cs.flatMap fun c => utf8Of c.toNat

def replacement : Char := '\ufffd'

def continues (b : Nat) : Bool := 0x80 ≤ b && b < 0xC0

/-- Whether a second byte may follow a first one: neither longer than need be, nor a surrogate, nor
beyond the last code point. -/
def mayFollow (first second : Nat) : Bool :=
  continues second &&
    (first != 0xE0 || 0xA0 ≤ second) && (first != 0xED || second < 0xA0) &&
    (first != 0xF0 || 0x90 ≤ second) && (first != 0xF4 || second < 0x90)

/-- Reads the character at the front of some bytes: the character, if it is one, and how many bytes
after the first belong to it or to the attempt. -/
def frontChar (first : Nat) (rest : List Nat) : Option Char × Nat :=
  if first < 0x80 then (some (Char.ofNat first), 0)
  else if 0xC2 ≤ first && first < 0xE0 then
    match rest with
    | b :: _ =>
      if continues b then (some (Char.ofNat ((first - 0xC0) * 0x40 + (b - 0x80))), 1) else (none, 0)
    | [] => (none, 0)
  else if 0xE0 ≤ first && first < 0xF0 then
    match rest with
    | b :: more =>
      if !mayFollow first b then (none, 0)
      else match more with
        | c :: _ =>
          if continues c then
            (some (Char.ofNat ((first - 0xE0) * 0x1000 + (b - 0x80) * 0x40 + (c - 0x80))), 2)
          else (none, 1)
        | [] => (none, 1)
    | [] => (none, 0)
  else if 0xF0 ≤ first && first < 0xF5 then
    match rest with
    | b :: more =>
      if !mayFollow first b then (none, 0)
      else match more with
        | c :: more =>
          if !continues c then (none, 1)
          else match more with
            | d :: _ =>
              if continues d then
                (some (Char.ofNat ((first - 0xF0) * 0x40000 + (b - 0x80) * 0x1000 +
                  (c - 0x80) * 0x40 + (d - 0x80))), 3)
              else (none, 2)
            | [] => (none, 2)
        | [] => (none, 1)
    | [] => (none, 0)
  else (none, 0)

def readUtf8 : List Nat → List (Option Char)
  | [] => []
  | first :: rest =>
    let (c, extra) := frontChar first rest
    c :: readUtf8 (rest.drop extra)
termination_by bytes => bytes.length
decreasing_by simp only [List.length_drop, List.length_cons]; omega

/-- The characters of bytes, with a replacement for each attempt that fails. -/
def ofUtf8 (bytes : List Nat) : List Char := (readUtf8 bytes).map (·.getD replacement)

def ofUtf8? (bytes : List Nat) : Option (List Char) := (readUtf8 bytes).mapM id

end ChatFlow.Text
