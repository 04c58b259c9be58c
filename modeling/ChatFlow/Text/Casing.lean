import ChatFlow.Text.CaseTable
import ChatFlow.Text.CaseProperty

namespace ChatFlow.Text

def inRanges (n : Nat) (ranges : List (Nat × Nat)) : Bool :=
  ranges.any fun (first, last) => first ≤ n && n ≤ last

/-- The distance to the other case, by the first run that holds the character. -/
def shiftOf (n : Nat) (runs : List CaseRun) : Option Int :=
  (runs.find? fun r => r.first ≤ n && n ≤ r.last && (n - r.first) % r.step == 0).map (·.shift)

def lowerChar (c : Char) : List Char :=
  if c.toNat = 0x130 then [Char.ofNat 0x69, Char.ofNat 0x307]
  else match shiftOf c.toNat lowerRuns with
    | some d => [Char.ofNat (c.toNat + d).toNat]
    | none => [c]

def upperChar (c : Char) : List Char :=
  match upperExpansions.lookup c.toNat with
  | some cs => cs.map Char.ofNat
  | none => match shiftOf c.toNat upperRuns with
    | some d => [Char.ofNat (c.toNat + d).toNat]
    | none => [c]

/-- Whether the first character that does not count as part of a word's ending has case. -/
def reachesCased (cs : List Char) : Bool :=
  match cs.dropWhile fun c => inRanges c.toNat caseIgnorableRanges with
  | [] => false
  | c :: _ => inRanges c.toNat casedRanges

/-- The lower case of a text, where `before` holds the characters in front of it, last first. Only a
capital sigma depends on its neighbours: at the end of a word it becomes the final form. -/
def lowerAfter (before : List Char) : List Char → List Char
  | [] => []
  | c :: rest =>
    (if c = 'Σ' then if reachesCased before && !reachesCased rest then ['ς'] else ['σ']
      else lowerChar c) ++ lowerAfter (c :: before) rest

def toLower (s : String) : String := .ofList (lowerAfter [] s.toList)

def toUpper (s : String) : String := .ofList (s.toList.flatMap upperChar)

end ChatFlow.Text
