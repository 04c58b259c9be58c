import ChatFlow.Pattern.Charset

namespace ChatFlow

/-- What is demanded of a place, without taking a character. -/
inductive Look
  | start
  | finish
  /-- the start, or behind a line feed -/
  | lineStart
  /-- the end, or before a line feed -/
  | lineEnd
  /-- as `lineStart`, where carriage returns end lines as well -/
  | returnStart
  /-- as `lineEnd`, where carriage returns end lines as well -/
  | returnEnd
  /-- about the neighbours in a set: which of (before, after) are allowed -/
  | border (set : Charset) (allowed : Bool → Bool → Bool)

/-- A pattern. It moves the set of places where it may begin to the set of places where it may end,
so that the order in which the ways to match are tried does not matter. -/
inductive Pattern
  | empty
  | set (s : Charset)
  | look (l : Look)
  | group (p : Pattern)
  | seq (p q : Pattern)
  | alt (p q : Pattern)
  /-- so many times or more, up to a limit if there is one -/
  | times (p : Pattern) (least : Nat) (most : Option Nat)

namespace Look

def holds (l : Look) (text : Array Char) (i : Nat) : Bool :=
  let before := if i = 0 then none else text[i - 1]?
  let after := text[i]?
  match l with
  | start => i == 0
  | finish => i == text.size
  | lineStart => i == 0 || before == some '\n'
  | lineEnd => i == text.size || after == some '\n'
  | returnStart =>
    i == 0 || before == some '\n' || (before == some '\r' && after != some '\n')
  | returnEnd =>
    i == text.size || after == some '\r' || (after == some '\n' && before != some '\r')
  | border set allowed => allowed (before.any set.contains) (after.any set.contains)

end Look

namespace Pattern

def merge : List Nat → List Nat → List Nat
  | [], bs => bs
  | as, [] => as
  | a :: as, b :: bs =>
    if a < b then a :: merge as (b :: bs)
    else if b < a then b :: merge (a :: as) bs
    else a :: merge as bs
termination_by as bs => as.length + bs.length

/-- Takes a step so many times; nothing is left to do once it leads nowhere new. -/
def iterate (step : List Nat → List Nat) : Nat → List Nat → List Nat
  | 0, places => places
  | n + 1, places =>
    let next := step places
    if next = places then places else iterate step n next

def spread (step : List Nat → List Nat) (limit : Nat) (places : List Nat) : List Nat :=
  iterate (fun places => merge places (step places)) limit places

/-- The places where the pattern may end if it begins at one of the given places. -/
def advance (text : Array Char) : Pattern → List Nat → List Nat
  | empty, places => places
  | set s, places => (places.filter fun i => (text[i]?).any s.contains).map (· + 1)
  | look l, places => places.filter fun i => l.holds text i
  | group p, places => p.advance text places
  | seq p q, places => q.advance text (p.advance text places)
  | alt p q, places => merge (p.advance text places) (q.advance text places)
  | times p least most, places =>
    let limit := match most with
      | some most => most - least
      | none => text.size + 1
    spread (p.advance text) limit (iterate (p.advance text) least places)

def occursIn (p : Pattern) (text : String) : Bool :=
  let text := text.toList.toArray
  !(p.advance text (List.range (text.size + 1))).isEmpty

/-- How deeply sequences, choices, groups and repetitions are nested; `inSeq` and `inAlt` say that
the pattern is the rest of a sequence or of a choice. -/
def depth (inSeq inAlt : Bool) : Pattern → Nat
  | seq p q => (if inSeq then 0 else 1) + max (p.depth false false) (q.depth true false)
  | alt p q => (if inAlt then 0 else 1) + max (p.depth false false) (q.depth false true)
  | group p => 1 + p.depth false false
  | times p _ _ => 1 + p.depth false false
  | _ => 0

/-- About how many steps the pattern takes when repetitions are written out. -/
def weight : Pattern → Nat
  | empty => 0
  | set s => s.weight
  | look _ => 1
  | group p => p.weight
  | seq p q => p.weight + q.weight
  | alt p q => p.weight + q.weight + 1
  | times p least most => p.weight * max (most.getD least) (max least 1)

def maxDepth : Nat := 250

def maxWeight : Nat := 400000

def isModest (p : Pattern) : Bool := p.depth false false ≤ maxDepth && p.weight ≤ maxWeight

end Pattern

end ChatFlow
