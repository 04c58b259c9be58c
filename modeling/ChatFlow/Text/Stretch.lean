import ChatFlow.Text.Blank
import ChatFlow.Binary64.Decimal

namespace ChatFlow.Text

structure Stretch where
  first : Nat
  last : Nat
  value : String
  deriving Repr

def stretchesFrom (first : Nat) : List (List Char) → List Stretch
  | [] => []
  | entry :: rest =>
    let name := entry.takeWhile (!Decimal.isDigit ·)
    let count := entry.drop name.length
    let length := if count.isEmpty then 1 else Decimal.valueOf count
    ⟨first, first + length - 1, .ofList name⟩ :: stretchesFrom (first + length) rest

/-- The stretches of a table, given in lines: `Cc32 Zs Po3` says that the first 32 code points are
`Cc`, the next is `Zs`, and the three after it are `Po`. -/
def stretches (table : List String) : List Stretch :=
  stretchesFrom 0 (table.flatMap fun line => pieces ' ' line.toList)

def valueAt (n : Nat) (table : List Stretch) : String :=
  ((table.find? fun s => n ≤ s.last).map (·.value)).getD ""

end ChatFlow.Text
