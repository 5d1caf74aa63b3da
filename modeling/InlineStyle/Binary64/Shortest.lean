import InlineStyle.Binary64

/-! The decimal text of a binary64 number. A whole number is written out exactly, any other number
with the fewest digits that read back as itself, and never with an exponent. -/

namespace InlineStyle.Binary64

/-- The digits of a finite magnitude as an exact decimal, up to its last place. -/
def expansion (magnitude : Nat) : Nat := units magnitude * Nat.pow 5 places

/-- Whether the expansion cut to `digits` and `dropped` zeros still reads as the magnitude. -/
def readsBack (magnitude digits dropped : Nat) : Bool :=
  nearest (digits * Nat.pow 10 dropped) (Nat.pow 10 places) == magnitude

/-- The first of the two neighbours of the expansion on the grid with `dropped` digits less that reads back.
The nearer one is tried first, and the upper one at a tie. -/
def neighbour? (magnitude dropped : Nat) : Option Nat :=
  let below := expansion magnitude / Nat.pow 10 dropped
  let rest := expansion magnitude % Nat.pow 10 dropped
  let neighbours := if 2 * rest < Nat.pow 10 dropped then [below, below + 1] else [below + 1, below]
  neighbours.find? (readsBack magnitude · dropped)

/-- The fewest digits that read back, with the number of places that the expansion has beyond them. -/
def shortestDigits (magnitude : Nat) : Nat × Nat :=
  let width := (numeral (expansion magnitude)).length
  ((List.range 17).findSome? fun count =>
    let dropped := width - (count + 1)
    (neighbour? magnitude dropped).map (·, dropped)).getD (expansion magnitude, 0)

def shortest (x : Binary64) : Decimal :=
  let chosen := shortestDigits x.magnitude
  ({ negative := x.isNegative, digits := chosen.1, exponent := chosen.2 - places } : Decimal).trim

def isWhole (x : Binary64) : Bool := units x.magnitude % perOne == 0

/-- The text of a finite number, which always has a point. -/
def finiteText (x : Binary64) : Text :=
  if x.isWhole then signed x.isNegative (numeral (units x.magnitude / perOne) ++ ".0".toList)
  else x.shortest.text

def text (x : Binary64) : Text :=
  if x.isNaN then "NaN".toList
  else if x.isFinite then x.finiteText
  else signed x.isNegative "inf".toList

end InlineStyle.Binary64
