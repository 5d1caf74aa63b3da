import InlineStyle.Effect

/-! Margin and padding words: a lead such as `mb-` and a number of spacing units. Half a unit is written
`0.5` and has a width of its own on each scale. -/

namespace InlineStyle

/-- The largest integer a style holds. -/
def largest : Nat := Nat.pow 2 63 - 1

def isNumeral (text : Text) : Bool := text.all Char.isDigit

/-- The number, if a style can hold it. -/
def checked? (number : Nat) : Option Nat := if number ≤ largest then some number else none

/-- The number with one more digit behind it. -/
def further? (value : Nat) (c : Char) : Option Nat := do
  let tenfold ← checked? (10 * value)
  checked? (tenfold + (c.toNat - 48))

/-- The number of a numeral, read from the left. Reading stops where a style cannot hold the number any more. -/
def ofNumeral? (digits : Text) : Option Nat := digits.foldlM further? 0

structure Spacing where
  lead : Text
  property : Property
  /-- The pixels of half a unit, for the words that take it. -/
  half : Option Int
deriving DecidableEq, Repr

namespace Spacing

def pixelsPerUnit : Nat := 4
def marginHalf : Int := 2
def paddingHalf : Int := 6
def halfUnit : Text := "0.5".toList

def margins : List Spacing := [
  ⟨"mb-".toList, .marginBottom, some marginHalf⟩,
  ⟨"mt-".toList, .marginTop, some marginHalf⟩,
  ⟨"mr-".toList, .marginRight, none⟩,
  ⟨"ml-".toList, .marginLeft, none⟩]

def paddings : List Spacing := [
  ⟨"p-".toList, .padding, some paddingHalf⟩,
  ⟨"px-".toList, .paddingHorizontal, some paddingHalf⟩,
  ⟨"py-".toList, .paddingVertical, some paddingHalf⟩]

/-- The amount written after the lead, if the word has this lead and a proper amount. -/
def amount? (spacing : Spacing) (token : Text) : Option Text :=
  (Text.after? spacing.lead token).filter fun amount =>
    (!amount.isEmpty && isNumeral amount) || (spacing.half.isSome && amount == halfUnit)

def find? (table : List Spacing) (token : Text) : Option (Spacing × Text) :=
  table.findSome? fun spacing => (spacing.amount? token).map (spacing, ·)

/-- The pixels of an amount. The number may have any length, but it and its pixels have to stay within `largest`. -/
def pixels? (spacing : Spacing) (amount : Text) : Option Int :=
  match spacing.half with
  | some half => if amount = halfUnit then some half else whole
  | none => whole
where
  whole : Option Int :=
    if isNumeral amount then do
      let units ← ofNumeral? amount
      return ← checked? (units * pixelsPerUnit)
    else none

def effect (table : List Spacing) (token : Text) : Except InvalidValue Effect :=
  match find? table token with
  | none => .ok .nothing
  | some (spacing, amount) =>
    match spacing.pixels? amount with
    | some pixels => .ok (.set spacing.property (.int pixels))
    | none => .error ⟨token, .spacingOutOfRange⟩

end Spacing
end InlineStyle
