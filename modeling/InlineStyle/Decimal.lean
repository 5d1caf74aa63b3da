import InlineStyle.Text

/-! Numbers in decimal notation: numerals of natural numbers, and decimals, which are a numeral shifted
by a power of ten. -/

namespace InlineStyle

/-- The decimal digits of a number, without leading zeros. -/
def numeral (value : Nat) : Text :=
  if value < 10 then [Char.ofNat (value + 48)] else numeral (value / 10) ++ [Char.ofNat (value % 10 + 48)]

def ofNumeral (digits : Text) : Nat := digits.foldl (fun value c => 10 * value + (c.toNat - 48)) 0

def isHexDigit (c : Char) : Bool := c.isDigit || ('a' ≤ c && c ≤ 'f') || ('A' ≤ c && c ≤ 'F')

/-- The value of a digit. Letters of either case are the digits from ten on. -/
def digitValue (c : Char) : Nat :=
  if c.isDigit then c.toNat - 48 else if 'a' ≤ c then c.toNat - 87 else c.toNat - 55

def ofNumeralIn (base : Nat) (digits : Text) : Nat :=
  digits.foldl (fun value c => base * value + digitValue c) 0

def signed (negative : Bool) (text : Text) : Text := if negative then '-' :: text else text

def integerText (value : Int) : Text := signed (value < 0) (numeral value.natAbs)

/-- A sign and `digits` times ten to the `exponent`. -/
structure Decimal where
  negative : Bool
  digits : Nat
  exponent : Int
deriving DecidableEq, Repr

namespace Decimal

/-- Drops the zeros at the end of the digits. Zero itself is left with one digit before the point. -/
def trim (d : Decimal) : Decimal :=
  if d.digits = 0 then { d with exponent := 0 }
  else if d.digits % 10 = 0 then trim { d with digits := d.digits / 10, exponent := d.exponent + 1 }
  else d
termination_by d.digits
decreasing_by omega

/-- Numerals on both sides of the point, the second one filled with zeros to `places` digits. -/
def fixed (digits places : Nat) : Text :=
  let fraction := numeral (digits % Nat.pow 10 places)
  numeral (digits / Nat.pow 10 places) ++ ['.'] ++ List.replicate (places - fraction.length) '0' ++ fraction

/-- The positional notation, always with a point. -/
def text (d : Decimal) : Text :=
  signed d.negative <|
    match d.exponent with
    | .ofNat zeros => numeral (d.digits * Nat.pow 10 zeros) ++ ".0".toList
    | .negSucc places => fixed d.digits (places + 1)

end Decimal
end InlineStyle
