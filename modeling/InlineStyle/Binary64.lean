import InlineStyle.Decimal

/-! Binary64 numbers by their bits. Below the sign bit stands the magnitude, and magnitudes are ordered
as the numbers they stand for: up to the infinite one they count the representable numbers, above it
every magnitude is no number. All arithmetic is on naturals, in units of the smallest positive number. -/

namespace InlineStyle

structure Binary64 where
  bits : UInt64
deriving DecidableEq, Repr

namespace Binary64

/-- The magnitude of infinity. -/
def infinite : Nat := 2047 * Nat.pow 2 52

def ofMagnitude (negative : Bool) (magnitude : Nat) : Binary64 :=
  ⟨UInt64.ofNat (if negative then Nat.pow 2 63 + magnitude else magnitude)⟩

def isNegative (x : Binary64) : Bool := Nat.pow 2 63 ≤ x.bits.toNat

def magnitude (x : Binary64) : Nat := x.bits.toNat % Nat.pow 2 63

def isNaN (x : Binary64) : Bool := infinite < x.magnitude

def isFinite (x : Binary64) : Bool := x.magnitude < infinite

def isZero (x : Binary64) : Bool := x.magnitude == 0

/-- How many places behind the point the smallest positive number has, in binary as in decimal notation. -/
@[irreducible] def places : Nat := 1074

/-- How many times the smallest positive number a finite magnitude stands for. -/
def units (magnitude : Nat) : Nat :=
  if magnitude < Nat.pow 2 52 then magnitude
  else (Nat.pow 2 52 + magnitude % Nat.pow 2 52) * Nat.pow 2 (magnitude / Nat.pow 2 52 - 1)

def perOne : Nat := Nat.pow 2 places

/-- The quotient to the nearest natural number, a tie going to the even one. -/
def roundedQuotient (numerator denominator : Nat) : Nat :=
  let quotient := numerator / denominator
  let rest := numerator % denominator
  if 2 * rest < denominator ∨ (2 * rest = denominator ∧ quotient % 2 = 0) then quotient else quotient + 1

/-- The magnitude nearest to a quotient, a tie going to the even one. Quotients beyond the largest finite
number by half of its last place or more become infinite. A magnitude is its exponent's share plus its
significand, so a significand that rounds up to the next power of two needs no care. -/
def nearest (numerator denominator : Nat) : Nat :=
  let scaled := numerator * perOne
  let shift := (scaled / denominator).log2 - 52
  min infinite (shift * Nat.pow 2 52 + roundedQuotient scaled (denominator * Nat.pow 2 shift))

/-- The number nearest to a decimal. Far outside the range the power of ten is never computed. -/
def ofDecimal (d : Decimal) : Binary64 :=
  let leading := (numeral d.digits).length + d.exponent
  ofMagnitude d.negative <|
    if d.digits = 0 ∨ leading < -400 then 0
    else if 400 < leading then infinite
    else
      match d.exponent with
      | .ofNat zeros => nearest (d.digits * Nat.pow 10 zeros) 1
      | .negSucc places => nearest d.digits (Nat.pow 10 (places + 1))

/-- Equality of numbers: the two zeros are equal and what is no number differs from itself. -/
def same (x y : Binary64) : Bool :=
  !x.isNaN && !y.isNaN && (x.bits == y.bits || (x.isZero && y.isZero))

end Binary64
end InlineStyle
