import InlineStyle.Reader
import InlineStyle.Toml.Node

/-! The scalar values of TOML 1.0: strings of four kinds, numbers, truth values, and dates and times.

The limits are those of the reader toml 0.8. Whole numbers have 64 bits. A float is the nearest one of 64 bits, and one that is
too large is refused unless it is negative. A time may have a leap second, in any minute. -/

namespace InlineStyle.Toml

open Reader

def isSpace (c : Char) : Bool := c == ' ' || c == '\t'

/-- Characters that may stand for themselves: no control but the tab. -/
def isPlain (c : Char) : Bool := c == '\t' || (' ' ≤ c && c != '\x7f')

/-- A line feed, alone or behind a carriage return. -/
def newline : Reader Unit := char '\n' <|> literally "\r\n"

/-! Strings -/

/-- The character with a code of `count` hexadecimal digits. Surrogates are no characters. -/
def coded (count : Nat) : Reader Char := do
  let code := ofNumeralIn 16 (← exactly count (satisfying isHexDigit))
  guard code.isValidChar
  return Char.ofNat code

def escaped : Reader Char := do
  char '\\'
  match ← any with
  | 'b' => return '\x08'
  | 'f' => return '\x0c'
  | 'n' => return '\n'
  | 'r' => return '\r'
  | 't' => return '\t'
  | '"' => return '"'
  | '\\' => return '\\'
  | 'u' => coded 4
  | 'U' => coded 8
  | _ => failure

def isBasic (c : Char) : Bool := isPlain c && c != '"' && c != '\\'

def isLiteral (c : Char) : Bool := isPlain c && c != '\''

def basicString : Reader Text := do
  char '"'
  let parts ← many (run1 isBasic <|> (([·]) <$> escaped))
  char '"'
  return parts.flatten

def literalString : Reader Text := do
  char '\''
  let text ← run isLiteral
  char '\''
  return text

/-- One or two quotes inside a string that three of them end. -/
def fewQuotes (quote : Char) : Reader Text := do
  let quotes ← run1 (· == quote)
  guard (quotes.length < 3)
  return quotes

/-- The three quotes at the end. Of up to five quotes the first ones belong to the text. -/
def closing (quote : Char) : Reader Text := fun text =>
  let quotes := min 5 (text.takeWhile (· == quote)).length
  if 3 ≤ quotes then some (List.replicate (quotes - 3) quote, text.drop quotes) else none

/-- A backslash at the end of a line takes away the blanks and line ends behind it. -/
def lineContinuation : Reader Text := do
  char '\\'
  let _ ← run isSpace
  newline
  let _ ← many ((fun _ => ()) <$> run1 isSpace <|> newline)
  return []

def lineBreak : Reader Text := newline *> pure ['\n']

def longString (quote : Char) (part : Reader Text) : Reader Text := do
  literally (String.ofList [quote, quote, quote])
  let _ ← optional newline
  let parts ← many (part <|> lineBreak <|> fewQuotes quote)
  let last ← closing quote
  return parts.flatten ++ last

def string : Reader Text :=
  longString '"' (run1 isBasic <|> lineContinuation <|> (([·]) <$> escaped)) <|> basicString <|>
    longString '\'' (run1 isLiteral) <|> literalString

/-! Numbers -/

def isNegativeSign : Reader Bool :=
  char '-' *> pure true <|> char '+' *> pure false <|> pure false

/-- Digits that may have single underscores between them. -/
def grouped (accepts : Char → Bool) : Reader Text := do
  let first ← satisfying accepts
  let others ← many (satisfying accepts <|> char '_' *> satisfying accepts)
  return first :: others

/-- The digits of a whole number, which has no leading zeros. -/
def wholeDigits : Reader Text := char '0' *> pure ['0'] <|> grouped Char.isDigit

def exponentPart : Reader Int := do
  let _ ← satisfying fun c => c == 'e' || c == 'E'
  let negative ← isNegativeSign
  let size := ofNumeralIn 10 (← grouped Char.isDigit)
  return if negative then -(size : Int) else size

def fractionDigits : Reader Text := char '.' *> grouped Char.isDigit

/-- A number with a fraction or an exponent. One that is too large is refused, unless it is negative. -/
def decimalFloat : Reader Binary64 := do
  let negative ← isNegativeSign
  let whole ← wholeDigits
  let fraction ← optional fractionDigits
  let exponent ← optional exponentPart
  guard (fraction.isSome || exponent.isSome)
  let places := fraction.getD []
  let float := Binary64.ofDecimal
    { negative, digits := ofNumeralIn 10 (whole ++ places), exponent := exponent.getD 0 - places.length }
  guard (negative || float.isFinite)
  return float

def specialFloat : Reader Binary64 := do
  let negative ← isNegativeSign
  literally "inf" *> pure (.ofMagnitude negative Binary64.infinite) <|>
    literally "nan" *> pure (.ofMagnitude negative (Binary64.infinite + Nat.pow 2 51))

def wholeNumber : Reader Int := do
  let negative ← isNegativeSign
  let size := ofNumeralIn 10 (← wholeDigits)
  return if negative then -(size : Int) else size

def inBase (lead : String) (base : Nat) (accepts : Char → Bool) : Reader Int := do
  literally lead
  return ofNumeralIn base (← grouped accepts)

def integer : Reader Int := do
  let value ← inBase "0x" 16 isHexDigit <|> inBase "0o" 8 (fun c => '0' ≤ c && c ≤ '7') <|>
    inBase "0b" 2 (fun c => c == '0' || c == '1') <|> wholeNumber
  guard (-(Nat.pow 2 63 : Int) ≤ value ∧ value < Nat.pow 2 63)
  return value

/-! Dates and times -/

def twoDigits (least most : Nat) : Reader Nat := do
  let value := ofNumeralIn 10 (← exactly 2 (satisfying Char.isDigit))
  guard (least ≤ value ∧ value ≤ most)
  return value

def daysIn (year month : Nat) : Nat :=
  if month = 2 then if year % 4 = 0 ∧ (year % 100 ≠ 0 ∨ year % 400 = 0) then 29 else 28
  else if month = 4 ∨ month = 6 ∨ month = 9 ∨ month = 11 then 30
  else 31

def date : Reader Unit := do
  let year := ofNumeralIn 10 (← exactly 4 (satisfying Char.isDigit))
  char '-'
  let month ← twoDigits 1 12
  char '-'
  let _ ← twoDigits 1 (daysIn year month)

/-- A time of day, which may be a leap second. -/
def timeOfDay : Reader Unit := do
  let _ ← twoDigits 0 23
  char ':'
  let _ ← twoDigits 0 59
  char ':'
  let _ ← twoDigits 0 60
  let _ ← optional (char '.' *> run1 Char.isDigit)

def zone : Reader Unit :=
  (do let _ ← satisfying fun c => c == 'Z' || c == 'z') <|> do
    let _ ← satisfying fun c => c == '+' || c == '-'
    let _ ← twoDigits 0 23
    char ':'
    let _ ← twoDigits 0 59

def datetime : Reader Unit :=
  (do
    date
    let _ ← optional do
      let _ ← satisfying fun c => c == 'T' || c == 't' || c == ' '
      timeOfDay
      optional zone) <|>
    timeOfDay

def scalar : Reader Node :=
  .string <$> string <|> datetime *> pure .datetime <|> .float <$> decimalFloat <|> .float <$> specialFloat <|>
    .integer <$> integer <|> literally "true" *> pure (.boolean true) <|>
    literally "false" *> pure (.boolean false)

end InlineStyle.Toml
