import InlineStyle.Decimal
import InlineStyle.Text.Printable

/-! Two ways to show a text on one line of a log. A quoted text stands between double quotes and every
character without a shape of its own is written by its code. A bare text is shown as it is, except
for the controls that a terminal would obey. -/

namespace InlineStyle.Text

def hexDigit (value : Nat) : Char := if value < 10 then Char.ofNat (value + 48) else Char.ofNat (value + 87)

/-- The hexadecimal digits of a number, without leading zeros. -/
def hexadecimal (value : Nat) : Text :=
  if value < 16 then [hexDigit value] else hexadecimal (value / 16) ++ [hexDigit (value % 16)]

/-- A character by its code in hexadecimal, between braces. -/
def byCode (c : Char) : Text := "\\u\x7b".toList ++ hexadecimal c.toNat ++ ['\x7d']

def quotedChar (c : Char) : Text :=
  if c = '\x00' then "\\0".toList
  else if c = '\t' then "\\t".toList
  else if c = '\r' then "\\r".toList
  else if c = '\n' then "\\n".toList
  else if c = '"' then "\\\"".toList
  else if c = '\\' then "\\\\".toList
  else if isShown c then [c]
  else byCode c

def quoted (text : Text) : Text := ['"'] ++ text.flatMap quotedChar ++ ['"']

def bareChar (c : Char) : Text :=
  if c = '\x1b' then "\\x1b".toList
  else if c = '\x07' then "\\x07".toList
  else if c = '\x08' then "\\x08".toList
  else if c = '\x0c' then "\\x0c".toList
  else if c = '\x7f' then "\\x7f".toList
  else if 0x80 ≤ c.toNat ∧ c.toNat ≤ 0x9f then byCode c
  else [c]

def bare (text : Text) : Text := text.flatMap bareChar

end InlineStyle.Text
