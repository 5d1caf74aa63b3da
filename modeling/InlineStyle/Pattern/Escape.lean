import InlineStyle.Decimal
import InlineStyle.Reader

/-! The single pieces of a regular expression, and above all those that a backslash starts. -/

namespace InlineStyle.Pattern

open Reader

/-- How one place of a pattern is read. -/
structure Modes where
  /-- The pattern is about characters, and else about bytes. -/
  unicode : Bool := true
  /-- Blanks and comments between the pieces do not count. -/
  spaced : Bool := false
deriving DecidableEq, Repr

/-- What one piece of a pattern stands for. -/
inductive Piece where
  | literal (c : Char)
  | several
  | place
  /-- A place where a word starts or ends, or where none does. -/
  | boundary
deriving DecidableEq, Repr

/-- A text without the blanks and comments in front. A comment is a hash and what follows it on its line. -/
def uncommented (inComment : Bool) : Text → Text
  | [] => []
  | c :: text =>
    if inComment then uncommented (c != '\n') text
    else if Text.isBlank c then uncommented false text
    else if c == '#' then uncommented true text
    else c :: text

namespace Modes

def skip (modes : Modes) : Reader Unit := fun text =>
  some ((), if modes.spaced then uncommented false text else text)

/-- The character with a code of `count` hexadecimal digits. Surrogates are no characters. -/
def coded (modes : Modes) (count : Nat) : Reader Char := do
  let code := ofNumeralIn 16 (← exactly count (modes.skip *> satisfying isHexDigit))
  modes.skip
  guard code.isValidChar
  return Char.ofNat code

/-- The characters of a general category, which one letter names. -/
def category (modes : Modes) : Reader Piece := do
  modes.skip
  let name ← any
  modes.skip
  guard (modes.unicode && "clmnpsz".toList.contains name.toLower)
  return .several

/-- What follows a backslash. Punctuation stands for itself, and other characters have a meaning or are
refused. A byte is none of the characters outside ASCII, nor a class that holds them. -/
def escape (modes : Modes) : Reader Piece := do
  match ← any with
  | 'x' => do
    let c ← modes.coded 2
    guard (modes.unicode || c.toNat < 128)
    return .literal c
  | 'u' => .literal <$> modes.coded 4
  | 'U' => .literal <$> modes.coded 8
  | 'p' | 'P' => modes.category
  | 'd' | 's' | 'w' => return .several
  | 'D' | 'S' | 'W' => do
    guard modes.unicode
    return .several
  | 'a' => return .literal '\x07'
  | 'f' => return .literal '\x0c'
  | 'n' => return .literal '\n'
  | 'r' => return .literal '\r'
  | 't' => return .literal '\t'
  | 'v' => return .literal '\x0b'
  | 'A' | 'z' => return .place
  | 'b' | 'B' | '<' | '>' => return .boundary
  | c => do
    guard (c.toNat < 128 && !c.isAlphanum)
    return .literal c

end Modes
end InlineStyle.Pattern
