import InlineStyle.Pattern.Escape

/-! Sets of characters in square brackets. A set holds characters, ranges, classes and other sets, and
operators such as `&&` may stand between parts of it. What is read of a set is how deep it nests. -/

namespace InlineStyle.Pattern

open Reader

/-- A run of items and the nesting of the deepest one. -/
structure Items where
  count : Nat := 0
  depth : Nat := 0
deriving DecidableEq, Repr

namespace Items

def add (items : Items) (depth : Nat) : Items := ⟨items.count + 1, max items.depth depth⟩

/-- The nesting of the items together. Two or more of them make a level of their own. -/
def nesting (items : Items) : Nat := if items.count ≤ 1 then items.depth else items.depth + 1

end Items

structure OpenSet where
  items : Items := {}
  /-- The nesting of what stands before the last operator. -/
  operands : Option Nat := none
deriving DecidableEq, Repr

namespace OpenSet

def add (set : OpenSet) (depth : Nat) : OpenSet := { set with items := set.items.add depth }

def nesting (set : OpenSet) : Nat :=
  match set.operands with
  | none => set.items.nesting
  | some depth => max depth set.items.nesting + 1

def operated (set : OpenSet) : OpenSet := { operands := some set.nesting }

end OpenSet

namespace Modes

/-- The character behind the next one, which is a dash. Of comments only the first hash is passed over. -/
def afterDash (modes : Modes) (text : Text) : Option Char :=
  let rest := text.drop 1
  if modes.spaced then
    match rest.dropWhile Text.isBlank with
    | '#' :: rest => (rest.dropWhile Text.isBlank).head?
    | rest => rest.head?
  else rest.head?

/-- One end of a range, or an item alone. -/
def member (modes : Modes) : Reader Piece := do
  match ← any with
  | '\\' => modes.escape
  | c => return .literal c

/-- Sets of bytes are written with ASCII characters only. -/
def holds (modes : Modes) : Piece → Bool
  | .literal c => modes.unicode || c.toNat < 128
  | .several => true
  | .place | .boundary => false

/-- Whether a dash comes next that makes a range, which no dash before a dash or a closing bracket does. -/
def startsRange (modes : Modes) (text : Text) : Bool :=
  text.head? == some '-' && modes.afterDash text != some ']' && modes.afterDash text != some '-'

/-- An item that is no set: a character, a class, or a range between two characters. -/
def item (modes : Modes) : Reader Unit := do
  let first ← modes.member
  guard (modes.holds first)
  modes.skip
  if modes.startsRange (← get) then
    char '-'
    modes.skip
    let last ← modes.member
    guard (modes.holds last)
    match first, last with
    | .literal low, .literal high => guard (low ≤ high)
    | _, _ => failure

def classNames : List Text :=
  ["alnum".toList, "alpha".toList, "ascii".toList, "blank".toList, "cntrl".toList, "digit".toList, "graph".toList,
    "lower".toList, "print".toList, "punct".toList, "space".toList, "upper".toList, "word".toList, "xdigit".toList]

def negation : Reader Bool := char '^' *> pure true <|> pure false

/-- What follows the bracket in a class such as `[:alpha:]`. Tells whether the class is negated. -/
def namedClass : Reader Bool := do
  char ':'
  let negated ← negation
  let name ← run (· != ':')
  literally ":]"
  guard (classNames.contains name)
  return negated

/-- The start of a set behind its bracket. Dashes, or one closing bracket, stand for themselves here. -/
def setStart (modes : Modes) : Reader OpenSet := do
  modes.skip
  let negated ← negation
  guard (modes.unicode || !negated)
  modes.skip
  let dashes ← many (char '-' *> modes.skip)
  let brackets ← if dashes.isEmpty then optional (char ']' *> modes.skip) else pure none
  return { items.count := dashes.length + brackets.toList.length }

/-- The rest of a set and of the sets around it. As every step takes a character, as many steps are enough as
there are characters. -/
def setRest (modes : Modes) : Nat → OpenSet → List OpenSet → Reader Nat
  | 0, _, _ => failure
  | steps + 1, set, around => do
    modes.skip
    match ← get with
    | '[' :: text =>
      match namedClass text with
      | some (negated, rest) =>
        guard (modes.unicode || !negated)
        StateT.set rest
        setRest modes steps (set.add 0) around
      | none =>
        StateT.set text
        setRest modes steps (← modes.setStart) (set :: around)
    | ']' :: text =>
      StateT.set text
      match around with
      | [] => return set.nesting + 1
      | outer :: around => setRest modes steps (outer.add (set.nesting + 1)) around
    | '&' :: '&' :: text | '-' :: '-' :: text | '~' :: '~' :: text =>
      StateT.set text
      setRest modes steps set.operated around
    | _ =>
      modes.item
      setRest modes steps (set.add 0) around

/-- A set behind its opening bracket. The result says how deep the set nests. -/
def characterSet (modes : Modes) (steps : Nat) : Reader Nat := do
  setRest modes steps (← modes.setStart) []

end Modes
end InlineStyle.Pattern
