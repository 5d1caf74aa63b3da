import InlineStyle.Pattern.CharacterSet
import InlineStyle.Text.Alphanumeric

/-! Which texts are regular expressions that a filter can use. Such a pattern is well formed, nests up to a
limit, matches no piece of a character, and asks for no word boundary in the sense of Unicode. The syntax is that of regex-syntax
0.8 with Unicode on. -/

namespace InlineStyle.Pattern

open Reader

/-- Why a text is no pattern that can be used. -/
inductive Fault where
  | malformed
  | wordBoundary
deriving DecidableEq, Repr

def Fault.message : Fault → Text
  | .malformed => "error building NFA".toList
  | .wordBoundary =>
    "unsupported regex feature for DFAs: cannot build DFAs for regexes with Unicode word boundaries; ".toList ++
      "switch to ASCII word boundaries, or heuristically enable Unicode word boundaries ".toList ++
      "or use a different regex engine".toList

/-- The most levels that a pattern nests. -/
def nestingLimit : Nat := 250

/-- The modes after some flags, of which those behind the dash are taken away. -/
def Modes.flagged (modes : Modes) (flags : Text) : Modes :=
  let (given, taken) := flags.span (· != '-')
  { unicode := (modes.unicode || given.contains 'u') && !taken.contains 'u'
    spaced := (modes.spaced || given.contains 'x') && !taken.contains 'x' }

/-- A group whose end is not read yet, or the whole pattern. -/
structure Group where
  modes : Modes := {}
  /-- The branches before the last bar. -/
  branches : Items := {}
  /-- What is read of the branch behind it. -/
  items : Items := {}
  /-- The nesting of the last item, if it is one that can be repeated. -/
  last : Option Nat := none
deriving DecidableEq, Repr

namespace Group

def add (group : Group) (depth : Nat) : Group :=
  { group with items := group.items.add depth, last := some depth }

/-- A change of modes is an item that cannot be repeated. -/
def change (group : Group) (modes : Modes) : Group :=
  { group with modes, items := group.items.add 0, last := none }

def branch (group : Group) : Group :=
  { group with branches := group.branches.add group.items.nesting, items := {}, last := none }

def repeatLast? (group : Group) : Option Group :=
  group.last.map fun depth =>
    { group with items.depth := max group.items.depth (depth + 1), last := some (depth + 1) }

def nesting (group : Group) : Nat := (group.branches.add group.items.nesting).nesting

end Group

structure Progress where
  group : Group := {}
  around : List Group := []
  names : List Text := []
  wordBoundary : Bool := false
deriving DecidableEq, Repr

namespace Progress

def add (progress : Progress) (depth : Nat) : Progress := { progress with group := progress.group.add depth }

def enter (progress : Progress) (modes : Modes) : Progress :=
  { progress with group := { modes }, around := progress.group :: progress.around }

def leave? (progress : Progress) : Option Progress :=
  match progress.around with
  | [] => none
  | outer :: around => some { progress with group := outer.add (progress.group.nesting + 1), around }

def piece (progress : Progress) : Piece → Progress
  | .boundary =>
    { progress.add 0 with wordBoundary := progress.wordBoundary || progress.group.modes.unicode }
  | _ => progress.add 0

def groupName : Reader Text := do
  let first ← satisfying fun c => c == '_' || Text.isAlphabetic c
  let others ← run fun c => c == '_' || c == '.' || c == '[' || c == ']' || Text.isAlphanumeric c
  char '>'
  return first :: others

/-- Flags behind a question mark, with a colon before the group that they are for. Without the group they
are for the rest of the group around them. -/
def flagged (progress : Progress) : Reader Progress := do
  let flags ← run fun c => c != ':' && c != ')'
  guard (flags.all "imsUuRx-".toList.contains ∧ flags.Nodup ∧ flags.getLast? ≠ some '-')
  let modes := progress.group.modes.flagged flags
  if (← any) == ':' then return progress.enter modes
  else
    guard !flags.isEmpty
    return { progress with group := progress.group.change modes }

def opened (progress : Progress) : Reader Progress := do
  let modes := progress.group.modes
  modes.skip
  match ← get with
  | '?' :: 'P' :: '<' :: text | '?' :: '<' :: text => do
    StateT.set text
    let name ← groupName
    guard !progress.names.contains name
    return { progress.enter modes with names := name :: progress.names }
  | '?' :: text =>
    StateT.set text
    progress.flagged
  | _ => return progress.enter modes

/-- One step through a pattern, with more of them in a set. Without a closing brace no count of repetitions is
complete, so that an opening one is refused. -/
def step (steps : Nat) (progress : Progress) : Reader Progress := do
  match ← any with
  | '(' => progress.opened
  | ')' => progress.leave?
  | '|' => return { progress with group := progress.group.branch }
  | '[' => return progress.add (← progress.group.modes.characterSet steps)
  | '?' | '*' | '+' => do
    let group ← progress.group.repeatLast?
    let _ ← optional (char '?')
    return { progress with group }
  | '\x7b' => failure
  | '\\' => return progress.piece (← progress.group.modes.escape)
  | '.' => do
    guard progress.group.modes.unicode
    return progress.add 0
  | _ => return progress.add 0

/-- All steps through a pattern. As every step takes a character, one more than there are characters is enough. -/
def finish : Nat → Progress → Reader Progress
  | 0, _ => failure
  | steps + 1, progress => do
    progress.group.modes.skip
    if (← get).isEmpty then return progress else finish steps (← progress.step steps)

end Progress

/-- What is wrong with a pattern that no closing brace is in. -/
def fault? (text : Text) : Option Fault :=
  match Progress.finish (text.length + 1) {} text with
  | none => some .malformed
  | some (progress, _) =>
    if !progress.around.isEmpty || nestingLimit < progress.group.nesting then some .malformed
    else if progress.wordBoundary then some .wordBoundary
    else none

end InlineStyle.Pattern
