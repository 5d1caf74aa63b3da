import InlineStyle.Event
import InlineStyle.Logged

/-! Styling a class text. Its words act on one style in order; words that no family claims and words
without an effect are listed beside it. A word at fault is skipped with a warning, or under strict
options stops the styling. -/

namespace InlineStyle

structure Options where
  strict : Bool := false
  format : Format := .object
deriving DecidableEq, Repr

structure Styling where
  style : Style := {}
  /-- Words that no family claims. -/
  ignored : List Text := []
  /-- Words that a family claims and that write no property. -/
  unresolved : List Text := []
deriving Repr

namespace Styling

def isComplete (styling : Styling) : Bool := styling.ignored.isEmpty && styling.unresolved.isEmpty

def ignore (styling : Styling) (token : Text) : Styling :=
  { styling with ignored := styling.ignored ++ [token] }

def leave (styling : Styling) (token : Text) : Styling :=
  { styling with unresolved := styling.unresolved ++ [token] }

def apply (styling : Styling) (effect : Effect) : Styling :=
  { styling with style := effect.apply styling.style }

variable {ε : Type}

/-- One word. `invalid` decides whether a word at fault is left or stops the styling. -/
def advance (invalid : InvalidValue → Logged Event ε Unit) (styling : Styling) (token : Text) : Logged Event ε Styling :=
  match resolve token with
  | none => do
    .log (.unclaimed token)
    return styling.ignore token
  | some (family, .ok .nothing) => do
    .log (.unknown token family)
    return styling.leave token
  | some (family, .ok effect) => do
    .log (.applied token family)
    return styling.apply effect
  | some (_, .error fault) => do
    invalid fault
    return styling.leave token

def run (invalid : InvalidValue → Logged Event ε Unit) (input : Text) : Logged Event ε Styling :=
  input.words.foldlM (advance invalid) {}

def lenient (input : Text) : Logged Event Empty Styling := run (fun fault => .log (.skipped fault)) input

def strict (input : Text) : Logged Event InvalidValue Styling := run .stop input

end Styling

namespace Options

def styling (options : Options) (input : Text) : Logged Event InvalidValue Styling :=
  if options.strict then Styling.strict input else (Styling.lenient input).widen

/-- The style of a class text alone, without the words that played no part in it. -/
def style (options : Options) (input : Text) : Logged Event InvalidValue Style := do
  let styling ← options.styling input
  return styling.style

/-- The literal of a class text, or its first fault under strict options. -/
def literal (options : Options) (input : Text) : Logged Event InvalidValue Text := do
  let style ← options.style input
  return style.literal options.format

/-- The literal of a class text without its faulty words, whether the options are strict or not. -/
def lenientLiteral (options : Options) (input : Text) : Logged Event Empty Text := do
  let styling ← Styling.lenient input
  return styling.style.literal options.format

end Options
end InlineStyle
