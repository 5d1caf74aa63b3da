import InlineStyle.Text

/-! Readers take a value from the start of a text or fail. A failed alternative leaves the text as it was. -/

namespace InlineStyle

abbrev Reader := StateT Text Option

namespace Reader

variable {α : Type}

def satisfying (accepts : Char → Bool) : Reader Char := fun
  | c :: text => if accepts c then some (c, text) else none
  | [] => none

def any : Reader Char := satisfying fun _ => true

def char (expected : Char) : Reader Unit := do
  let _ ← satisfying (· == expected)

def literally (expected : String) : Reader Unit := fun text =>
  (Text.after? expected.toList text).map ((), ·)

/-- The longest run of accepted characters, possibly none. -/
def run (accepts : Char → Bool) : Reader Text := fun text => some (text.span accepts)

def run1 (accepts : Char → Bool) : Reader Text := do
  let found ← run accepts
  guard !found.isEmpty
  return found

def exactly (count : Nat) (item : Reader α) : Reader (List α) := (List.replicate count ()).mapM fun _ => item

def atEnd : Reader Unit := fun text => if text.isEmpty then some ((), text) else none

/-- As many items as there are. It ends also where an item would take nothing. -/
def repeated (item : Reader α) (text : Text) : List α × Text :=
  match item text with
  | none => ([], text)
  | some (found, rest) =>
    if rest.length < text.length then
      let (others, rest) := repeated item rest
      (found :: others, rest)
    else ([], text)
termination_by text.length

def many (item : Reader α) : Reader (List α) := fun text => some (repeated item text)

/-- One item or more with a separator between every two. -/
def separated (item : Reader α) (separator : Char) : Reader (List α) := do
  let first ← item
  let others ← many (char separator *> item)
  return first :: others

end Reader
end InlineStyle
