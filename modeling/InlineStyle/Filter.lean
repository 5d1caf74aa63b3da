import InlineStyle.Log
import InlineStyle.Pattern

/-! Log filters. A filter is a list of directives with commas between, such as `warn` and `place[{field}]=debug`.
The most specific directive about a record decides whether the record is shown.

Directives are read and ranked as the environment filters of tracing-subscriber 0.3 do it, down to the byte offsets at which
they take their parts. It is assumed that no record is in a span and that none has a field with the value of a directive, so a
directive with either concerns no record. An offset within a character rounds down, where such a filter gives no answer. -/

namespace InlineStyle

/-- The least severe level that is shown, or `none` to show nothing. -/
abbrev Threshold := Option Level

namespace Threshold

def admits (threshold : Threshold) (level : Level) : Bool :=
  match threshold with
  | none => false
  | some least => level.rank ≤ least.rank

/-- The threshold that shows a number of levels. -/
def counted? : Nat → Option Threshold
  | 0 => some none
  | 1 => some (some .error)
  | 2 => some (some .warn)
  | 3 => some (some .info)
  | 4 => some (some .debug)
  | 5 => some (some .trace)
  | _ => none

/-- A count of levels, perhaps with a plus sign. -/
def count? (text : Text) : Option Nat :=
  let digits := (Text.after? ['+'] text).getD text
  if !digits.isEmpty && digits.all Char.isDigit then some (ofNumeral digits) else none

def named? (name : Text) : Option Threshold :=
  let lower := name.map Char.toLower
  if lower = "off".toList then some none
  else if lower = "error".toList then some (some .error)
  else if lower = "warn".toList then some (some .warn)
  else if lower = "info".toList then some (some .info)
  else if lower = "debug".toList then some (some .debug)
  else if lower = "trace".toList then some (some .trace)
  else (count? name).bind counted?

end Threshold

structure Directive where
  /-- What the origin of the records starts with. -/
  origin : Text := []
  span : Option Text := none
  field : Option Text := none
  threshold : Threshold := some .trace
deriving DecidableEq, Repr

namespace Directive

/-- No record of a run is in a span. -/
def concerns (directive : Directive) (record : Record) : Bool :=
  directive.span.isNone && (Text.after? directive.origin record.origin).isSome &&
    directive.field.all record.fieldNames.contains

/-- Whether a directive about a record is at least as specific as another one about it. The longer origin
is the more specific one. For one origin it is the later field name, and no field is the least specific. -/
def refines (directive other : Directive) : Bool :=
  other.origin.length < directive.origin.length ||
    (other.origin.length == directive.origin.length &&
      !decide (directive.field.getD [] < other.field.getD []))

inductive Fault where
  | shape
  /-- A field is to match a pattern that cannot be used. -/
  | pattern (fault : Pattern.Fault)
  | level
deriving DecidableEq, Repr

def Fault.message : Fault → Text
  | .shape => "invalid filter directive".toList
  | .pattern fault => "invalid field filter: ".toList ++ fault.message
  | .level => "error parsing level filter: expected one of \"off\", \"error\", \"warn\", ".toList ++
      "\"info\", \"debug\", \"trace\", or a number 0-5".toList

def byteLength : Text → Nat
  | [] => 0
  | c :: text => c.utf8Size + byteLength text

/-- Splits a text at a place that is counted in bytes of UTF-8. -/
def splitAtByte : Nat → Text → Text × Text
  | _, [] => ([], [])
  | place, c :: text =>
    if 0 < place ∧ c.utf8Size ≤ place then
      let (before, after) := splitAtByte (place - c.utf8Size) text
      (c :: before, after)
    else ([], c :: text)

/-- What is left of a directive. The outline lacks the blanks around the directive. It gives the shape, and
the parts are taken from the text at the places that they have in the outline. -/
structure Rest where
  outline : Text
  text : Text

namespace Rest

/-- Goes on behind one character of ASCII. -/
def next (rest : Rest) : Rest := ⟨rest.outline.drop 1, (splitAtByte 1 rest.text).2⟩

/-- The part up to the first of some marks, and what starts with that mark. -/
def upTo (marks : List Char) (rest : Rest) : Text × Rest :=
  let (before, outline) := rest.outline.span (!marks.contains ·)
  let (part, text) := splitAtByte (byteLength before) rest.text
  (part, ⟨outline, text⟩)

end Rest

/-- A directive with the threshold behind an equals sign. Where none is written, every level is shown. -/
def levelled (directive : Directive) (rest : Rest) : Except Fault Directive :=
  match rest.outline with
  | [] => .ok directive
  | '=' :: _ =>
    let name := rest.next.text
    if name.isEmpty then .ok directive
    else
      match Threshold.named? name with
      | some threshold => .ok { directive with threshold }
      | none => .error .level
  | _ => .error .shape

/-- A number with a point and an exponent, each if need be, or a name such as `inf`. -/
def number : Reader Unit := do
  let _ ← optional (Reader.satisfying fun c => c == '+' || c == '-')
  let name := (← get).map Char.toLower
  if name = "inf".toList ∨ name = "infinity".toList ∨ name = "nan".toList then return
  let whole ← Reader.run Char.isDigit
  let places ← optional (Reader.char '.' *> Reader.run Char.isDigit)
  guard !(whole ++ places.getD []).isEmpty
  let _ ← optional do
    let _ ← Reader.satisfying fun c => c == 'e' || c == 'E'
    let _ ← optional (Reader.satisfying fun c => c == '+' || c == '-')
    Reader.run1 Char.isDigit
  Reader.atEnd

/-- What is wrong with the value that a field is to have: a number or a pattern, between the first equals
sign and the next one. -/
def valueFault? (field : Text) : Option Pattern.Fault :=
  let value := ((field.dropWhile (· != '=')).drop 1).takeWhile (· != '=')
  if (number value).isSome then none else Pattern.fault? value

/-- A directive with what is in brackets: a span, and a field in braces. -/
def bracketed (origin : Text) (rest : Rest) : Except Fault Directive :=
  let (span, rest) := rest.upTo [']', '\x7b']
  match rest.outline with
  | ']' :: _ => levelled { origin, span := some span } rest.next
  | '\x7b' :: _ =>
    let (field, rest) := rest.next.upTo ['\x7d']
    let span := if span.isEmpty then none else some span
    match field, rest.outline with
    | _ :: _, '\x7d' :: outline =>
      match valueFault? field, outline with
      | some fault, _ => .error (.pattern fault)
      | none, ']' :: _ => levelled { origin, span, field := some field } rest.next.next
      | none, _ => .error .shape
    | _, _ => .error .shape
  | _ => .error .shape

def startsOrigin (c : Char) : Bool := c == '-' || c == ':' || c == '_' || Text.isAlphanumeric c

/-- A threshold alone is a directive about every record. -/
def ofText (text : Text) : Except Fault Directive :=
  let whole : Rest := ⟨text.trimmed, text⟩
  match whole.outline with
  | [] => .error .shape
  | '[' :: _ => bracketed [] whole.next
  | c :: _ =>
    if startsOrigin c then
      let (origin, rest) := whole.upTo ['=', '[']
      match rest.outline with
      | [] =>
        match Threshold.named? text with
        | some threshold => .ok { threshold }
        | none => .ok { origin := text }
      | '[' :: _ => bracketed origin rest.next
      | _ => levelled { origin } rest
    else .error .shape

end Directive

abbrev Filter := List Directive

namespace Filter

/-- The most specific directive about a record, and the last one of those that are equally specific. -/
def deciding? (filter : Filter) (record : Record) : Option Directive :=
  (filter.filter (·.concerns record)).foldl (fun best directive =>
    match best with
    | none => some directive
    | some other => if directive.refines other then some directive else some other) none

def admits (filter : Filter) (record : Record) : Bool :=
  match filter.deciding? record with
  | none => false
  | some directive => directive.threshold.admits record.level

def parts (text : Text) : List Text := text.pieces (· == ',')

/-- The filter of a text whose parts are all directives. -/
def ofText? (text : Text) : Option Filter := (parts text).mapM fun part => (Directive.ofText part).toOption

def ofText (text : Text) : Filter := (parts text).filterMap fun part => (Directive.ofText part).toOption

def complaints (text : Text) : List Text :=
  (parts text).filterMap fun part =>
    match Directive.ofText part with
    | .ok _ => none
    | .error fault => some ("ignoring `".toList ++ part ++ "`: ".toList ++ fault.message)

end Filter
end InlineStyle
