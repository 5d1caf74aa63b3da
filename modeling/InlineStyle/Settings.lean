import InlineStyle.Styling
import InlineStyle.Text.Quoted
import InlineStyle.Toml.Document

/-! Settings, as a TOML file gives them. The first entry that is no setting decides the error, whatever
follows it.

Which values a setting takes, and how a refused one is named, follows the derived deserialisation of serde over toml 0.8: entries
are taken in the order of the document, a field that is unknown is refused, and a variant may be written as a table. What such a
message says of the place in the file is left out. -/

namespace InlineStyle

structure Settings where
  strict : Bool := false
  format : Format := .object
  logLevel : Option Text := none
deriving DecidableEq, Repr

namespace Settings

def options (settings : Settings) : Options := { strict := settings.strict, format := settings.format }

def truth (value : Bool) : Text := if value then "true".toList else "false".toList

def text (settings : Settings) : Text :=
  let format := match settings.format with
    | .object => "Object".toList
    | .jsx => "Jsx".toList
  let logLevel := match settings.logLevel with
    | none => "None".toList
    | some level => "Some(".toList ++ level.quoted ++ ")".toList
  "Config \x7b strict: ".toList ++ truth settings.strict ++ ", format: ".toList ++ format ++
    ", log_level: ".toList ++ logLevel ++ " \x7d".toList

inductive Problem where
  | malformed
  | unknownField (name : Text)
  | unknownVariant (name : Text)
  | wrongType (found : Toml.Node) (expected : Text)
  /-- A format that is neither a string nor a table. -/
  | noVariant
  /-- A format written as a table without entries. -/
  | missingVariant
  /-- A format written as a table with several entries. -/
  | severalVariants
  /-- A format written as a table whose only entry has content. -/
  | variantContent (expected : Text)
deriving Repr

/-- How a value that has the wrong type is named. A date counts as a table. -/
def kind : Toml.Node → Text
  | .string text => "string ".toList ++ text.quoted
  | .integer value => "integer `".toList ++ integerText value ++ ['`']
  | .float value => "floating point `".toList ++ (if value.isFinite then value.shortest.text else value.text) ++ ['`']
  | .boolean value => "boolean `".toList ++ truth value ++ ['`']
  | .array _ | .tables .. => "sequence".toList
  | .datetime | .table .. => "map".toList

def Problem.message : Problem → Text
  | .malformed => "malformed document".toList
  | .unknownField name =>
    "unknown field `".toList ++ name ++ "`, expected one of `strict`, `format`, `log_level`".toList
  | .unknownVariant name => "unknown variant `".toList ++ name ++ "`, expected `object` or `jsx`".toList
  | .wrongType found expected => "invalid type: ".toList ++ kind found ++ ", expected ".toList ++ expected
  | .noVariant => "wanted string or table".toList
  | .missingVariant => "wanted exactly 1 element, found 0 elements".toList
  | .severalVariants => "wanted exactly 1 element, more than 1 element".toList
  | .variantContent expected => "expected ".toList ++ expected

def formatNamed? (name : Text) : Option Format :=
  if name = "object".toList then some .object
  else if name = "jsx".toList then some .jsx
  else none

def variant (name : Text) : Except Problem Format :=
  match formatNamed? name with
  | some format => .ok format
  | none => .error (.unknownVariant name)

/-- A variant's content, which must be absent. -/
def noContent : Toml.Node → Except Problem Unit
  | .array [] | .table _ [] => .ok ()
  | .tables .. => .error (.variantContent "empty array".toList)
  | .array _ | .table .. => .error (.variantContent "empty table".toList)
  | .string _ => content "string"
  | .integer _ => content "integer"
  | .float _ => content "float"
  | .boolean _ => content "boolean"
  | .datetime => content "datetime"
where
  content (found : String) : Except Problem Unit :=
    .error (.variantContent ("table, found ".toList ++ found.toList))

/-- A format is a string, or a table with the format as its only key and nothing below it. -/
def formatOf : Toml.Node → Except Problem Format
  | .string name => variant name
  | .table _ [] => .error .missingVariant
  | .table _ [(name, node)] => do
    let format ← variant name
    noContent node
    return format
  | .table _ (_ :: _ :: _) => .error .severalVariants
  | _ => .error .noVariant

def withEntry (settings : Settings) : Text × Toml.Node → Except Problem Settings
  | (name, node) =>
    if name = "strict".toList then
      match node with
      | .boolean strict => .ok { settings with strict }
      | _ => .error (.wrongType node "a boolean".toList)
    else if name = "format".toList then
      (formatOf node).map fun format => { settings with format }
    else if name = "log_level".toList then
      match node with
      | .string level => .ok { settings with logLevel := some level }
      | _ => .error (.wrongType node "a string".toList)
    else .error (.unknownField name)

def ofEntries (entries : Toml.Entries) : Except Problem Settings := entries.foldlM withEntry {}

def ofToml (text : Text) : Except Problem Settings :=
  match Toml.ofText? text with
  | some entries => ofEntries entries
  | none => .error .malformed

end Settings
end InlineStyle
