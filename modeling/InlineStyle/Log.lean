import InlineStyle.Event
import InlineStyle.Settings

/-! The log of a run: its records and their lines. -/

namespace InlineStyle

/-- What a run logs: the events of styling, and steps of the run itself. -/
inductive Record where
  | loaded (settings : Settings)
  | styling (event : Event)
  | finished (tally : Tally)
deriving DecidableEq, Repr

namespace Record

def level : Record → Level
  | .loaded _ => .debug
  | .styling event => event.level
  | .finished _ => .info

/-- Where a record comes from, as log filters name it. -/
def origin : Record → Text
  | .loaded _ | .finished _ => "utility_style".toList
  | .styling event => event.origin

def message : Record → Text
  | .loaded _ => "loaded configuration".toList
  | .styling event => event.message
  | .finished _ => "rewrite finished".toList

def fields : Record → List (Text × Field)
  | .loaded settings => [("config".toList, .plain settings.text)]
  | .styling event => event.fields
  | .finished tally => tally.fields

/-- The names of a record's fields. The message counts as one of them. -/
def fieldNames (record : Record) : List Text := "message".toList :: record.fields.map Prod.fst

def fieldText : Text × Field → Text
  | (name, .words text) => [' '] ++ name ++ ['='] ++ text.quoted
  | (name, .plain text) => [' '] ++ name ++ ['='] ++ text

def line (record : Record) : Text :=
  record.level.name ++ [' '] ++ record.message.bare ++ record.fields.flatMap fieldText

end Record

end InlineStyle
