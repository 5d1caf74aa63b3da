import InlineStyle.Family

/-! What is logged while words are styled: each event has a level, a message and fields. -/

namespace InlineStyle

/-- How severe an event is, the most severe first. -/
inductive Level where
  | error
  | warn
  | info
  | debug
  | trace
deriving DecidableEq, Repr

namespace Level

def name : Level → Text
  | .error => "ERROR".toList
  | .warn => "WARN".toList
  | .info => "INFO".toList
  | .debug => "DEBUG".toList
  | .trace => "TRACE".toList

def rank : Level → Nat
  | .error => 0
  | .warn => 1
  | .info => 2
  | .debug => 3
  | .trace => 4

end Level

/-- How many attributes of a markup were replaced, and how many kept. -/
structure Tally where
  replaced : Nat
  kept : Nat
deriving DecidableEq, Repr

inductive Event where
  /-- No family claims the word. -/
  | unclaimed (token : Text)
  /-- A family claims the word and has nothing to do for it. -/
  | unknown (token : Text) (family : Family)
  | applied (token : Text) (family : Family)
  | skipped (fault : InvalidValue)
  /-- An attribute stays, for none of its words writes a property. -/
  | attributeKept (words : Text)
  | attributesDone (tally : Tally)
deriving DecidableEq, Repr

/-- The value of a logged field: words of the input, or a plain name or count. -/
inductive Field where
  | words (text : Text)
  | plain (text : Text)
deriving DecidableEq, Repr

def Tally.fields (tally : Tally) : List (Text × Field) := [
  ("rewritten".toList, .plain (numeral tally.replaced)),
  ("kept".toList, .plain (numeral tally.kept))]

namespace Event

def level : Event → Level
  | .unclaimed _ | .unknown .. | .attributeKept _ | .attributesDone _ => .debug
  | .applied .. => .trace
  | .skipped _ => .warn

/-- Where an event comes from, as log filters name it. -/
def origin : Event → Text
  | .unclaimed _ | .unknown .. | .applied .. | .skipped _ => "utility_style::translate::translator".toList
  | .attributeKept _ | .attributesDone _ => "utility_style::translate::rewrite".toList

def message : Event → Text
  | .unclaimed _ => "no rule for token".toList
  | .unknown .. => "unknown suffix".toList
  | .applied .. => "applying rule".toList
  | .skipped fault => "Skipping token: ".toList ++ fault.message
  | .attributeKept _ => "keeping className with no translatable tokens".toList
  | .attributesDone _ => "rewrote className attributes".toList

def fields : Event → List (Text × Field)
  | .unclaimed token => [("token".toList, .words token)]
  | .unknown token family | .applied token family =>
    [("token".toList, .words token), ("category".toList, .plain family.name)]
  | .skipped _ => []
  | .attributeKept words => [("tokens".toList, .words words)]
  | .attributesDone tally => tally.fields

end Event

end InlineStyle
