import InlineStyle.Binary64.Shortest

/-! The values of style properties and their text inside an object literal. -/

namespace InlineStyle

inductive Value where
  | int (value : Int)
  | float (value : Binary64)
  | str (value : Text)
  | map (fields : List (Text × Value))
deriving Repr

/-- An object literal on one line. Without fields it still has both of its inner spaces. -/
def objectText (fields : List (Text × Text)) : Text :=
  "\x7b ".toList ++ ", ".toList.intercalate (fields.map fun (key, value) => key ++ ": ".toList ++ value) ++
    " \x7d".toList

namespace Value

def asInt? : Value → Option Int
  | .int value => some value
  | _ => none

def asStr? : Value → Option Text
  | .str value => some value
  | _ => none

/-- The first field of that name. -/
def field? (name : Text) : Value → Option Value
  | .map fields => fields.lookup name
  | _ => none

mutual

/-- Strings stand between single quotes and nothing in them is escaped. -/
def text : Value → Text
  | .int value => integerText value
  | .float value => value.text
  | .str value => ['\''] ++ value ++ ['\'']
  | .map fields => objectText (texts fields)
termination_by structural value => value

def texts : List (Text × Value) → List (Text × Text)
  | [] => []
  | (key, value) :: fields => (key, value.text) :: texts fields
termination_by structural fields => fields

end

mutual

/-- Equality by kind and content, with floats compared as numbers and fields in order. -/
def same : Value → Value → Bool
  | .int left, .int right => left == right
  | .float left, .float right => left.same right
  | .str left, .str right => left == right
  | .map left, .map right => sameFields left right
  | _, _ => false
termination_by structural left => left

def sameFields : List (Text × Value) → List (Text × Value) → Bool
  | [], [] => true
  | (key, left) :: lefts, (name, right) :: rights => key == name && left.same right && sameFields lefts rights
  | _, _ => false
termination_by structural lefts => lefts

end

end Value
end InlineStyle
