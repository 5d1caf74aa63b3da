import InlineStyle.Property
import InlineStyle.Value

/-! A style is an ordered list of property values. A property keeps the position of its first write
and takes the value of its last. -/

namespace InlineStyle

structure Style where
  entries : List (Property × Value) := []
deriving Repr

/-- How an object literal is wrapped: as it stands, or in the braces of a markup attribute. -/
inductive Format where
  | object
  | jsx
deriving DecidableEq, Repr

namespace Style

/-- Replaces the value where the property stands, or appends the property. -/
def write (property : Property) (value : Value) : List (Property × Value) → List (Property × Value)
  | [] => [(property, value)]
  | (written, previous) :: entries =>
    if written = property then (property, value) :: entries
    else (written, previous) :: write property value entries

def set (style : Style) (property : Property) (value : Value) : Style := ⟨write property value style.entries⟩

/-- Sets the fields one after the other and leaves all other properties as they are. -/
def merge (style : Style) (fields : List (Property × Value)) : Style :=
  fields.foldl (fun style (property, value) => style.set property value) style

def get? (style : Style) (property : Property) : Option Value := style.entries.lookup property

def contains (style : Style) (property : Property) : Bool := (style.get? property).isSome

def size (style : Style) : Nat := style.entries.length

def isEmpty (style : Style) : Bool := style.entries.isEmpty

def keys (style : Style) : List Property := style.entries.map (·.1)

def sameEntries : List (Property × Value) → List (Property × Value) → Bool
  | [], [] => true
  | (property, left) :: lefts, (other, right) :: rights =>
    property == other && left.same right && sameEntries lefts rights
  | _, _ => false

/-- Equality of the entries in their order. -/
def same (left right : Style) : Bool := sameEntries left.entries right.entries

def text (style : Style) : Text :=
  objectText (style.entries.map fun (property, value) => (property.name, value.text))

def literal (style : Style) : Format → Text
  | .object => style.text
  | .jsx => ['\x7b'] ++ style.text ++ ['\x7d']

end Style
end InlineStyle
