import InlineStyle.Style

/-! What a class word does to a style, and how a word that some family claims can be at fault. -/

namespace InlineStyle

inductive Effect where
  /-- The family knows no such word. -/
  | nothing
  | set (property : Property) (value : Value)
  | merge (fields : List (Property × Value))
deriving Repr

namespace Effect

def apply (style : Style) : Effect → Style
  | .nothing => style
  | .set property value => style.set property value
  | .merge fields => style.merge fields

end Effect

/-- Why the value in a word cannot be used. -/
inductive Cause where
  | spacingOutOfRange
  | sizeShape
  | sizeNotANumber (written : Text)
  | sizeMissing
  | sizeTooLarge (written : Text)
  /-- A cause in the words of the caller. -/
  | stated (reason : Text)
deriving DecidableEq, Repr

structure InvalidValue where
  token : Text
  cause : Cause
deriving DecidableEq, Repr

namespace Cause

def message : Cause → Text
  | .spacingOutOfRange => "spacing value out of range".toList
  | .sizeShape => "expected `text-[<N>px]`".toList
  | .sizeNotANumber written => "font size '".toList ++ written ++ "' is not a number".toList
  | .sizeMissing => "font size '': cannot parse integer from empty string".toList
  | .sizeTooLarge written => "font size '".toList ++ written ++ "': number too large to fit in target type".toList
  | .stated reason => reason

end Cause

def InvalidValue.message (fault : InvalidValue) : Text :=
  "Invalid value in token '".toList ++ fault.token ++ "': ".toList ++ fault.cause.message

end InlineStyle
