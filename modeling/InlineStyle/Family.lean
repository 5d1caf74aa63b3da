import InlineStyle.Spacing
import InlineStyle.Vocabulary

/-! Families of class words. A family claims words and says what each of them does. The first family of
a rulebook that claims a word decides, also when it then knows nothing to do. -/

namespace InlineStyle

inductive Family where
  | flex
  | alignment
  | margin
  | padding
  | background
  | borderRadius
  | text
  | fontWeight
  | shadow
deriving DecidableEq, Repr

def Family.name : Family → Text
  | .flex => "Flex".toList
  | .alignment => "Alignment".toList
  | .margin => "Margin".toList
  | .padding => "Padding".toList
  | .background => "Background".toList
  | .borderRadius => "BorderRadius".toList
  | .text => "Text".toList
  | .fontWeight => "FontWeight".toList
  | .shadow => "Shadow".toList

/-- The font size in the bracketed part of a word such as `text-[22px]`, given from after its bracket. -/
def fontSize (token literal : Text) : Except InvalidValue Effect :=
  match Text.before? "px]".toList literal with
  | none => .error ⟨token, .sizeShape⟩
  | some digits =>
    if !isNumeral digits then .error ⟨token, .sizeNotANumber digits⟩
    else if digits.isEmpty then .error ⟨token, .sizeMissing⟩
    else
      match ofNumeral? digits with
      | none => .error ⟨token, .sizeTooLarge digits⟩
      | some size => .ok (.set .fontSize (.int size))

/-- A word that mentions a gray is a gray or nothing, whatever else it resembles. -/
def textEffect (token : Text) : Except InvalidValue Effect :=
  if Text.holds "gray-".toList token then .ok (Vocabulary.effect Vocabulary.grays (Text.afterLast '-' token))
  else if Vocabulary.knows Vocabulary.textColors token then .ok (Vocabulary.effect Vocabulary.textColors token)
  else
    match Text.after? "text-[".toList token with
    | some literal => fontSize token literal
    | none => .ok (Vocabulary.effect Vocabulary.fontSizes token)

/-- The families in the order they are asked, with the spacing tables in the order they are searched. -/
structure Rulebook where
  families : List Family
  margins : List Spacing
  paddings : List Spacing

namespace Rulebook

def standard : Rulebook where
  families := [.flex, .alignment, .margin, .padding, .background, .borderRadius, .text, .fontWeight, .shadow]
  margins := Spacing.margins
  paddings := Spacing.paddings

def claims (book : Rulebook) (token : Text) : Family → Bool
  | .flex => Vocabulary.knows Vocabulary.flex token
  | .alignment => Vocabulary.knows Vocabulary.alignment token
  | .margin => (Spacing.find? book.margins token).isSome
  | .padding => (Spacing.find? book.paddings token).isSome
  | .background => Vocabulary.knows Vocabulary.backgrounds token
  | .borderRadius => (Text.after? "rounded".toList token).isSome
  | .text => (Text.after? "text-".toList token).isSome
  | .fontWeight => Vocabulary.knows Vocabulary.fontWeights token
  | .shadow => Vocabulary.shadows.contains token

def effect (book : Rulebook) (token : Text) : Family → Except InvalidValue Effect
  | .flex => .ok (Vocabulary.effect Vocabulary.flex token)
  | .alignment => .ok (Vocabulary.effect Vocabulary.alignment token)
  | .margin => Spacing.effect book.margins token
  | .padding => Spacing.effect book.paddings token
  | .background => .ok (Vocabulary.effect Vocabulary.backgrounds token)
  | .borderRadius => .ok (Vocabulary.effect Vocabulary.radii token)
  | .text => textEffect token
  | .fontWeight => .ok (Vocabulary.effect Vocabulary.fontWeights token)
  | .shadow => .ok (.merge Vocabulary.shadowFields)

/-- Every family that claims the word, with what it makes of it. -/
def claimants (book : Rulebook) (token : Text) : List (Family × Except InvalidValue Effect) :=
  (book.families.filter (book.claims token)).map fun family => (family, book.effect token family)

def resolve (book : Rulebook) (token : Text) : Option (Family × Except InvalidValue Effect) :=
  (book.families.find? (book.claims token)).map fun family => (family, book.effect token family)

end Rulebook

/-- The family that claims a word and what it makes of it, or nothing when no family claims it. -/
def resolve (token : Text) : Option (Family × Except InvalidValue Effect) := Rulebook.standard.resolve token

end InlineStyle
