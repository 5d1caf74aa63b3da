import InlineStyle.Text

/-! The style properties that class words can write. The list is closed, so no word brings in a key of its own. -/

namespace InlineStyle

inductive Property where
  | flex
  | flexDirection
  | alignItems
  | justifyContent
  | marginBottom
  | marginTop
  | marginRight
  | marginLeft
  | padding
  | paddingHorizontal
  | paddingVertical
  | borderRadius
  | backgroundColor
  | color
  | fontSize
  | fontWeight
  | shadowColor
  | shadowOffset
  | shadowOpacity
  | shadowRadius
deriving DecidableEq, Repr

namespace Property

/-- Every property once, in the order of their declaration. -/
def all : List Property := [
  .flex, .flexDirection, .alignItems, .justifyContent, .marginBottom, .marginTop, .marginRight,
  .marginLeft, .padding, .paddingHorizontal, .paddingVertical, .borderRadius, .backgroundColor,
  .color, .fontSize, .fontWeight, .shadowColor, .shadowOffset, .shadowOpacity, .shadowRadius]

/-- The key of the property in an object literal. -/
def name : Property → Text
  | .flex => "flex".toList
  | .flexDirection => "flexDirection".toList
  | .alignItems => "alignItems".toList
  | .justifyContent => "justifyContent".toList
  | .marginBottom => "marginBottom".toList
  | .marginTop => "marginTop".toList
  | .marginRight => "marginRight".toList
  | .marginLeft => "marginLeft".toList
  | .padding => "padding".toList
  | .paddingHorizontal => "paddingHorizontal".toList
  | .paddingVertical => "paddingVertical".toList
  | .borderRadius => "borderRadius".toList
  | .backgroundColor => "backgroundColor".toList
  | .color => "color".toList
  | .fontSize => "fontSize".toList
  | .fontWeight => "fontWeight".toList
  | .shadowColor => "shadowColor".toList
  | .shadowOffset => "shadowOffset".toList
  | .shadowOpacity => "shadowOpacity".toList
  | .shadowRadius => "shadowRadius".toList

def ofName? (name : Text) : Option Property := all.find? fun property => property.name == name

def isShadow : Property → Bool
  | .shadowColor | .shadowOffset | .shadowOpacity | .shadowRadius => true
  | _ => false

end Property
end InlineStyle
