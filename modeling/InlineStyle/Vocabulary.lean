import InlineStyle.Effect

/-! The fixed words and the property values they stand for. -/

namespace InlineStyle.Vocabulary

abbrev Table := List (Text × Property × Value)

def terracotta : Text := "#e07a5f".toList

def word (token : String) (property : Property) (value : String) : Text × Property × Value :=
  (token.toList, property, .str value.toList)

def measure (token : String) (property : Property) (value : Int) : Text × Property × Value :=
  (token.toList, property, .int value)

def flex : Table := [
  measure "flex-1" .flex 1,
  word "flex-row" .flexDirection "row",
  word "flex-col" .flexDirection "column"]

def alignment : Table := [
  word "items-center" .alignItems "center",
  word "items-start" .alignItems "flex-start",
  word "items-end" .alignItems "flex-end",
  word "justify-center" .justifyContent "center",
  word "justify-between" .justifyContent "space-between",
  word "justify-end" .justifyContent "flex-end"]

def backgrounds : Table := [
  word "bg-white" .backgroundColor "white",
  word "bg-gray-50" .backgroundColor "#f9fafb",
  word "bg-gray-100" .backgroundColor "#f3f4f6",
  ("bg-terracotta".toList, .backgroundColor, .str terracotta)]

def radii : Table := [
  measure "rounded" .borderRadius 4,
  measure "rounded-lg" .borderRadius 8,
  measure "rounded-xl" .borderRadius 12,
  measure "rounded-2xl" .borderRadius 16,
  measure "rounded-full" .borderRadius 9999]

/-- Gray text colours by their shade alone. -/
def grays : Table := [
  word "500" .color "#6b7280",
  word "600" .color "#4b5563",
  word "700" .color "#374151",
  word "800" .color "#1f2937"]

def textColors : Table := [
  word "text-white" .color "white",
  ("text-terracotta".toList, .color, .str terracotta)]

def fontSizes : Table := [
  measure "text-xs" .fontSize 12,
  measure "text-sm" .fontSize 14,
  measure "text-base" .fontSize 16,
  measure "text-lg" .fontSize 18,
  measure "text-xl" .fontSize 20]

def fontWeights : Table := [
  word "font-bold" .fontWeight "bold",
  word "font-medium" .fontWeight "500"]

def shadows : List Text := ["shadow".toList, "shadow-sm".toList]

/-- What every shadow word merges into a style. -/
def shadowFields : List (Property × Value) := [
  (.shadowColor, .str "#000".toList),
  (.shadowOffset, .map [("width".toList, .int 0), ("height".toList, .int 1)]),
  (.shadowOpacity, .float ⟨0x3fb999999999999a⟩),
  (.shadowRadius, .int 2)]

def knows (table : Table) (token : Text) : Bool := (table.lookup token).isSome

def effect (table : Table) (token : Text) : Effect :=
  match table.lookup token with
  | some (property, value) => .set property value
  | none => .nothing

end InlineStyle.Vocabulary
