import InlineStyle.Family
import InlineStyle.Proofs.StyleWrites

/-! The grammar of class words. Each family has its own words, no word belongs to two families, and the
rulebook gives a word to the family that it belongs to. -/

namespace InlineStyle.Grammar

def fixed : Family → List String
  | .flex => ["flex-1", "flex-row", "flex-col"]
  | .alignment =>
    ["items-center", "items-start", "items-end", "justify-center", "justify-between", "justify-end"]
  | .background => ["bg-white", "bg-gray-50", "bg-gray-100", "bg-terracotta"]
  | .fontWeight => ["font-bold", "font-medium"]
  | .shadow => ["shadow", "shadow-sm"]
  | .margin | .padding | .borderRadius | .text => []

/-- What stands before a number of spacing units. -/
def leads : Family → List String
  | .margin => ["mb-", "mt-", "mr-", "ml-"]
  | .padding => ["p-", "px-", "py-"]
  | _ => []

/-- What can stand before half a unit: not the lead of a horizontal margin. -/
def halfLeads : Family → List String
  | .margin => ["mb-", "mt-"]
  | .padding => ["p-", "px-", "py-"]
  | _ => []

/-- What makes every word that starts with it one of the family. -/
def openings : Family → List String
  | .borderRadius => ["rounded"]
  | .text => ["text-"]
  | _ => []

def Digits (digits : Text) : Prop := digits ≠ [] ∧ isNumeral digits = true

inductive Member (family : Family) : Text → Prop where
  | fixed {word : String} (listed : word ∈ fixed family) : Member family word.toList
  | units {lead : String} {digits : Text} (listed : lead ∈ leads family) (number : Digits digits) :
      Member family (lead.toList ++ digits)
  | half {lead : String} (listed : lead ∈ halfLeads family) : Member family (lead.toList ++ "0.5".toList)
  | opened {opening : String} (listed : opening ∈ openings family) (rest : Text) :
      Member family (opening.toList ++ rest)

def tables : Family → List Vocabulary.Table
  | .flex => [Vocabulary.flex]
  | .alignment => [Vocabulary.alignment]
  | .background => [Vocabulary.backgrounds]
  | .borderRadius => [Vocabulary.radii]
  | .text => [Vocabulary.textColors, Vocabulary.fontSizes]
  | .fontWeight => [Vocabulary.fontWeights]
  | .margin | .padding | .shadow => []

def spacings : Family → List Spacing
  | .margin => Spacing.margins
  | .padding => Spacing.paddings
  | _ => []

/-- What a word that writes properties does to a style. -/
inductive Means : Family → Text → Effect → Prop where
  | listed {family : Family} {table : Vocabulary.Table} {word : Text} {property : Property} {value : Value}
      (known : table ∈ tables family) (entry : (word, property, value) ∈ table) :
      Means family word (.set property value)
  | units {family : Family} {spacing : Spacing} {digits : Text} (known : spacing ∈ spacings family)
      (number : Digits digits) (fits : ofNumeral digits * 4 ≤ largest) :
      Means family (spacing.lead ++ digits) (.set spacing.property (.int (ofNumeral digits * 4)))
  | half {family : Family} {spacing : Spacing} {pixels : Int} (known : spacing ∈ spacings family)
      (half : spacing.half = some pixels) :
      Means family (spacing.lead ++ "0.5".toList) (.set spacing.property (.int pixels))
  | gray {word shade : Text} {property : Property} {value : Value} (opens : "text-".toList <+: word)
      (gray : "gray-".toList <:+: word) (entry : (shade, property, value) ∈ Vocabulary.grays)
      (last : '-' :: shade <:+ word) : Means .text word (.set property value)
  | size {digits : Text} (number : Digits digits) (fits : ofNumeral digits ≤ largest) :
      Means .text ("text-[".toList ++ digits ++ "px]".toList) (.set .fontSize (.int (ofNumeral digits)))
  | shadow {word : Text} (listed : word ∈ Vocabulary.shadows) : Means .shadow word (.merge Vocabulary.shadowFields)

/-- A word of a family that is open to any ending, with an ending that the family does not know. -/
inductive Silent (word : Text) : Prop where
  | radius (opens : "rounded".toList <+: word)
      (unlisted : ∀ radius ∈ ["rounded", "rounded-lg", "rounded-xl", "rounded-2xl", "rounded-full"],
        word ≠ radius.toList)
  | gray (opens : "text-".toList <+: word) (gray : "gray-".toList <:+: word)
      (unlisted : ∀ shade ∈ ["500", "600", "700", "800"], ¬ '-' :: shade.toList <:+ word)
  | text (opens : "text-".toList <+: word) (noGray : ¬ "gray-".toList <:+: word)
      (unbracketed : ¬ "text-[".toList <+: word) (noColor : ∀ color ∈ ["text-white", "text-terracotta"], word ≠ color.toList)
      (noSize : ∀ size ∈ ["text-xs", "text-sm", "text-base", "text-lg", "text-xl"], word ≠ size.toList)

/-- A word with a number that is too large, or with brackets that do not hold a number of pixels. -/
inductive Malformed (word : Text) : Prop where
  | spacing {family : Family} {lead : String} {digits : Text} (listed : lead ∈ leads family) (number : Digits digits)
      (shape : word = lead.toList ++ digits) (large : largest < ofNumeral digits * 4)
  | size (opens : "text-[".toList <+: word) (noGray : ¬ "gray-".toList <:+: word)
      (unreadable : ∀ digits, Digits digits → ofNumeral digits ≤ largest →
        word ≠ "text-[".toList ++ digits ++ "px]".toList)

/-- What is wrong with a malformed word. A size is told of as it stands in its brackets. -/
inductive Flaw (word : Text) : Text → Prop where
  | spacing {family : Family} {lead : String} {digits : Text} (listed : lead ∈ leads family) (number : Digits digits)
      (shape : word = lead.toList ++ digits) (large : largest < ofNumeral digits * 4) :
      Flaw word "spacing value out of range".toList
  | unclosed (opens : "text-[".toList <+: word) (noGray : ¬ "gray-".toList <:+: word)
      (openEnded : ∀ size, word ≠ "text-[".toList ++ size ++ "px]".toList) : Flaw word "expected `text-[<N>px]`".toList
  | foreign {size : Text} (shape : word = "text-[".toList ++ size ++ "px]".toList) (noGray : ¬ "gray-".toList <:+: word)
      (letters : ∃ c ∈ size, c.isDigit = false) : Flaw word ("font size '".toList ++ size ++ "' is not a number".toList)
  | missing (shape : word = "text-[px]".toList) :
      Flaw word "font size '': cannot parse integer from empty string".toList
  | large {digits : Text} (number : Digits digits) (shape : word = "text-[".toList ++ digits ++ "px]".toList)
      (large : largest < ofNumeral digits) :
      Flaw word ("font size '".toList ++ digits ++ "': number too large to fit in target type".toList)

def stems : Family → List String
  | .flex => ["flex-"]
  | .alignment => ["items-", "justify-"]
  | .margin => ["mb-", "mt-", "mr-", "ml-"]
  | .padding => ["p-", "px-", "py-"]
  | .background => ["bg-"]
  | .borderRadius => ["rounded"]
  | .text => ["text-"]
  | .fontWeight => ["font-"]
  | .shadow => ["shadow"]

variable {family other : Family} {token : Text}

theorem member_rounded (opens : "rounded".toList <+: token) : Member .borderRadius token := by
  obtain ⟨rest, rfl⟩ := opens
  exact .opened (show "rounded" ∈ openings .borderRadius by decide) rest

theorem member_text (opens : "text-".toList <+: token) : Member .text token := by
  obtain ⟨rest, rfl⟩ := opens
  exact .opened (show "text-" ∈ openings .text by decide) rest

/-- A malformed word has a flaw. Of a size it depends on what stands in the brackets. -/
theorem Malformed.flaw (malformed : Malformed token) : ∃ reason, Flaw token reason := by
  cases malformed with
  | spacing listed number shape large => exact ⟨_, .spacing listed number shape large⟩
  | size opens noGray unreadable =>
    by_cases closed : ∃ size, token = "text-[".toList ++ size ++ "px]".toList
    · obtain ⟨size, shape⟩ := closed
      by_cases letters : ∃ c ∈ size, c.isDigit = false
      · exact ⟨_, .foreign shape noGray letters⟩
      · cases size with
        | nil => exact ⟨_, .missing shape⟩
        | cons c digits =>
          have number : Digits (c :: digits) := ⟨by simp, by simpa [isNumeral] using letters⟩
          have large : largest < ofNumeral (c :: digits) := Nat.lt_of_not_le fun fits => unreadable _ number fits shape
          exact ⟨_, .large number shape large⟩
    · exact ⟨_, .unclosed opens noGray fun size shape => closed ⟨size, shape⟩⟩

private theorem fixed_stem : ∀ word ∈ fixed family, ∃ stem ∈ stems family, stem.toList <+: word.toList := by
  cases family <;> decide

private theorem lead_stem : ∀ lead ∈ leads family, lead ∈ stems family := by
  cases family <;> decide

private theorem halfLead_lead : ∀ lead ∈ halfLeads family, lead ∈ leads family := by
  cases family <;> decide

private theorem opening_stem : ∀ opening ∈ openings family, opening ∈ stems family := by
  cases family <;> decide

theorem Member.stem (member : Member family token) : ∃ stem ∈ stems family, stem.toList <+: token := by
  cases member with
  | fixed listed => exact fixed_stem _ listed
  | units listed _ => exact ⟨_, lead_stem _ listed, List.prefix_append _ _⟩
  | half listed => exact ⟨_, lead_stem _ (halfLead_lead _ listed), List.prefix_append _ _⟩
  | opened listed _ => exact ⟨_, opening_stem _ listed, List.prefix_append _ _⟩

private theorem stems_apart (different : family ≠ other) :
    ∀ first ∈ stems family, ∀ second ∈ stems other, ¬ first.toList <+: second.toList := by
  cases family <;> cases other <;> first | exact absurd rfl different | decide

theorem Member.unique (first : Member family token) (second : Member other token) : family = other := by
  obtain ⟨left, leftStem, leftStarts⟩ := first.stem
  obtain ⟨right, rightStem, rightStarts⟩ := second.stem
  by_cases same : family = other
  · exact same
  · rcases List.prefix_or_prefix_of_prefix leftStarts rightStarts with inside | inside
    · exact absurd inside (stems_apart same left leftStem right rightStem)
    · exact absurd inside (stems_apart (Ne.symm same) right rightStem left leftStem)

end InlineStyle.Grammar
