import InlineStyle.Styling

/-! Class attributes in markup. A markup is cut at its attributes `className="…"` or `className='…'`,
from the left and without overlap; an attribute whose words write a property is replaced by the style
that they make, and everything else stays as it is. -/

namespace InlineStyle

inductive Quote where
  | double
  | single
deriving DecidableEq, Repr

def Quote.mark : Quote → Char
  | .double => '"'
  | .single => '\''

/-- A class attribute. The first mark behind the opening one closes it, so its value holds none. -/
structure Attribute where
  quote : Quote
  value : Text
  closed : quote.mark ∉ value
deriving DecidableEq, Repr

namespace Attribute

def lead : Text := "className=".toList

def text (attr : Attribute) : Text :=
  lead ++ [attr.quote.mark] ++ attr.value ++ [attr.quote.mark]

/-- The text up to the first `mark` and what follows that mark. -/
def upTo (mark : Char) : Text → Option ({ value : Text // mark ∉ value } × Text)
  | [] => none
  | c :: text =>
    if same : mark = c then some (⟨[], List.not_mem_nil⟩, text)
    else (upTo mark text).map fun (value, rest) => (⟨c :: value, by simp [same, value.property]⟩, rest)

/-- The attribute with that quote whose value starts a text, and what follows the attribute. -/
def quoted? (quote : Quote) (text : Text) : Option (Attribute × Text) :=
  (upTo quote.mark text).map fun (value, rest) => (⟨quote, value, value.property⟩, rest)

/-- The attribute at the start of a text and what follows it. -/
def atStart? (text : Text) : Option (Attribute × Text) :=
  match Text.after? lead text with
  | some ('"' :: quoted) => quoted? .double quoted
  | some ('\'' :: quoted) => quoted? .single quoted
  | _ => none

theorem upTo_eq_some_iff {mark : Char} {text rest : Text} {value : { value : Text // mark ∉ value }} :
    upTo mark text = some (value, rest) ↔ text = value ++ mark :: rest := by
  induction text generalizing value with
  | nil => simp [upTo]
  | cons c text ih =>
    obtain ⟨value, closed⟩ := value
    by_cases same : mark = c
    · cases value with
      | nil => simp [upTo, same, eq_comm]
      | cons d value =>
        have different : c ≠ d := fun equal => closed (by simp [same, equal])
        simp [upTo, same, different]
    · simp only [upTo, dif_neg same, Option.map_eq_some_iff]
      constructor
      · rintro ⟨⟨inner, remaining⟩, inside, shape⟩
        cases shape
        rw [ih.mp inside, List.cons_append]
      · intro shape
        cases value with
        | nil => exact absurd (List.cons.inj shape).1.symm same
        | cons d value =>
          obtain ⟨rfl, behind⟩ := List.cons.inj shape
          exact ⟨(⟨value, fun member => closed (List.mem_cons_of_mem _ member)⟩, rest), ih.mpr behind, rfl⟩

theorem quoted?_eq_some_iff {quote : Quote} {text rest : Text} {attr : Attribute} :
    quoted? quote text = some (attr, rest) ↔ attr.quote = quote ∧ text = attr.value ++ quote.mark :: rest := by
  simp only [quoted?, Option.map_eq_some_iff]
  constructor
  · rintro ⟨⟨value, remaining⟩, inside, shape⟩
    cases shape
    exact ⟨rfl, upTo_eq_some_iff.mp inside⟩
  · rintro ⟨rfl, shape⟩
    exact ⟨(⟨attr.value, attr.closed⟩, rest), upTo_eq_some_iff.mpr shape, rfl⟩

theorem atStart?_eq_some_iff {text rest : Text} {attr : Attribute} :
    atStart? text = some (attr, rest) ↔ text = attr.text ++ rest := by
  constructor
  · intro found
    simp only [atStart?] at found
    split at found
    · next quoted opened =>
      obtain ⟨quote, shape⟩ := quoted?_eq_some_iff.mp found
      rw [Text.after?_eq_some_iff.mp opened, shape]
      simp [Attribute.text, quote, Quote.mark]
    · next quoted opened =>
      obtain ⟨quote, shape⟩ := quoted?_eq_some_iff.mp found
      rw [Text.after?_eq_some_iff.mp opened, shape]
      simp [Attribute.text, quote, Quote.mark]
    · cases found
  · rintro rfl
    have opened : Text.after? lead (attr.text ++ rest) =
        some (attr.quote.mark :: (attr.value ++ attr.quote.mark :: rest)) :=
      Text.after?_eq_some_iff.mpr (by simp [Attribute.text])
    have quoted : quoted? attr.quote (attr.value ++ attr.quote.mark :: rest) = some (attr, rest) :=
      quoted?_eq_some_iff.mpr ⟨rfl, rfl⟩
    cases quote : attr.quote with
    | double =>
      rw [quote] at opened quoted
      simp only [atStart?, opened, Quote.mark]
      exact quoted
    | single =>
      rw [quote] at opened quoted
      simp only [atStart?, opened, Quote.mark]
      exact quoted

theorem length_of_atStart? {text rest : Text} {attr : Attribute}
    (found : atStart? text = some (attr, rest)) : rest.length < text.length := by
  rw [atStart?_eq_some_iff.mp found]
  simp only [Attribute.text, List.length_append, List.length_cons, List.length_nil]
  omega

end Attribute

/-- The attributes of a markup, each with the text that stands before it, and the text after the last. -/
structure Markup where
  parts : List (Text × Attribute)
  tail : Text
deriving DecidableEq, Repr

namespace Markup

def prepend (c : Char) (markup : Markup) : Markup :=
  match markup.parts with
  | [] => { markup with tail := c :: markup.tail }
  | (gap, attr) :: parts => { markup with parts := (c :: gap, attr) :: parts }

/-- Takes the attribute that starts soonest, then goes on behind it. -/
def ofText (text : Text) : Markup :=
  match found : Attribute.atStart? text with
  | some (attr, rest) =>
    have := Attribute.length_of_atStart? found
    let markup := ofText rest
    { markup with parts := ([], attr) :: markup.parts }
  | none =>
    match text with
    | [] => ⟨[], []⟩
    | c :: text => (ofText text).prepend c
termination_by text.length

/-- The markup with some attributes replaced. Those for which there is `none` stay. -/
def fill (markup : Markup) (replacements : List (Option Text)) : Text :=
  (markup.parts.zip replacements).flatMap (fun ((gap, attr), replacement) =>
    gap ++ replacement.getD attr.text) ++ markup.tail

end Markup

/-- The style attribute that takes the place of a class attribute, or `none` if none of its words writes
a property. -/
def Attribute.replacement (options : Options) (attr : Attribute) : Logged Event InvalidValue (Option Text) := do
  let style ← options.style attr.value
  if style.isEmpty then
    .log (.attributeKept attr.value)
    return none
  else return some ("style=".toList ++ style.literal .jsx)

/-- The text with its class attributes replaced, and how many were. The format of the options plays no part. -/
def Options.restyle (options : Options) (source : Text) : Logged Event InvalidValue (Text × Tally) := do
  let markup := Markup.ofText source
  let replacements ← markup.parts.mapM fun (_, attr) => attr.replacement options
  let tally : Tally := ⟨replacements.countP (·.isSome), replacements.countP (·.isNone)⟩
  .log (.attributesDone tally)
  return (markup.fill replacements, tally)

end InlineStyle
