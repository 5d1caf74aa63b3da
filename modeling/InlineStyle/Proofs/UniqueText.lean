import InlineStyle.Proofs.FloatText
import InlineStyle.Proofs.ObjectText
import InlineStyle.Proofs.Schema
import InlineStyle.Proofs.StrictStyling
import InlineStyle.Proofs.Words

/-! Nothing is lost in the text of a value. Strings are written as they are, so the text tells them only if no quote
stands in them. Then a value can be read off in front of whatever follows it, to any depth. -/

namespace InlineStyle

namespace Value

/-- No string holds a quote, all keys are letters, and all floats are numbers. -/
inductive Plain : Value → Prop where
  | int (value : Int) : Plain (.int value)
  | float {value : Binary64} (number : value.isNaN = false) : Plain (.float value)
  | str {value : Text} (unquoted : '\'' ∉ value) : Plain (.str value)
  | map {fields : List (Text × Value)} (keys : ∀ field ∈ fields, Letters field.1)
      (values : ∀ field ∈ fields, Plain field.2) : Plain (.map fields)

/-- What can follow a value: nothing, the next field or the end of the object. -/
def Ends (rest : Text) : Prop := ∀ c ∈ rest.head?, c = ',' ∨ c = ' '

/-- The value can be told from every other one, and from what follows. -/
def Decodes (value : Value) : Prop :=
  ∀ (other : Value), other.Plain → ∀ (rest remaining : Text), Ends rest → Ends remaining →
    value.text ++ rest = other.text ++ remaining → value = other ∧ rest = remaining

theorem texts_eq (fields : List (Text × Value)) : texts fields = fields.map fun field => (field.1, field.2.text) := by
  induction fields with
  | nil => rfl
  | cons field fields ih =>
    obtain ⟨key, value⟩ := field
    rw [texts, ih, List.map_cons]

private def isSolid (c : Char) : Bool := c.isAlphanum || c == '.' || c == '-'

private theorem unsolid_of_ends {rest : Text} (ends : Ends rest) : ∀ c ∈ rest.head?, isSolid c = false := by
  intro c head
  rcases ends c head with rfl | rfl <;> rfl

private theorem solid_integerText {value : Int} : ∀ c ∈ integerText value, isSolid c = true := by
  intro c member
  rcases mem_integerText member with rfl | digit
  · rfl
  · simp [isSolid, Char.isAlphanum, digit]

private theorem solid_float {value : Binary64} (number : value.isNaN = false) : ∀ c ∈ value.text, isSolid c = true := by
  intro c member
  rcases Binary64.mem_text number member with letter | rfl | rfl
  · simp [isSolid, letter]
  · rfl
  · rfl

private theorem numbers_inj {text other rest remaining : Text} (solid : ∀ c ∈ text, isSolid c = true)
    (otherSolid : ∀ c ∈ other, isSolid c = true) (ends : Ends rest) (otherEnds : Ends remaining)
    (same : text ++ rest = other ++ remaining) : text = other ∧ rest = remaining :=
  Text.append_inj_of_solid same solid otherSolid (unsolid_of_ends ends) (unsolid_of_ends otherEnds)

def mark? : Value → Option Char
  | .int _ | .float _ => none
  | .str _ => some '\''
  | .map _ => some '\x7b'

private theorem unmarked_of_solid {text rest : Text} (nonempty : text ≠ []) (solid : ∀ c ∈ text, isSolid c = true) :
    (text ++ rest).head?.filter ['\'', '\x7b'].contains = none := by
  obtain ⟨c, text, rfl⟩ := List.exists_cons_of_ne_nil nonempty
  have unmarked : c ∉ ['\'', '\x7b'] := Text.notMem_of_passes (solid c (by simp)) (by decide)
  simpa using unmarked

theorem Plain.mark?_eq {value : Value} (plain : value.Plain) (rest : Text) :
    (value.text ++ rest).head?.filter ['\'', '\x7b'].contains = value.mark? := by
  cases plain with
  | int value =>
    have nonempty : integerText value ≠ [] := by
      rw [integerText, signed]
      split
      · simp
      · exact numeral_ne_nil _
    exact unmarked_of_solid nonempty solid_integerText
  | float number => exact unmarked_of_solid (Binary64.text_ne_nil number) (solid_float number)
  | str unquoted => rfl
  | map keys values => rfl

private theorem Plain.same_mark {value other : Value} {rest remaining : Text} (plain : value.Plain) (otherPlain : other.Plain)
    (same : value.text ++ rest = other.text ++ remaining) : value.mark? = other.mark? := by
  rw [← plain.mark?_eq rest, same, otherPlain.mark?_eq]

/-- A key ends at its colon, and the value behind it where it tells itself. -/
private theorem Decodes.field {key name : Text} {value other : Value} (decodes : value.Decodes) (plain : other.Plain)
    (letters : Letters key) (otherLetters : Letters name) {rest remaining : Text} (ends : Ends rest)
    (otherEnds : Ends remaining)
    (same : fieldText (key, value.text) ++ rest = fieldText (name, other.text) ++ remaining) :
    (key, value) = (name, other) ∧ rest = remaining := by
  simp only [fieldText, List.append_assoc] at same
  have colon (text : Text) : ∀ c ∈ (": ".toList ++ text).head?, c.isAlpha = false := by
    rintro c ⟨⟩
    rfl
  obtain ⟨rfl, behind⟩ := Text.append_inj_of_solid same letters.2 otherLetters.2 (colon _) (colon _)
  obtain ⟨rfl, sameRest⟩ := decodes other plain rest remaining ends otherEnds (List.append_cancel_left behind)
  exact ⟨rfl, sameRest⟩

private theorem ends_moreFields (fields : List (Text × Text)) (rest : Text) :
    Ends (moreFields fields ++ (" \x7d".toList ++ rest)) := by
  cases fields with
  | nil => simp [Ends, moreFields]
  | cons field fields => simp [Ends, moreFields]

private theorem moreFields_inj {fields others : List (Text × Value)} {rest remaining : Text}
    (keys : ∀ field ∈ fields, Letters field.1) (decodes : ∀ field ∈ fields, field.2.Decodes)
    (otherKeys : ∀ field ∈ others, Letters field.1) (plain : ∀ field ∈ others, field.2.Plain)
    (same : moreFields (texts fields) ++ (" \x7d".toList ++ rest) =
      moreFields (texts others) ++ (" \x7d".toList ++ remaining)) :
    fields = others ∧ rest = remaining := by
  induction fields generalizing others with
  | nil =>
    cases others with
    | nil => exact ⟨rfl, List.append_cancel_left same⟩
    | cons other others => simp [texts, moreFields] at same
  | cons field fields ih =>
    cases others with
    | nil => simp [texts, moreFields] at same
    | cons other others =>
      rw [List.forall_mem_cons] at keys decodes otherKeys plain
      rw [texts, texts, moreFields_cons, moreFields_cons] at same
      simp only [List.append_assoc] at same
      obtain ⟨sameField, behind⟩ := decodes.1.field plain.1 keys.1 otherKeys.1 (ends_moreFields _ _) (ends_moreFields _ _)
        (List.append_cancel_left same)
      obtain ⟨rfl, sameRest⟩ := ih keys.2 decodes.2 otherKeys.2 plain.2 behind
      exact ⟨congrArg (· :: fields) sameField, sameRest⟩

/-- An object tells its fields if each of its values tells itself, whatever follows the object. -/
private theorem map_inj {fields others : List (Text × Value)} {rest remaining : Text}
    (keys : ∀ field ∈ fields, Letters field.1) (decodes : ∀ field ∈ fields, field.2.Decodes)
    (otherKeys : ∀ field ∈ others, Letters field.1) (plain : ∀ field ∈ others, field.2.Plain)
    (same : (map fields).text ++ rest = (map others).text ++ remaining) : fields = others ∧ rest = remaining := by
  -- Behind the opening of an object stands the blank of an empty one or the first letter of a key.
  have letter {key : Text} (letters : Letters key) (more less : Text) : key ++ more ≠ ' ' :: less := by
    obtain ⟨c, text, rfl⟩ := List.exists_cons_of_ne_nil letters.1
    intro blank
    have alphabetic := letters.2 c (by simp)
    rw [(List.cons.inj blank).1] at alphabetic
    exact Bool.false_ne_true alphabetic
  cases fields with
  | nil =>
    cases others with
    | nil => exact ⟨rfl, List.append_cancel_left same⟩
    | cons other others =>
      rw [text, text, texts, texts, objectText_nil, objectText_cons] at same
      simp only [fieldText, List.append_assoc] at same
      exact absurd (List.append_cancel_left_eq "\x7b ".toList _ _ |>.mp same).symm (letter (otherKeys other (by simp)) _ _)
  | cons field fields =>
    cases others with
    | nil =>
      rw [text, text, texts, texts, objectText_nil, objectText_cons] at same
      simp only [fieldText, List.append_assoc] at same
      exact absurd (List.append_cancel_left_eq "\x7b ".toList _ _ |>.mp same) (letter (keys field (by simp)) _ _)
    | cons other others =>
      rw [text, text, texts, texts] at same
      exact moreFields_inj keys decodes otherKeys plain (moreFields_of_objectText same)

/-- By induction on the value. Values of different kinds differ in their first character, or one of them is a whole
number and the other has a point or is infinite. -/
theorem Plain.decodes {value : Value} (plain : value.Plain) : value.Decodes := by
  induction plain with
  | int value =>
    intro other otherPlain rest remaining ends otherEnds same
    have marks := (Plain.int value).same_mark otherPlain same
    cases otherPlain with
    | int other =>
      obtain ⟨sameText, sameRest⟩ := numbers_inj solid_integerText solid_integerText ends otherEnds same
      exact ⟨congrArg Value.int (integerText_injective sameText), sameRest⟩
    | float number =>
      obtain ⟨sameText, -⟩ := numbers_inj solid_integerText (solid_float number) ends otherEnds same
      exact absurd sameText.symm (Binary64.text_ne_integerText number value)
    | str unquoted | map keys values => cases marks
  | float number =>
    intro other otherPlain rest remaining ends otherEnds same
    have marks := (Plain.float number).same_mark otherPlain same
    cases otherPlain with
    | int other =>
      obtain ⟨sameText, -⟩ := numbers_inj (solid_float number) solid_integerText ends otherEnds same
      exact absurd sameText (Binary64.text_ne_integerText number other)
    | float otherNumber =>
      obtain ⟨sameText, sameRest⟩ := numbers_inj (solid_float number) (solid_float otherNumber) ends otherEnds same
      exact ⟨congrArg Value.float (Binary64.text_injective number otherNumber sameText), sameRest⟩
    | str unquoted | map keys values => cases marks
  | str unquoted =>
    intro other otherPlain rest remaining ends otherEnds same
    have marks := (Plain.str unquoted).same_mark otherPlain same
    cases otherPlain with
    | str otherUnquoted =>
      simp only [text, List.append_assoc] at same
      obtain ⟨rfl, sameRest⟩ := Text.append_cons_inj unquoted otherUnquoted (List.append_cancel_left same)
      exact ⟨rfl, sameRest⟩
    | int other | float number | map keys values => cases marks
  | map keys values ih =>
    intro other otherPlain rest remaining ends otherEnds same
    have marks := (Plain.map keys values).same_mark otherPlain same
    cases otherPlain with
    | map otherKeys otherValues =>
      obtain ⟨rfl, sameRest⟩ := map_inj keys ih otherKeys otherValues same
      exact ⟨rfl, sameRest⟩
    | int other | float number | str unquoted => cases marks

theorem text_inj {left right : Value} (plain : left.Plain) (otherPlain : right.Plain) : left.text = right.text ↔ left = right := by
  refine ⟨fun same => ?_, congrArg text⟩
  have nothing : Ends [] := by simp [Ends]
  refine (plain.decodes right otherPlain [] [] nothing nothing ?_).1
  rw [List.append_nil, List.append_nil, same]

end Value

theorem Property.letters_name (property : Property) : Letters property.name := by
  refine ⟨?_, name_letters⟩
  cases property <;> decide

theorem Property.Fits.plain {property : Property} {value : Value} (fits : property.Fits value) : value.Plain := by
  cases fits with
  | word listed => exact .str (words_unquoted _ listed)
  | measure bounded taken => exact .int _
  | offset => exact .map (by simp [Letters]) (by simp [Value.Plain.int])
  | opacity => exact .float (by decide +kernel)

/-- A property has no more than one float and one object, so equality as values is equality. -/
theorem Property.Fits.same_iff {property : Property} {left right : Value} (fits : property.Fits left)
    (otherFits : property.Fits right) : left.same right = true ↔ left = right := by
  cases fits with
  | word listed =>
    cases otherFits with
    | word otherListed => simp [Value.same]
    | measure | offset | opacity => simp [Value.same]
  | measure bounded taken => cases otherFits <;> simp [Value.same]
  | offset => cases otherFits <;> simp [Value.same, Value.sameFields]
  | opacity =>
    cases otherFits with
    | opacity =>
      have itself : Value.same (.float ⟨0x3fb999999999999a⟩) (.float ⟨0x3fb999999999999a⟩) = true := by decide +kernel
      exact ⟨fun _ => rfl, fun _ => itself⟩
    | word | measure => simp [Value.same]

namespace Style

variable {left right : Style}

/-- No string in the style holds a quote, the keys of all its objects are letters, and all floats are numbers. -/
def Plain (style : Style) : Prop := ∀ entry ∈ style.entries, entry.2.Plain

theorem Fitting.plain (fitting : left.Fitting) : left.Plain := fun entry member => (fitting.fits entry member).plain

theorem sameEntries_iff {lefts rights : List (Property × Value)} (fits : ∀ entry ∈ lefts, entry.1.Fits entry.2)
    (otherFits : ∀ entry ∈ rights, entry.1.Fits entry.2) : sameEntries lefts rights = true ↔ lefts = rights := by
  induction lefts generalizing rights with
  | nil => cases rights <;> simp [sameEntries]
  | cons entry lefts ih =>
    cases rights with
    | nil => simp [sameEntries]
    | cons other rights =>
      obtain ⟨property, value⟩ := entry
      obtain ⟨written, otherValue⟩ := other
      rw [List.forall_mem_cons] at fits otherFits
      simp only [sameEntries, Bool.and_eq_true, beq_iff_eq, ih fits.2 otherFits.2, List.cons.injEq, Prod.mk.injEq]
      refine and_congr_left fun _ => and_congr_right ?_
      rintro rfl
      exact fits.1.same_iff otherFits.1

theorem Fitting.same_iff (fitting : left.Fitting) (otherFitting : right.Fitting) : left.same right = true ↔ left = right := by
  obtain ⟨entries⟩ := left
  obtain ⟨others⟩ := right
  rw [same, sameEntries_iff fitting.fits otherFitting.fits, mk.injEq]

theorem text_eq_map (style : Style) :
    style.text = (Value.map (style.entries.map fun (property, value) => (property.name, value))).text := by
  rw [text, Value.text, Value.texts_eq, List.map_map]
  rfl

theorem text_inj (plain : left.Plain) (otherPlain : right.Plain) : left.text = right.text ↔ left = right := by
  have named {style : Style} (plain : style.Plain) :
      (Value.map (style.entries.map fun (property, value) => (property.name, value))).Plain := by
    refine .map ?_ ?_
    · rintro _ member
      obtain ⟨entry, -, rfl⟩ := List.mem_map.mp member
      exact entry.1.letters_name
    · rintro _ member
      obtain ⟨entry, listed, rfl⟩ := List.mem_map.mp member
      exact plain entry listed
  have name_inj : Function.Injective fun entry : Property × Value => (entry.1.name, entry.2) := by
    rintro ⟨property, value⟩ ⟨other, otherValue⟩ same
    obtain ⟨names, values⟩ := Prod.mk.inj same
    exact Prod.ext (Property.name_injective names) values
  obtain ⟨entries⟩ := left
  obtain ⟨others⟩ := right
  rw [text_eq_map, text_eq_map, Value.text_inj (named plain) (named otherPlain), Value.map.injEq, mk.injEq]
  exact (List.map_injective_iff.mpr name_inj).eq_iff

theorem literal_inj (format : Format) : left.literal format = right.literal format ↔ left.text = right.text := by
  cases format with
  | object => exact Iff.rfl
  | jsx => simp [literal]

/-- The literal of a style loses nothing of it: the order of the properties, the kinds of the values and each bit of a
float can be read off. So two class texts have the same literal only if they make the same style. -/
theorem literal_eq_iff :
    (∀ (left right : Style) (format : Format), left.Plain → right.Plain →
      (left.literal format = right.literal format ↔ left = right)) ∧
    ∀ (options : Options) (first second : Text),
      let style := (Styling.lenient first).result.style
      let other := (Styling.lenient second).result.style
      ((options.lenientLiteral first).result = (options.lenientLiteral second).result ↔ style = other) ∧
        (style = other ↔ style.same other = true) := by
  have told (left right : Style) (format : Format) (plain : left.Plain) (otherPlain : right.Plain) :
      left.literal format = right.literal format ↔ left = right := by
    rw [literal_inj, text_inj plain otherPlain]
  refine ⟨told, fun options first second => ?_⟩
  have fitting := Styling.fitting_lenient first
  have otherFitting := Styling.fitting_lenient second
  rw [Options.lenientLiteral_result, Options.lenientLiteral_result]
  exact ⟨told _ _ options.format fitting.plain otherFitting.plain, (fitting.same_iff otherFitting).symm⟩

/-- A word that looks like another field stays apart from that field, and minus zero from zero. -/
theorem literal_ne_of_lookalike :
    let quoted : Style := ⟨[(.shadowOffset, .map [("a".toList, .str ", b: 1".toList)]), (.flex, .float ⟨0⟩)]⟩
    let split : Style := ⟨[(.shadowOffset, .map [("a".toList, .str []), ("b".toList, .int 1)]), (.flex, .float ⟨0⟩)]⟩
    let negative : Style := ⟨[(.shadowOffset, .map [("a".toList, .str ", b: 1".toList)]), (.flex, .float ⟨0x8000000000000000⟩)]⟩
    quoted.Plain ∧ split.Plain ∧ negative.Plain ∧
      quoted.literal .jsx ≠ split.literal .jsx ∧ quoted.literal .object ≠ negative.literal .object := by
  intro quoted split negative
  have zero (bits : UInt64) (number : Binary64.isNaN ⟨bits⟩ = false) : (Value.float ⟨bits⟩).Plain := .float number
  have empty : (Value.str []).Plain := .str (by decide)
  have field : (Value.str ", b: 1".toList).Plain := .str (by decide)
  have lookalike : (Value.map [("a".toList, .str ", b: 1".toList)]).Plain := .map (by decide) (by simpa using field)
  have fields : (Value.map [("a".toList, .str []), ("b".toList, .int 1)]).Plain :=
    .map (by decide) (by simpa using ⟨empty, Value.Plain.int 1⟩)
  have quotedPlain : quoted.Plain := by
    simpa [quoted, Plain] using ⟨lookalike, zero 0 (by decide +kernel)⟩
  have splitPlain : split.Plain := by
    simpa [split, Plain] using ⟨fields, zero 0 (by decide +kernel)⟩
  have negativePlain : negative.Plain := by
    simpa [negative, Plain] using ⟨lookalike, zero 0x8000000000000000 (by decide +kernel)⟩
  refine ⟨quotedPlain, splitPlain, negativePlain, ?_, ?_⟩
  · rw [Ne, literal_eq_iff.1 quoted split .jsx quotedPlain splitPlain]
    simp [quoted, split]
  · rw [Ne, literal_eq_iff.1 quoted negative .object quotedPlain negativePlain]
    simp [quoted, negative]

end Style

end InlineStyle
