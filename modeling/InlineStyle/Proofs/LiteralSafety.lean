import InlineStyle.Proofs.FloatText
import InlineStyle.Proofs.ObjectText
import InlineStyle.Proofs.Schema
import InlineStyle.Proofs.StrictStyling

/-! A literal holds nothing that its class text could have brought in. Each of its keys is the name of a property,
each of its values is one of those that the schema of the property allows, and a number is written anew. -/

namespace InlineStyle

/-- Decimal digits without a sign and without a zero in front of others. -/
structure Canonical (digits : Text) : Prop where
  nonempty : digits ≠ []
  decimal : isNumeral digits = true
  leading : digits.head? = some '0' → digits = ['0']

theorem canonical_numeral (value : Nat) : Canonical (numeral value) where
  nonempty := numeral_ne_nil value
  decimal := List.all_eq_true.mpr fun _ member => isDigit_of_mem_numeral member
  leading := by
    intro leading
    rw [eq_zero_of_head?_numeral leading]
    exact numeral_small (by decide)

namespace Property

inductive Permits : Property → Text → Prop where
  | word {property : Property} {word : String} (listed : word ∈ property.words) :
      Permits property ("'".toList ++ word.toList ++ "'".toList)
  | measure {property : Property} {digits : Text} (canonical : Canonical digits) (bounded : ofNumeral digits ≤ largest)
      (taken : property.takes (ofNumeral digits) = true) : Permits property digits
  | offset : Permits .shadowOffset "\x7b width: 0, height: 1 \x7d".toList
  | opacity : Permits .shadowOpacity "0.1".toList

variable {property : Property} {value : Value} {text : Text}

/-- One digit is enough for the opacity of a shadow. Its expansion has far too many to be written out here. -/
theorem text_opacity : (Value.float ⟨0x3fb999999999999a⟩).text = "0.1".toList := by
  have digits : Binary64.shortestDigits (Binary64.magnitude ⟨0x3fb999999999999a⟩) = (1, 1073) :=
    Binary64.shortestDigits_of_one (by decide +kernel) (by decide +kernel) (by decide +kernel)
  have shortest : Binary64.shortest ⟨0x3fb999999999999a⟩ = ⟨false, 1, -1⟩ := by
    rw [Binary64.shortest, digits]
    decide +kernel
  have finite : Binary64.isFinite ⟨0x3fb999999999999a⟩ = true := by decide +kernel
  have broken : ¬ Binary64.isWhole ⟨0x3fb999999999999a⟩ = true := by decide +kernel
  rw [Value.text, Binary64.text_of_finite finite, Binary64.finiteText, if_neg broken, shortest]
  decide +kernel

theorem Fits.permits (fits : property.Fits value) : property.Permits value.text := by
  cases fits with
  | word listed => exact .word listed
  | @measure _ number bounded taken =>
    have value : ofNumeral (numeral number) = number := ofNumeral_numeral number
    rw [Value.text, integerText_natural]
    exact .measure (canonical_numeral number) (value.symm ▸ bounded) (value.symm ▸ taken)
  | offset =>
    have written : (Value.map [("width".toList, .int 0), ("height".toList, .int 1)]).text =
        "\x7b width: 0, height: 1 \x7d".toList := by decide +kernel
    exact written ▸ .offset
  | opacity => exact text_opacity ▸ .opacity

def marks : Text := " \x7b\x7d',:#-.".toList

private theorem words_marked : ∀ word ∈ property.words, ∀ c ∈ word.toList, c.isAlphanum = true ∨ c ∈ marks := by
  have checked : ∀ word ∈ property.words, word.toList.all (fun c => c.isAlphanum || marks.contains c) = true := by
    cases property <;> decide
  intro word listed c member
  simpa using List.all_eq_true.mp (checked word listed) c member

theorem Permits.balanced (permits : property.Permits text) : Balanced text := by
  cases permits with
  | word listed => exact .inQuotes (words_unquoted _ listed)
  | measure canonical _ _ =>
    apply Balanced.of_unmarked
    intro c member
    have digit : c.isDigit = true := List.all_eq_true.mp canonical.decimal c member
    exact Text.notMem_of_passes digit (by decide)
  | offset =>
    have inside : Balanced "width: 0, height: 1".toList := .of_unmarked (Text.forall_of_all (by decide))
    exact inside.inBraces
  | opacity => exact .of_unmarked (Text.forall_of_all (by decide))

theorem Permits.mem {c : Char} (permits : property.Permits text) (member : c ∈ text) :
    c.isAlphanum = true ∨ c ∈ marks := by
  cases permits with
  | word listed =>
    have quote : ∀ c ∈ "'".toList, c ∈ marks := Text.forall_of_all (by decide)
    rcases List.mem_append.mp member with front | close
    · rcases List.mem_append.mp front with opening | inside
      · exact .inr (quote c opening)
      · exact words_marked _ listed c inside
    · exact .inr (quote c close)
  | measure canonical _ _ =>
    have digit : c.isDigit = true := List.all_eq_true.mp canonical.decimal c member
    exact .inl (by simp [Char.isAlphanum, digit])
  | offset =>
    have safe : ∀ c ∈ "\x7b width: 0, height: 1 \x7d".toList, c.isAlphanum = true ∨ c ∈ marks := Text.forall_of_all (by decide)
    exact safe c member
  | opacity =>
    have safe : ∀ c ∈ "0.1".toList, c.isAlphanum = true ∨ c ∈ marks := Text.forall_of_all (by decide)
    exact safe c member

end Property

namespace Style

variable {style : Style}

def permitted (style : Style) : List (Property × Text) := style.entries.map fun (property, value) => (property, value.text)

theorem Fitting.permits (fitting : style.Fitting) : ∀ entry ∈ style.permitted, entry.1.Permits entry.2 := by
  intro entry member
  obtain ⟨written, listed, rfl⟩ := List.mem_map.mp member
  exact (fitting.fits written listed).permits

theorem text_eq_objectText (style : Style) :
    style.text = objectText (style.permitted.map fun (property, value) => (property.name, value)) := by
  rw [text, permitted, List.map_map]
  rfl

theorem Fitting.balanced_text (fitting : style.Fitting) : Balanced style.text := by
  rw [text_eq_objectText]
  apply Balanced.object
  intro field member
  obtain ⟨entry, listed, rfl⟩ := List.mem_map.mp member
  refine .field (.of_unmarked ?_) (fitting.permits entry listed).balanced
  intro c inside
  exact Text.notMem_of_passes (Property.name_letters c inside) (by decide)

theorem Fitting.mem_text (fitting : style.Fitting) {c : Char} (member : c ∈ style.text) :
    c.isAlphanum = true ∨ c ∈ Property.marks := by
  rw [text_eq_objectText] at member
  rcases mem_objectText member with mark | ⟨field, listed, inside⟩
  · have marks : ∀ c ∈ " \x7b\x7d,:".toList, c ∈ Property.marks := Text.forall_of_all (by decide)
    exact .inr (marks c mark)
  · obtain ⟨entry, written, rfl⟩ := List.mem_map.mp listed
    rcases inside with key | value
    · exact .inl (by simp [Char.isAlphanum, Property.name_letters c key])
    · exact (fitting.permits entry written).mem value

theorem permitted_keys (style : Style) : style.permitted.map Prod.fst = style.keys := by
  rw [permitted, Style.keys, List.map_map]
  rfl

theorem Fitting.distinct_names (fitting : style.Fitting) : (style.permitted.map fun entry => entry.1.name).Nodup := by
  have names : style.permitted.map (fun entry => entry.1.name) = style.keys.map Property.name := by
    rw [← permitted_keys, List.map_map]
    rfl
  rw [names]
  exact fitting.distinct.map fun _ _ => Property.name_injective

end Style

/-- The literal of a class text is an object of one allowed value for each property that a word writes, and of nothing
else. It has no character that could end a string, a line or an attribute of the markup around it. -/
theorem Options.lenientLiteral_safe (strict : Bool) (input : Text) :
    let literal := (({ strict, format := .object } : Options).lenientLiteral input).result
    ((literal = "\x7b  \x7d".toList ∧ ∀ token ∈ input.words, writes token = []) ∨
      ∃ entries : List (Property × Text), 1 ≤ entries.length ∧ entries.length ≤ 20 ∧
        (entries.map fun entry => entry.1.name).Nodup ∧
        (∀ property value, (property, value) ∈ entries → property.Permits value) ∧
        (∀ property, property ∈ entries.map Prod.fst ↔
          ∃ token ∈ input.words, property ∈ (writes token).map Prod.fst) ∧
        literal = "\x7b ".toList ++
          ", ".toList.intercalate (entries.map fun (property, value) => property.name ++ ": ".toList ++ value) ++
          " \x7d".toList) ∧
    (∀ c ∈ literal, c.isAlphanum = true ∨ c ∈ " \x7b\x7d',:#-.".toList) ∧
    '"' ∉ literal ∧ '\n' ∉ literal ∧ '\r' ∉ literal ∧ Balanced literal := by
  intro literal
  have fitting := Styling.fitting_lenient input
  have keys : ∀ property, property ∈ (Styling.lenient input).result.style.permitted.map Prod.fst ↔
      ∃ token ∈ input.words, property ∈ (writes token).map Prod.fst := by
    intro property
    rw [Style.permitted_keys, (Styling.lenient_answers input).first, List.mem_eraseDups, List.mem_flatMap]
  have written : literal = (Styling.lenient input).result.style.text := lenientLiteral_result _ input
  generalize (Styling.lenient input).result.style = style at fitting keys written
  have safe : ∀ c ∈ literal, c.isAlphanum = true ∨ c ∈ Property.marks := by
    intro c member
    exact fitting.mem_text (written ▸ member)
  have absent (c : Char) (other : ¬ (c.isAlphanum = true ∨ c ∈ Property.marks)) : c ∉ literal :=
    fun member => other (safe c member)
  refine ⟨?_, safe, absent _ (by decide), absent _ (by decide), absent _ (by decide), written ▸ fitting.balanced_text⟩
  have length : style.permitted.length = style.entries.length := List.length_map _
  cases entries : style.permitted with
  | nil =>
    left
    constructor
    · rw [written, Style.text_eq_objectText, entries]
      rfl
    · intro token member
      rw [entries] at keys
      rw [← List.map_eq_nil_iff, List.eq_nil_iff_forall_not_mem]
      intro property inside
      cases (keys property).mpr ⟨token, member, inside⟩
  | cons entry others =>
    right
    refine ⟨style.permitted, ?_, ?_, fitting.distinct_names, fun _ _ => fitting.permits _, keys, ?_⟩
    · rw [entries]
      exact Nat.succ_pos _
    · rw [length]
      exact fitting.distinct.length_le
    · rw [written, Style.text_eq_objectText, objectText, List.map_map]
      rfl

end InlineStyle
