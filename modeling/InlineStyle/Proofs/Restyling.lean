import InlineStyle.Proofs.LenientStyling
import InlineStyle.Proofs.MarkupCut
import InlineStyle.Proofs.StrictStyling

/-! Restyling a text turns each of its class attributes on its own. An attribute with a word that is applied
becomes a style, and every other attribute stays, as does the text between them. -/

namespace InlineStyle

variable {options : Options} {source : Text} {attr : Attribute} {style : Style}

namespace Attribute

def Writes (attr : Attribute) : Prop :=
  ∃ token ∈ attr.value.words, fate token = .applied

instance : DecidablePred Writes :=
  fun attr => inferInstanceAs (Decidable (∃ token ∈ attr.value.words, fate token = .applied))

def turned (attr : Attribute) (style : Style) : Text :=
  if attr.Writes then "style=".toList ++ style.literal .jsx else attr.text

def styled? (attr : Attribute) (style : Style) : Option Text :=
  if attr.Writes then some ("style=".toList ++ style.literal .jsx) else none

theorem getD_styled? (attr : Attribute) (style : Style) : (attr.styled? style).getD attr.text = attr.turned style := by
  rw [styled?, turned]
  split <;> rfl

theorem isSome_styled? (attr : Attribute) (style : Style) : (attr.styled? style).isSome = decide attr.Writes := by
  by_cases writes : attr.Writes
  · rw [styled?, if_pos writes, decide_eq_true writes, Option.isSome]
  · rw [styled?, if_neg writes, decide_eq_false writes, Option.isSome]

theorem isNone_styled? (attr : Attribute) (style : Style) : (attr.styled? style).isNone = decide (¬ attr.Writes) := by
  rw [← Option.not_isSome, isSome_styled?, decide_not]

theorem isEmpty_iff_not_writes (made : (options.style attr.value).outcome = .ok style) :
    style.isEmpty = true ↔ ¬ attr.Writes := by
  rw [← Options.style_of_ok made, Styling.isEmpty_lenient_iff]
  simp only [Writes, not_exists, not_and, ne_eq]

theorem replacement_of_ok (made : (options.style attr.value).outcome = .ok style) :
    (attr.replacement options).outcome = .ok (attr.styled? style) := by
  have empty := isEmpty_iff_not_writes made
  rw [replacement, Logged.outcome_bind, made, Except.bind, styled?]
  by_cases writes : attr.Writes
  · rw [if_pos writes, if_neg fun idle => empty.mp idle writes]
    rfl
  · rw [if_neg writes, if_pos (empty.mpr writes)]
    rfl

theorem ok_of_replacement {replacement : Option Text}
    (finished : (attr.replacement options).outcome = .ok replacement) :
    ∃ style, (options.style attr.value).outcome = .ok style := by
  obtain ⟨style, made, _⟩ := Logged.outcome_bind_eq_ok_iff.mp finished
  exact ⟨style, made⟩

end Attribute

theorem Markup.fill_map (markup : Markup) (replace : Text × Attribute → Option Text) :
    markup.fill (markup.parts.map replace) =
      (markup.parts.flatMap fun part => part.1 ++ (replace part).getD part.2.text) ++ markup.tail := by
  have zipped : markup.parts.zip (markup.parts.map replace) = markup.parts.map fun part => (part, replace part) := by
    simpa using List.zip_map' (f := id) (g := replace) (l := markup.parts)
  rw [fill, zipped, List.flatMap_map]

namespace Options

theorem restyle_outcome (options : Options) (source : Text) :
    (options.restyle source).outcome =
      ((Markup.ofText source).parts.mapM fun (part : Text × Attribute) => part.2.replacement options).outcome.map fun replacements =>
        ((Markup.ofText source).fill replacements,
          ⟨replacements.countP (·.isSome), replacements.countP (·.isNone)⟩) := by
  rw [restyle, Logged.outcome_bind]
  cases ((Markup.ofText source).parts.mapM fun (part : Text × Attribute) => part.2.replacement options).outcome <;> rfl

theorem restyle_of_ok {made : Attribute → Style}
    (each : ∀ gap attr, (gap, attr) ∈ (Markup.ofText source).parts →
      (options.style attr.value).outcome = .ok (made attr)) :
    (options.restyle source).outcome =
      .ok (((Markup.ofText source).parts.flatMap fun (gap, attr) => gap ++ attr.turned (made attr)) ++
          (Markup.ofText source).tail,
        { replaced := (Markup.ofText source).parts.countP fun (_, attr) => attr.Writes
          kept := (Markup.ofText source).parts.countP fun (_, attr) => ¬ attr.Writes }) := by
  have replacements := Logged.outcome_mapM_of_ok fun (part : Text × Attribute) member =>
    Attribute.replacement_of_ok (each part.1 part.2 member)
  simp only [restyle_outcome, replacements, Except.map, Markup.fill_map, List.countP_map, Function.comp_def,
    Attribute.getD_styled?, Attribute.isSome_styled?, Attribute.isNone_styled?]

theorem ok_of_restyle {result : Text × Tally} (finished : (options.restyle source).outcome = .ok result) :
    ∀ gap attr, (gap, attr) ∈ (Markup.ofText source).parts →
      ∃ style, (options.style attr.value).outcome = .ok style := by
  intro gap attr member
  rw [restyle_outcome] at finished
  obtain ⟨replacements, replaced, _⟩ := Logged.map_eq_ok_iff.mp finished
  obtain ⟨replacement, turned⟩ := Logged.ok_of_outcome_mapM replaced (gap, attr) member
  exact Attribute.ok_of_replacement turned

/-- A text has one cut at its attributes. Restyling succeeds if the values of all of them do, and then keeps the gaps,
turns the attributes and counts both kinds. -/
theorem restyle_turns_attributes (options : Options) (source : Text) :
    ∃ markup : Markup,
      (∀ other : Markup, other.Cut source ↔ other = markup) ∧ markup.text = source ∧
      (∀ out tally, (options.restyle source).outcome = .ok (out, tally) ↔
        ∃ made : Attribute → Style,
          (∀ gap attr, (gap, attr) ∈ markup.parts → (options.style attr.value).outcome = .ok (made attr)) ∧
          out = (markup.parts.flatMap fun (gap, attr) => gap ++ attr.turned (made attr)) ++ markup.tail ∧
          tally.replaced = markup.parts.countP (fun (_, attr) => attr.Writes) ∧
          tally.kept = markup.parts.countP (fun (_, attr) => ¬ attr.Writes) ∧
          tally.replaced + tally.kept = markup.parts.length) ∧
      ∀ format, ({ options with format } : Options).restyle source = options.restyle source := by
  refine ⟨.ofText source, fun _ => Markup.cut_iff, (Markup.cut_ofText source).text_eq, ?_, fun _ => rfl⟩
  intro out tally
  constructor
  · intro finished
    have made := ok_of_restyle finished
    have each : ∀ gap attr, (gap, attr) ∈ (Markup.ofText source).parts →
        (options.style attr.value).outcome = .ok (Styling.lenient attr.value).result.style := by
      intro gap attr member
      obtain ⟨style, made⟩ := made gap attr member
      rw [made, style_of_ok made]
    cases (restyle_of_ok each).symm.trans finished
    refine ⟨_, each, rfl, rfl, rfl, ?_⟩
    simpa using (List.length_eq_countP_add_countP _).symm
  · rintro ⟨made, each, rfl, replaced, kept, _⟩
    rw [restyle_of_ok each, ← replaced, ← kept]

end Options
end InlineStyle
