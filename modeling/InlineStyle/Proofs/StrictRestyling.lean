import InlineStyle.Proofs.Restyling

/-! What stops a strict run, in a class text or in the attributes of a markup, is the first word at fault. The result
that is left otherwise does not depend on the options. -/

namespace InlineStyle

variable {options : Options} {words : List Text} {fault : InvalidValue} {input : Text}

theorem Logged.outcome_mapM {ω ε σ τ : Type} {step : σ → Logged ω ε τ} {stop? : σ → Option ε} {value : σ → τ}
    {items : List σ} (steps : ∀ item ∈ items, (step item).outcome = (stop? item).elim (.ok (value item)) .error) :
    (items.mapM step).outcome = (items.findSome? stop?).elim (.ok (items.map value)) .error := by
  induction items with
  | nil => rfl
  | cons item items ih =>
    have rest := ih fun other member => steps other (by simp [member])
    rw [List.mapM_cons, outcome_bind, steps item (by simp)]
    cases stopped : stop? item with
    | some error => simp [stopped, Except.bind]
    | none =>
      simp only [Option.elim_none, Except.bind, outcome_bind, rest, List.findSome?_cons, stopped]
      cases items.findSome? stop? <;> rfl

def Attribute.lenientStyle (attr : Attribute) : Style := (Styling.lenient attr.value).result.style

namespace Markup

def turned (made : Attribute → Style) (markup : Markup) : Text :=
  (markup.parts.flatMap fun (gap, attr) => gap ++ attr.turned (made attr)) ++ markup.tail

def restyled (markup : Markup) : Text × Tally :=
  (markup.turned Attribute.lenientStyle,
    { replaced := markup.attributes.countP fun attr => attr.Writes
      kept := markup.attributes.countP fun attr => ¬ attr.Writes })

end Markup

namespace Options

theorem elim_eq_error_iff {ε α : Type} {stop? : Option ε} {value : α} {error : ε} :
    stop?.elim (Except.ok value) .error = .error error ↔ stop? = some error := by
  cases stop? <;> simp

theorem elim_eq_ok_iff {ε α : Type} {stop? : Option ε} {value result : α} :
    stop?.elim (Except.ok value) (.error : ε → _) = .ok result ↔ stop? = none ∧ value = result := by
  cases stop? <;> simp

/-- The fault that the options do not let pass. -/
def stopping? (options : Options) (words : List Text) : Option InvalidValue :=
  if options.strict then words.findSome? fault? else none

theorem stopping?_eq_some_iff : options.stopping? words = some fault ↔ options.strict = true ∧ FirstFault words fault := by
  rw [stopping?, firstFault_iff]
  cases options.strict <;> simp

theorem stopping?_eq_none_iff :
    options.stopping? words = none ↔ (options.strict = true → ∀ word ∈ words, fault? word = none) := by
  rw [stopping?]
  cases options.strict <;> simp

theorem stopping?_flatMap {σ : Type} {items : List σ} {read : σ → List Text} :
    options.stopping? (items.flatMap read) = items.findSome? fun item => options.stopping? (read item) := by
  cases strict : options.strict with
  | false =>
    have never : items.findSome? (fun item => options.stopping? (read item)) = none := by
      simp [stopping?, strict]
    rw [never, stopping?, strict, if_neg Bool.false_ne_true]
  | true =>
    simp only [stopping?, strict, if_true]
    induction items with
    | nil => rfl
    | cons item items ih =>
      rw [List.flatMap_cons, List.findSome?_append, ih, List.findSome?_cons]
      cases (read item).findSome? fault? <;> rfl

theorem styling_outcome (options : Options) (input : Text) :
    (options.styling input).outcome = (options.stopping? input.words).elim (.ok (Styling.lenient input).result) .error := by
  cases strict : options.strict with
  | false =>
    rw [styling_of_lenient strict, stopping?, strict, if_neg Bool.false_ne_true]
    rfl
  | true =>
    rw [styling_of_strict strict]
    cases stopped : options.stopping? input.words with
    | some fault => exact Styling.strict_outcome_of_firstFault (stopping?_eq_some_iff.mp stopped).2
    | none => exact Styling.strict_outcome_of_sound (stopping?_eq_none_iff.mp stopped strict)

theorem style_eq (options : Options) (input : Text) :
    (options.style input).outcome =
      (options.stopping? input.words).elim (.ok (Styling.lenient input).result.style) .error := by
  rw [style_outcome, styling_outcome]
  cases options.stopping? input.words <;> rfl

theorem literal_eq (options : Options) (input : Text) :
    (options.literal input).outcome =
      (options.stopping? input.words).elim (.ok (options.lenientLiteral input).result) .error := by
  rw [literal_outcome, styling_outcome, lenientLiteral_result]
  cases options.stopping? input.words <;> rfl

/-- The words that restyling a text reads are those of all its attributes. -/
theorem restyle_eq (options : Options) (source : Text) :
    (options.restyle source).outcome =
      (options.stopping? ((Markup.ofText source).attributes.flatMap fun attr => attr.value.words)).elim
        (.ok (Markup.ofText source).restyled) .error := by
  have each : ∀ part ∈ (Markup.ofText source).parts, (part.2.replacement options).outcome =
      (options.stopping? part.2.value.words).elim (.ok (part.2.styled? part.2.lenientStyle)) .error := by
    intro part _
    have style := style_eq options part.2.value
    cases stopped : options.stopping? part.2.value.words with
    | some fault =>
      rw [stopped] at style
      rw [Attribute.replacement, Logged.outcome_bind, style]
      rfl
    | none =>
      rw [stopped] at style
      exact Attribute.replacement_of_ok style
  rw [restyle_outcome, Logged.outcome_mapM each, Markup.attributes, List.flatMap_map, stopping?_flatMap]
  cases (Markup.ofText source).parts.findSome? fun part => options.stopping? part.2.value.words with
  | some fault => rfl
  | none =>
    simp only [Option.elim_none, Except.map, Markup.fill_map, List.countP_map, Function.comp_def, Attribute.getD_styled?,
      Attribute.isSome_styled?, Attribute.isNone_styled?, Markup.restyled, Markup.turned, Markup.attributes]

/-- The attributes alone decide whether a text is restyled, and what is made of each of them. -/
theorem restyle_of_same_attributes {source other : Text}
    (same : (Markup.ofText other).attributes = (Markup.ofText source).attributes) (options : Options) :
    (∃ fault, (options.restyle source).outcome = .error fault ∧ (options.restyle other).outcome = .error fault) ∨
      ∃ made tally, (options.restyle source).outcome = .ok ((Markup.ofText source).turned made, tally) ∧
        (options.restyle other).outcome = .ok ((Markup.ofText other).turned made, tally) := by
  have here := restyle_eq options source
  have there := restyle_eq options other
  rw [same] at there
  rw [here, there]
  cases options.stopping? ((Markup.ofText source).attributes.flatMap fun attr => attr.value.words) with
  | some fault => exact .inl ⟨fault, rfl, rfl⟩
  | none =>
    refine .inr ⟨Attribute.lenientStyle, _, rfl, ?_⟩
    rw [Option.elim_none, Markup.restyled, same]

/-- Strict restyling differs from lenient restyling only in that it fails where an attribute has a word at fault, with the
first fault in the order of the text. What stands outside of the attributes has no part in either. -/
theorem strict_restyling_agrees (format : Format) (source : Text) :
    let strict : Options := { strict := true, format }
    let lenient : Options := { strict := false, format }
    ∃ markup : Markup, (∀ other : Markup, other.Cut source ↔ other = markup) ∧
      (∀ fault, (strict.restyle source).outcome = .error fault ↔
        FirstFault (markup.attributes.flatMap fun attr => attr.value.words) fault) ∧
      ((∃ fault, (strict.restyle source).outcome = .error fault) ↔
        ∃ attr ∈ markup.attributes, ∃ token ∈ attr.value.words, (fault? token).isSome = true) ∧
      (∀ result, (strict.restyle source).outcome = .ok result ↔
        (∀ attr ∈ markup.attributes, ∀ token ∈ attr.value.words, fault? token = none) ∧
          (lenient.restyle source).outcome = .ok result) ∧
      (∃ result, (lenient.restyle source).outcome = .ok result) ∧
      ∀ (options : Options) (other : Text) (around : Markup), around.Cut other → around.attributes = markup.attributes →
        (∃ fault, (options.restyle source).outcome = .error fault ∧ (options.restyle other).outcome = .error fault) ∨
        ∃ made tally, (options.restyle source).outcome = .ok (markup.turned made, tally) ∧
          (options.restyle other).outcome = .ok (around.turned made, tally) := by
  intro strict lenient
  generalize shape : Markup.ofText source = markup
  have strictly := restyle_eq strict source
  have leniently : (lenient.restyle source).outcome = .ok markup.restyled := shape ▸ restyle_eq lenient source
  rw [shape] at strictly
  have stops : ∀ fault, (strict.restyle source).outcome = .error fault ↔
      FirstFault (markup.attributes.flatMap fun attr => attr.value.words) fault := by
    intro fault
    rw [strictly, elim_eq_error_iff, stopping?_eq_some_iff]
    exact ⟨And.right, fun first => ⟨rfl, first⟩⟩
  refine ⟨markup, fun other => Markup.cut_iff.trans (shape ▸ Iff.rfl), stops, ?_, ?_, ⟨_, leniently⟩, ?_⟩
  · simp only [stops, firstFault_iff, ← Option.isSome_iff_exists, List.findSome?_isSome_iff, List.mem_flatMap]
    constructor
    · rintro ⟨token, ⟨attr, listed, member⟩, faulty⟩
      exact ⟨attr, listed, token, member, faulty⟩
    · rintro ⟨attr, listed, token, member, faulty⟩
      exact ⟨token, ⟨attr, listed, member⟩, faulty⟩
  · intro result
    rw [strictly, leniently, elim_eq_ok_iff, stopping?_eq_none_iff, Except.ok.injEq]
    refine and_congr_left fun _ => ⟨fun sound attr listed token member => ?_, fun sound _ token member => ?_⟩
    · exact sound rfl token (List.mem_flatMap.mpr ⟨attr, listed, member⟩)
    · obtain ⟨attr, listed, inside⟩ := List.mem_flatMap.mp member
      exact sound attr listed token inside
  · intro options other around cut same
    rw [← cut.ofText_eq, ← shape] at same ⊢
    exact restyle_of_same_attributes same options

/-- Words at fault in front of an attribute, and in one that is left open behind it. -/
theorem strict_restyling_of_outer_faults :
    let strict : Options := { strict := true, format := .object }
    let source := "<a className='p-1'/>".toList
    let other := "text-[] <a className='p-1'/>className=\"text-[]".toList
    (Markup.ofText other).attributes = (Markup.ofText source).attributes ∧
      ∃ made tally, (strict.restyle source).outcome = .ok ((Markup.ofText source).turned made, tally) ∧
        (strict.restyle other).outcome = .ok ((Markup.ofText other).turned made, tally) := by
  intro strict source other
  obtain ⟨markup, unique, stops, -, -, -, outside⟩ := strict_restyling_agrees .object source
  obtain rfl := (unique _).mp (Markup.cut_ofText source)
  have same : (Markup.ofText other).attributes = (Markup.ofText source).attributes := by decide +kernel
  refine ⟨same, ?_⟩
  rcases outside strict other _ (Markup.cut_ofText other) same with ⟨fault, stopped, -⟩ | found
  · have sound : ∀ token ∈ (Markup.ofText source).attributes.flatMap (fun attr => attr.value.words), fault? token = none := by
      decide +kernel
    obtain ⟨before, token, after, split, faulty, -⟩ := (stops fault).mp stopped
    rw [sound token (by simp [split])] at faulty
    cases faulty
  · exact found

end Options
end InlineStyle
