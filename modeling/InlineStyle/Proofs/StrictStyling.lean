import InlineStyle.Proofs.Resolution
import InlineStyle.Proofs.WordRun

/-! Strict and lenient styling agree. A strict styling fails exactly at the first word at fault, and without such
a word it makes of a text what a lenient one makes of it. -/

namespace InlineStyle

variable {input token : Text} {fault : InvalidValue}

/-- The fault of the first word that has one. -/
def FirstFault (words : List Text) (fault : InvalidValue) : Prop :=
  ∃ before token after, words = before ++ token :: after ∧ fault? token = some fault ∧ fault.token = token ∧
    ∀ earlier ∈ before, fault? earlier = none

theorem token_of_fault? (faulty : fault? token = some fault) : fault.token = token := by
  obtain ⟨family, resolved⟩ := fault?_eq_some_iff.mp faulty
  exact (Grammar.malformed_of_resolve resolved).1

theorem firstFault_iff {words : List Text} : FirstFault words fault ↔ words.findSome? fault? = some fault := by
  rw [List.findSome?_eq_some_iff, FirstFault]
  constructor
  · rintro ⟨before, token, after, split, faulty, _, sound⟩
    exact ⟨before, token, after, split, faulty, sound⟩
  · rintro ⟨before, token, after, split, faulty, sound⟩
    exact ⟨before, token, after, split, faulty, token_of_fault? faulty, sound⟩

theorem exists_firstFault {words : List Text} (member : token ∈ words) (faulty : fault? token = some fault) :
    ∃ first, FirstFault words first := by
  induction words with
  | nil => cases member
  | cons head words ih =>
    cases found : fault? head with
    | some first => exact ⟨first, [], head, words, rfl, found, token_of_fault? found, by simp⟩
    | none =>
      rcases List.mem_cons.mp member with rfl | later
      · rw [found] at faulty
        cases faulty
      · obtain ⟨first, before, word, after, rfl, rest, about, sound⟩ := ih later
        refine ⟨first, head :: before, word, after, rfl, rest, about, ?_⟩
        intro earlier inside
        rcases List.mem_cons.mp inside with rfl | inside
        · exact found
        · exact sound earlier inside

theorem firstFault_or_sound (words : List Text) :
    (∃ fault, FirstFault words fault) ∨ ∀ token ∈ words, fault? token = none := by
  by_cases sound : ∀ token ∈ words, fault? token = none
  · exact .inr sound
  · simp only [Classical.not_forall] at sound
    obtain ⟨token, member, faulty⟩ := sound
    obtain ⟨fault, faulty⟩ := Option.ne_none_iff_exists'.mp faulty
    exact .inl (exists_firstFault member faulty)

namespace Styling

theorem strict_outcome_of_firstFault (first : FirstFault input.words fault) :
    (strict input).outcome = .error fault := by
  obtain ⟨before, token, after, split, faulty, _, sound⟩ := first
  rw [strict_eq_of_fault split sound faulty]

theorem strict_outcome_of_sound (sound : ∀ token ∈ input.words, fault? token = none) :
    (strict input).outcome = .ok (lenient input).result := by
  rw [strict_eq_of_sound sound, Logged.result, lenient_eq]

theorem strict_outcome_eq_error_iff : (strict input).outcome = .error fault ↔ FirstFault input.words fault := by
  constructor
  · intro stopped
    rcases firstFault_or_sound input.words with ⟨first, found⟩ | sound
    · cases (strict_outcome_of_firstFault found).symm.trans stopped
      exact found
    · cases (strict_outcome_of_sound sound).symm.trans stopped
  · exact strict_outcome_of_firstFault

theorem strict_outcome_eq_ok_iff {styling : Styling} :
    (strict input).outcome = .ok styling ↔
      (∀ token ∈ input.words, fault? token = none) ∧ (lenient input).result = styling := by
  constructor
  · intro finished
    rcases firstFault_or_sound input.words with ⟨first, found⟩ | sound
    · cases (strict_outcome_of_firstFault found).symm.trans finished
    · cases (strict_outcome_of_sound sound).symm.trans finished
      exact ⟨sound, rfl⟩
  · rintro ⟨sound, rfl⟩
    exact strict_outcome_of_sound sound

end Styling

namespace Options

theorem style_outcome (options : Options) (input : Text) :
    (options.style input).outcome = (options.styling input).outcome.map Styling.style := by
  rw [style, Logged.outcome_bind]
  cases (options.styling input).outcome <;> rfl

theorem literal_outcome (options : Options) (input : Text) :
    (options.literal input).outcome =
      (options.styling input).outcome.map fun styling => styling.style.literal options.format := by
  rw [literal, Logged.outcome_bind, style_outcome]
  cases (options.styling input).outcome <;> rfl

theorem lenientLiteral_result (options : Options) (input : Text) :
    (options.lenientLiteral input).result = (Styling.lenient input).result.style.literal options.format := by
  simp only [lenientLiteral, Logged.result, Styling.lenient_eq]
  rfl

theorem events_lenientLiteral (options : Options) (input : Text) :
    (options.lenientLiteral input).events = input.words.map Event.ofWord := by
  rw [lenientLiteral, Logged.events_bind, Styling.lenient_eq]
  exact List.append_nil _

variable {options : Options}

theorem events_styling_of_lenient (lenient : options.strict = false) :
    (options.styling input).events = input.words.map Event.ofWord := by
  rw [styling, lenient, if_neg Bool.false_ne_true, Logged.widen, Styling.lenient_eq]

theorem styling_of_strict (strict : options.strict = true) : options.styling input = Styling.strict input := by
  rw [styling, if_pos strict]

theorem styling_of_lenient (lenient : options.strict = false) :
    (options.styling input).outcome = .ok (Styling.lenient input).result := by
  rw [styling, lenient]
  rfl

theorem literal_of_lenient (lenient : options.strict = false) :
    (options.literal input).outcome = .ok (options.lenientLiteral input).result := by
  rw [literal_outcome, styling_of_lenient lenient, lenientLiteral_result]
  rfl

theorem literal_of_strict_iff (strict : options.strict = true) {text : Text} :
    (options.literal input).outcome = .ok text ↔
      (∀ token ∈ input.words, fault? token = none) ∧ (options.lenientLiteral input).result = text := by
  rw [literal_outcome, styling_of_strict strict, lenientLiteral_result]
  constructor
  · intro finished
    obtain ⟨styling, outcome, rfl⟩ := Logged.map_eq_ok_iff.mp finished
    obtain ⟨sound, rfl⟩ := Styling.strict_outcome_eq_ok_iff.mp outcome
    exact ⟨sound, rfl⟩
  · rintro ⟨sound, rfl⟩
    rw [Styling.strict_outcome_of_sound sound]
    rfl

/-- Whatever the options, the styling of a text is the lenient one if there is one. -/
theorem styling_of_ok {styling : Styling} (made : (options.styling input).outcome = .ok styling) :
    (Styling.lenient input).result = styling := by
  cases strict : options.strict with
  | false =>
    rw [styling_of_lenient strict] at made
    exact Except.ok.inj made
  | true =>
    rw [styling_of_strict strict] at made
    exact (Styling.strict_outcome_eq_ok_iff.mp made).2

theorem style_of_ok {style : Style} (made : (options.style input).outcome = .ok style) :
    (Styling.lenient input).result.style = style := by
  rw [style_outcome] at made
  obtain ⟨styling, outcome, rfl⟩ := Logged.map_eq_ok_iff.mp made
  rw [styling_of_ok outcome]

/-- Strict options differ from lenient ones only in that they fail, with the first fault, where there is one. -/
theorem strict_agrees_with_lenient (format : Format) (input : Text) :
    let strict : Options := { strict := true, format }
    let lenient : Options := { strict := false, format }
    (∀ fault, (strict.styling input).outcome = .error fault ↔ FirstFault input.words fault) ∧
    ((∃ fault, (strict.styling input).outcome = .error fault) ↔ ∃ token ∈ input.words, (fault? token).isSome = true) ∧
    (∀ styling, (strict.styling input).outcome = .ok styling ↔
      (∀ token ∈ input.words, fault? token = none) ∧ (lenient.styling input).outcome = .ok styling) ∧
    (∃ styling, (lenient.styling input).outcome = .ok styling) ∧
    (∀ options : Options,
      (options.style input).outcome = (options.styling input).outcome.map Styling.style ∧
      (options.literal input).outcome =
        (options.styling input).outcome.map fun styling => styling.style.literal options.format) ∧
    (strict.lenientLiteral input).result = (lenient.lenientLiteral input).result ∧
    (lenient.literal input).outcome = .ok (lenient.lenientLiteral input).result ∧
    ∀ text, (strict.literal input).outcome = .ok text ↔
      (∀ token ∈ input.words, fault? token = none) ∧ (strict.lenientLiteral input).result = text := by
  intro strict lenient
  refine ⟨fun _ => Styling.strict_outcome_eq_error_iff, ?_, ?_, ⟨_, styling_of_lenient rfl⟩,
    fun options => ⟨style_outcome options input, literal_outcome options input⟩, ?_, literal_of_lenient rfl,
    fun _ => literal_of_strict_iff rfl⟩
  · constructor
    · rintro ⟨fault, stopped⟩
      obtain ⟨before, token, after, split, faulty, _⟩ := Styling.strict_outcome_eq_error_iff.mp stopped
      exact ⟨token, by simp [split], by simp [faulty]⟩
    · rintro ⟨token, member, faulty⟩
      obtain ⟨fault, faulty⟩ := Option.isSome_iff_exists.mp faulty
      obtain ⟨first, found⟩ := exists_firstFault member faulty
      exact ⟨first, Styling.strict_outcome_of_firstFault found⟩
  · intro styling
    have finished : (lenient.styling input).outcome = .ok (Styling.lenient input).result := styling_of_lenient rfl
    rw [finished, Except.ok.injEq]
    exact Styling.strict_outcome_eq_ok_iff
  · rw [lenientLiteral_result, lenientLiteral_result]

end Options
end InlineStyle
