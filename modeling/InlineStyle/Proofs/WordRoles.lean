import InlineStyle.Proofs.StrictRestyling

/-! The part that one word plays in a text. A word that writes nothing is listed as often as it stands in the text, which
has the style that it has without the word. Only a malformed word makes a difference to strict options. -/

namespace InlineStyle

/-- Another text that has the words of a text but for one of them. -/
def Text.Without (token input other : Text) : Prop := other.words = input.words.filter (· ≠ token)

theorem Text.exists_without (token input : Text) : ∃ other, Without token input other :=
  exists_words_filter _ input

section Lists

variable {α β : Type} [DecidableEq α] {left : α}

private theorem flatMap_leaving {write : α → List β} (nothing : write left = []) (items : List α) :
    (items.filter (· ≠ left)).flatMap write = items.flatMap write := by
  induction items with
  | nil => rfl
  | cons item items ih =>
    rw [List.flatMap_cons, ← ih]
    by_cases same : item = left
    · rw [List.filter_cons_of_neg (by simp [same]), same, nothing, List.nil_append]
    · rw [List.filter_cons_of_pos (by simp [same]), List.flatMap_cons]

private theorem findSome?_leaving {find : α → Option β} (nothing : find left = none) (items : List α) :
    (items.filter (· ≠ left)).findSome? find = items.findSome? find := by
  induction items with
  | nil => rfl
  | cons item items ih =>
    rw [List.findSome?_cons, ← ih]
    by_cases same : item = left
    · rw [List.filter_cons_of_neg (by simp [same]), same, nothing]
    · rw [List.filter_cons_of_pos (by simp [same]), List.findSome?_cons]

end Lists

variable {input token other : Text} {become : Fate}

namespace Styling

def listed (styling : Styling) : Fate → List Text
  | .ignored => styling.ignored
  | .unresolved => styling.unresolved
  | .applied => []

theorem listed_lenient (idle : become ≠ .applied) (input : Text) :
    (lenient input).result.listed become = input.words.filter (fate · = become) := by
  rw [lenient_result]
  cases become with
  | ignored => rfl
  | unresolved => rfl
  | applied => exact absurd rfl idle

theorem notMem_listed (different : fate token ≠ become) (input : Text) :
    token ∉ (lenient input).result.listed become := by
  cases become with
  | applied => exact List.not_mem_nil
  | ignored | unresolved =>
    rw [listed_lenient (by decide)]
    simp [different]

/-- The styling of a text lists a word for what becomes of it, as often as the word stands in the text, and has the style
that the text has without the word. -/
structure PassesOver (styling : Styling) (input token : Text) (become : Fate) : Prop where
  removable : ∃ other, Text.Without token input other
  listed : (styling.listed become).count token = input.words.count token
  elsewhere : ∀ other, other ≠ become → token ∉ styling.listed other
  unwritten : ∀ other, Text.Without token input other → (lenient other).result.style = styling.style

theorem passesOver (became : fate token = become) (idle : become ≠ .applied) (input : Text) :
    (lenient input).result.PassesOver input token become := by
  refine ⟨Text.exists_without token input, ?_, fun other different => ?_, fun other without => ?_⟩
  · rw [listed_lenient idle, List.count_filter (by simpa using became)]
  · exact notMem_listed (fun same => different (same.symm.trans became)) input
  · have nothing : writes token = [] := writes_of_fate (by rwa [became])
    rw [lenient_result, lenient_result, without, flatMap_leaving nothing]

end Styling

namespace Options

/-- Whether a text can be styled, and why not, is the same without the word. -/
def Tolerates (options : Options) (input token : Text) : Prop :=
  ∀ other, Text.Without token input other → ∀ fault,
    (options.literal input).outcome = .error fault ↔ (options.literal other).outcome = .error fault

theorem literal_eq_error_iff {options : Options} {fault : InvalidValue} :
    (options.literal input).outcome = .error fault ↔ options.stopping? input.words = some fault := by
  rw [literal_eq]
  cases options.stopping? input.words <;> simp

theorem tolerates (sound : fault? token = none) (options : Options) (input : Text) : options.Tolerates input token := by
  intro other without fault
  rw [literal_eq_error_iff, literal_eq_error_iff, stopping?, stopping?, without, findSome?_leaving sound]

end Options

/-- The text could as well be without the word, except that the word is listed for what becomes of it. -/
structure Harmless (input token : Text) (become : Fate) : Prop where
  lenient : (Styling.lenient input).result.PassesOver input token become
  strict : ∀ options : Options, options.Tolerates input token

/-- The word writes nothing, and strict options cannot style a text that has it. -/
structure Refused (input token : Text) : Prop where
  lenient : (Styling.lenient input).result.PassesOver input token .unresolved
  strict : ∀ options : Options, options.strict = true →
    ∃ fault, (options.literal input).outcome = .error fault ∧ FirstFault input.words fault

/-- The word writes these values and is not listed anywhere. -/
structure Applied (input token : Text) (values : List (Property × Value)) : Prop where
  removable : ∃ other, Text.Without token input other
  written : writes token = values
  lenient : ∀ become, token ∉ (Styling.lenient input).result.listed become
  strict : ∀ options : Options, options.Tolerates input token

theorem harmless_of_unowned (unowned : resolve token = none) (input : Text) : Harmless input token .ignored := by
  have ignored : fate token = .ignored := by simp only [fate, unowned]
  have sound : fault? token = none := by simp only [fault?, unowned]
  exact ⟨Styling.passesOver ignored (by decide) input, fun options => options.tolerates sound input⟩

theorem harmless_of_silent (silent : Grammar.Silent token) (input : Text) : Harmless input token .unresolved := by
  obtain ⟨family, resolved⟩ := Grammar.resolve_nothing_iff.mpr silent
  have unresolved : fate token = .unresolved := by simp only [fate, resolved]
  have sound : fault? token = none := by simp only [fault?, resolved]
  exact ⟨Styling.passesOver unresolved (by decide) input, fun options => options.tolerates sound input⟩

theorem refused_of_malformed (malformed : Grammar.Malformed token) (member : token ∈ input.words) :
    Refused input token := by
  obtain ⟨family, fault, resolved⟩ := Grammar.resolve_error_iff.mpr malformed
  have unresolved : fate token = .unresolved := by simp only [fate, resolved]
  refine ⟨Styling.passesOver unresolved (by decide) input, fun options strict => ?_⟩
  obtain ⟨first, found⟩ := exists_firstFault member (fault?_eq_some_iff.mpr ⟨family, resolved⟩)
  exact ⟨first, Options.literal_eq_error_iff.mpr (Options.stopping?_eq_some_iff.mpr ⟨strict, found⟩), found⟩

theorem applied_of_means {family : Family} {property : Property} {value : Value}
    (means : Grammar.Means family token (.set property value)) (input : Text) :
    Applied input token [(property, value)] := by
  obtain ⟨resolved, -⟩ := Grammar.resolve_writes_iff.mpr means
  have applied : fate token = .applied := by simp only [fate, resolved]
  have sound : fault? token = none := by simp only [fault?, resolved]
  refine ⟨Text.exists_without token input, by simp only [writes, resolved, Effect.fields], fun become => ?_,
    fun options => options.tolerates sound input⟩
  cases become with
  | applied => exact List.not_mem_nil
  | ignored | unresolved => exact Styling.notMem_listed (by simp [applied]) input

/-- A text word that mentions a gray is judged by its last part alone: with a shade it writes a color, and it is harmless
otherwise. -/
structure JudgedByShade (input token : Text) : Prop where
  unknown : (∀ shade ∈ ["500", "600", "700", "800"], ¬ '-' :: shade.toList <:+ token) → Harmless input token .unresolved
  known : ∀ entry ∈ Vocabulary.grays, '-' :: entry.1 <:+ token → Applied input token [entry.2]

theorem judgedByShade (opens : "text-".toList <+: token) (gray : "gray-".toList <:+: token) (input : Text) :
    JudgedByShade input token where
  unknown unlisted := harmless_of_silent (.gray opens gray unlisted) input
  known _ entry last := applied_of_means (.gray opens gray entry last) input

end InlineStyle
