import InlineStyle.Proofs.WordRoles

/-! Font sizes in brackets. A word that opens a bracket and holds no size in it stops a strict styling, unless it mentions a
gray: the gray is looked for first, within brackets too. -/

namespace InlineStyle

structure Grammar.Misbracketed (word : Text) : Prop where
  opens : "text-[".toList <+: word
  unreadable : ∀ digits, Digits digits → ofNumeral digits ≤ largest → word ≠ "text-[".toList ++ digits ++ "px]".toList

open Grammar

variable {input token : Text}

/-- A character that belongs to no size is enough. -/
theorem Grammar.misbracketed_of_mem {c : Char} (opens : "text-[".toList <+: token) (inside : c ∈ token)
    (letter : c.isDigit = false) (foreign : c ∉ "text-[".toList ++ "px]".toList) : Misbracketed token := by
  refine ⟨opens, ?_⟩
  rintro digits number - rfl
  rcases List.mem_append.mp inside with front | back
  · rcases List.mem_append.mp front with lead | digit
    · exact foreign (List.mem_append_left _ lead)
    · have isDigit : c.isDigit = true := List.all_eq_true.mp number.2 c digit
      exact Bool.false_ne_true (letter.symm.trans isDigit)
  · exact foreign (List.mem_append_right _ back)

/-- A word of brackets without a size is refused if it mentions no gray. One that does is judged by its last part alone. -/
theorem refused_without_gray (member : token ∈ input.words) (misbracketed : Misbracketed token) :
    (¬ "gray-".toList <:+: token → Refused input token) ∧ ("gray-".toList <:+: token → JudgedByShade input token) := by
  obtain ⟨opens, unreadable⟩ := misbracketed
  refine ⟨fun noGray => refused_of_malformed (.size opens noGray unreadable) member, fun gray => ?_⟩
  have text : "text-".toList <+: "text-[".toList := by decide
  exact judgedByShade (text.trans opens) gray input

/-- Letters in brackets, and grays in brackets with and without a shade. -/
theorem refused_letters_among_grays :
    let input : Text := "p-1 text-[abcpx] text-[gray-x] text-[gray-500".toList
    Refused input "text-[abcpx]".toList ∧ Harmless input "text-[gray-x]".toList .unresolved ∧
      Applied input "text-[gray-500".toList [(.color, .str "#6b7280".toList)] := by
  intro input
  have words : input.words = ["p-1", "text-[abcpx]", "text-[gray-x]", "text-[gray-500"].map String.toList := by
    decide +kernel
  have member (token : Text) (listed : token ∈ ["p-1", "text-[abcpx]", "text-[gray-x]", "text-[gray-500"].map String.toList) :
      token ∈ input.words := by rw [words]; exact listed
  have letters : Misbracketed "text-[abcpx]".toList :=
    misbracketed_of_mem (c := 'a') (by decide) (by decide) (by decide) (by decide)
  have unknown : Misbracketed "text-[gray-x]".toList :=
    misbracketed_of_mem (c := 'g') (by decide) (by decide) (by decide) (by decide)
  have known : Misbracketed "text-[gray-500".toList :=
    misbracketed_of_mem (c := 'g') (by decide) (by decide) (by decide) (by decide)
  have noGray : ¬ "gray-".toList <:+: "text-[abcpx]".toList := mt Text.holds_iff.mpr (by decide)
  obtain ⟨refused, -⟩ := refused_without_gray (member _ (by decide)) letters
  obtain ⟨-, harmless⟩ := refused_without_gray (member _ (by decide)) unknown
  obtain ⟨-, applied⟩ := refused_without_gray (member _ (by decide)) known
  exact ⟨refused noGray, (harmless (Text.holds_iff.mp rfl)).unknown (by decide),
    (applied (Text.holds_iff.mp rfl)).known _ List.mem_cons_self (by decide)⟩

/-- A gray in an open bracket is a color, whatever the options. -/
theorem gray_in_open_bracket :
    let input : Text := "text-[gray-500".toList
    input.words = [input] ∧ Misbracketed input ∧
      (({ strict := true, format := .object } : Options).literal input).outcome = .ok "\x7b color: '#6b7280' \x7d".toList ∧
      (Styling.lenient input).result.unresolved = [] ∧
      (Styling.lenient input).result.style.get? .color = some (.str "#6b7280".toList) := by
  intro input
  have words : input.words = [input] := by decide +kernel
  have misbracketed : Misbracketed input :=
    misbracketed_of_mem (c := 'g') (by decide) (by decide) (by decide) (by decide)
  exact ⟨words, misbracketed, rfl, rfl, rfl⟩

end InlineStyle
