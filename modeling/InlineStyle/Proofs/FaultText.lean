import InlineStyle.Proofs.StrictStyling

/-! The text of an error. It names the malformed word and says in which of five ways the word is malformed. -/

namespace InlineStyle

/-- The text of the error that a word makes. -/
def ErrorText (word text : Text) : Prop :=
  ∃ reason, Grammar.Flaw word reason ∧ text = "Invalid value in token '".toList ++ word ++ "': ".toList ++ reason

variable {token reason text : Text} {words : List Text} {fault : InvalidValue}

namespace Grammar

theorem Flaw.exists_fault (flaw : Flaw token reason) : ∃ cause, fault? token = some ⟨token, cause⟩ ∧ cause.message = reason := by
  obtain ⟨family, cause, member, rfl, faulty⟩ := flaw.effect_eq
  exact ⟨cause, fault?_eq_some_iff.mpr ⟨family, resolve_eq_some_iff.mpr ⟨member, faulty⟩⟩, rfl⟩

end Grammar

/-- The words at fault are those that have an error text, and it is the text of their fault. -/
theorem errorText_iff : ErrorText token text ↔ ∃ fault, fault? token = some fault ∧ fault.message = text := by
  constructor
  · rintro ⟨reason, flaw, rfl⟩
    obtain ⟨cause, faulty, rfl⟩ := flaw.exists_fault
    exact ⟨_, faulty, rfl⟩
  · rintro ⟨fault, faulty, rfl⟩
    obtain ⟨family, resolved⟩ := fault?_eq_some_iff.mp faulty
    obtain ⟨reason, flaw⟩ := (Grammar.malformed_of_resolve resolved).2.flaw
    obtain ⟨cause, same, rfl⟩ := flaw.exists_fault
    obtain rfl := Option.some.inj (faulty.symm.trans same)
    exact ⟨_, flaw, rfl⟩

example : ErrorText "text-[]".toList "Invalid value in token 'text-[]': expected `text-[<N>px]`".toList :=
  errorText_iff.mpr ⟨_, rfl, rfl⟩

theorem errorText_of_fault? (faulty : fault? token = some fault) : ErrorText token fault.message :=
  errorText_iff.mpr ⟨fault, faulty, rfl⟩

theorem ErrorText.eq_message (told : ErrorText token text) (faulty : fault? token = some fault) : text = fault.message := by
  obtain ⟨_, same, rfl⟩ := errorText_iff.mp told
  obtain rfl := Option.some.inj (faulty.symm.trans same)
  rfl

theorem FirstFault.errorText (first : FirstFault words fault) : ErrorText fault.token fault.message := by
  obtain ⟨before, token, after, -, faulty, rfl, -⟩ := first
  exact errorText_of_fault? faulty

theorem ErrorText.of_firstFault {other : InvalidValue} (told : ErrorText fault.token text) (first : FirstFault words fault)
    (known : words.findSome? fault? = some other) : text = other.message := by
  obtain rfl := Option.some.inj ((firstFault_iff.mp first).symm.trans known)
  obtain ⟨before, token, after, -, faulty, rfl, -⟩ := first
  exact told.eq_message faulty

end InlineStyle
