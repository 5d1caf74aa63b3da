import InlineStyle.Proofs.Amounts
import InlineStyle.Proofs.Ownership

/-! What the owner of a word makes of it. A word of the grammar writes properties, is silent or is malformed,
and exactly one of the three. -/

namespace InlineStyle

section Tables

variable {table : Vocabulary.Table} {token : Text} {property : Property} {value : Value}

theorem Vocabulary.effect_of_mem (distinct : (table.map Prod.fst).Nodup) (entry : (token, property, value) ∈ table) :
    Vocabulary.effect table token = .set property value := by
  simp only [Vocabulary.effect, (lookup_eq_some_iff_mem distinct).mpr entry]

theorem Vocabulary.effect_of_notMem (unlisted : token ∉ table.map Prod.fst) :
    Vocabulary.effect table token = .nothing := by
  have missing : table.lookup token = none := Option.not_isSome_iff_eq_none.mp (mt lookup_isSome_iff_mem.mp unlisted)
  simp only [Vocabulary.effect, missing]

end Tables

section TextWords

variable {token literal size digits : Text}

/-- A gray decides before anything else in the word is looked at. -/
theorem textEffect_gray (gray : "gray-".toList <:+: token) :
    textEffect token = .ok (Vocabulary.effect Vocabulary.grays (Text.afterLast '-' token)) := by
  rw [textEffect, if_pos (Text.holds_iff.mpr gray)]

variable (noGray : ¬ "gray-".toList <:+: token)
include noGray

theorem textEffect_color (listed : token ∈ Vocabulary.textColors.map Prod.fst) :
    textEffect token = .ok (Vocabulary.effect Vocabulary.textColors token) := by
  rw [textEffect, if_neg (mt Text.holds_iff.mp noGray), if_pos (Vocabulary.knows_iff.mpr listed)]

theorem textEffect_bracket (shape : token = "text-[".toList ++ literal) :
    textEffect token = fontSize token literal := by
  have noColor : token ∉ Vocabulary.textColors.map Prod.fst := by
    have unbracketed : ∀ color ∈ Vocabulary.textColors.map Prod.fst, ¬ "text-[".toList <+: color := by decide
    exact fun listed => unbracketed token listed ⟨literal, shape.symm⟩
  rw [textEffect, if_neg (mt Text.holds_iff.mp noGray), if_neg (mt Vocabulary.knows_iff.mp noColor),
    Text.after?_eq_some_iff.mpr shape]

theorem textEffect_size (noColor : token ∉ Vocabulary.textColors.map Prod.fst)
    (unbracketed : ¬ "text-[".toList <+: token) :
    textEffect token = .ok (Vocabulary.effect Vocabulary.fontSizes token) := by
  have missing : Text.after? "text-[".toList token = none :=
    Option.not_isSome_iff_eq_none.mp (mt Text.after?_isSome_iff.mp unbracketed)
  rw [textEffect, if_neg (mt Text.holds_iff.mp noGray), if_neg (mt Vocabulary.knows_iff.mp noColor), missing]

omit noGray

theorem fontSize_digits (number : Grammar.Digits digits) :
    fontSize token (digits ++ "px]".toList) =
      if ofNumeral digits ≤ largest then .ok (.set .fontSize (.int (ofNumeral digits)))
      else .error ⟨token, .sizeTooLarge digits⟩ := by
  have shape : Text.before? "px]".toList (digits ++ "px]".toList) = some digits := Text.before?_eq_some_iff.mpr rfl
  have nonempty : digits.isEmpty = false := by simpa using number.1
  simp only [fontSize, shape, number.2, nonempty, ofNumeral?_eq, checked?, Bool.not_true, Bool.false_eq_true, ite_false]
  by_cases fits : ofNumeral digits ≤ largest <;> simp [fits]

theorem fontSize_unclosed (unclosed : ∀ size, literal ≠ size ++ "px]".toList) :
    fontSize token literal = .error ⟨token, .sizeShape⟩ := by
  have missing : Text.before? "px]".toList literal = none :=
    Option.eq_none_iff_forall_ne_some.mpr fun size found => unclosed size (Text.before?_eq_some_iff.mp found)
  simp only [fontSize, missing]

theorem fontSize_foreign (letters : ∃ c ∈ size, c.isDigit = false) :
    fontSize token (size ++ "px]".toList) = .error ⟨token, .sizeNotANumber size⟩ := by
  have shape : Text.before? "px]".toList (size ++ "px]".toList) = some size := Text.before?_eq_some_iff.mpr rfl
  have foreign : isNumeral size = false := by simpa [isNumeral] using letters
  simp only [fontSize, shape, foreign, Bool.not_false, ite_true]

end TextWords

namespace Grammar

variable {family : Family} {token : Text} {effect : Effect}

theorem distinct_tables : ∀ table ∈ tables family, (table.map Prod.fst).Nodup := by
  cases family <;> decide

theorem apart_spacings : Spacing.Apart (spacings family) := by
  cases family <;> decide

private theorem claims_listed :
    ∀ table ∈ tables family, ∀ word ∈ table.map Prod.fst, Rulebook.standard.claims word family = true := by
  cases family <;> decide

private theorem grayless : ∀ table ∈ tables .text, ∀ word ∈ table.map Prod.fst, ¬ "gray-".toList <:+: word := by
  have held : ∀ table ∈ tables .text, ∀ word ∈ table.map Prod.fst, Text.holds "gray-".toList word = false := by
    decide
  intro table known word listed gray
  exact Bool.false_ne_true ((held table known word listed).symm.trans (Text.holds_iff.mpr gray))

private theorem size_grayless {digits : Text} (number : Digits digits) :
    ¬ "gray-".toList <:+: "text-[".toList ++ digits ++ "px]".toList := by
  intro gray
  have present : 'g' ∈ "text-[".toList ++ digits ++ "px]".toList := gray.subset (by decide)
  have absent : 'g' ∉ digits := fun member => absurd (List.all_eq_true.mp number.2 'g' member) (by decide)
  rcases List.mem_append.mp present with front | back
  · rcases List.mem_append.mp front with lead | inside
    · exact absurd lead (by decide)
    · exact absent inside
  · exact absurd back (by decide)

private theorem size_apart : ∀ size ∈ Vocabulary.fontSizes.map Prod.fst,
    size ∉ Vocabulary.textColors.map Prod.fst ∧ ¬ "text-[".toList <+: size := by
  decide

private theorem shade_undashed : ∀ shade ∈ Vocabulary.grays.map Prod.fst, '-' ∉ shade := by
  decide

private theorem claims_spacing {spacing : Spacing} (known : spacing ∈ spacings family) :
    Rulebook.standard.claims token family = (Spacing.find? (spacings family) token).isSome := by
  cases family with
  | margin | padding => rfl
  | flex | alignment | background | borderRadius | text | fontWeight | shadow => cases known

private theorem effect_spacing {spacing : Spacing} (known : spacing ∈ spacings family) :
    Rulebook.standard.effect token family = Spacing.effect (spacings family) token := by
  cases family with
  | margin | padding => rfl
  | flex | alignment | background | borderRadius | text | fontWeight | shadow => cases known

private theorem member_spacing {spacing : Spacing} {amount : Text} (known : spacing ∈ spacings family)
    (read : spacing.amount? token = some amount) : Member family token := by
  apply claims_iff_member.mp
  rw [claims_spacing known, Spacing.find?_isSome_iff]
  exact ⟨spacing, known, Option.isSome_iff_exists.mpr ⟨amount, read⟩⟩

theorem resolve_units {spacing : Spacing} {digits : Text} (known : spacing ∈ spacings family) (number : Digits digits) :
    resolve (spacing.lead ++ digits) = some (family,
      if ofNumeral digits * Spacing.pixelsPerUnit ≤ largest then
        .ok (.set spacing.property (.int (ofNumeral digits * Spacing.pixelsPerUnit)))
      else .error ⟨spacing.lead ++ digits, .spacingOutOfRange⟩) := by
  apply resolve_eq_some_iff.mpr
  refine ⟨member_spacing known (Spacing.amount?_eq_some_iff.mpr ⟨rfl, .inl number⟩), ?_⟩
  rw [effect_spacing known, Spacing.effect_units apart_spacings known number.1 number.2]

theorem resolve_size {digits : Text} (number : Digits digits) :
    resolve ("text-[".toList ++ digits ++ "px]".toList) = some (.text,
      if ofNumeral digits ≤ largest then .ok (.set .fontSize (.int (ofNumeral digits)))
      else .error ⟨"text-[".toList ++ digits ++ "px]".toList, .sizeTooLarge digits⟩) := by
  have opens : Member .text ("text-".toList ++ '[' :: (digits ++ "px]".toList)) := member_text (List.prefix_append _ _)
  have shape := List.append_assoc "text-[".toList digits "px]".toList
  exact resolve_eq_some_iff.mpr ⟨opens, (textEffect_bracket (size_grayless number) shape).trans (fontSize_digits number)⟩

theorem Means.member (means : Means family token effect) : Member family token := by
  cases means with
  | listed known entry =>
    exact claims_iff_member.mp (claims_listed _ known _ (List.mem_map.mpr ⟨_, entry, rfl⟩))
  | units known number _ => exact member_spacing known (Spacing.amount?_eq_some_iff.mpr ⟨rfl, .inl number⟩)
  | half known half =>
    exact member_spacing known (Spacing.amount?_eq_some_iff.mpr ⟨rfl, .inr ⟨by rw [half, Option.isSome_some], rfl⟩⟩)
  | gray opens _ _ _ => exact member_text opens
  | @size digits _ _ => exact member_text ⟨'[' :: digits ++ "px]".toList, rfl⟩
  | shadow listed => exact claims_iff_member.mp (List.contains_iff_mem.mpr listed)

private theorem effect_listed {table : Vocabulary.Table} {property : Property} {value : Value}
    (known : table ∈ tables family) (entry : (token, property, value) ∈ table) :
    Rulebook.standard.effect token family = .ok (.set property value) := by
  have found := Vocabulary.effect_of_mem (distinct_tables table known) entry
  have key : token ∈ table.map Prod.fst := List.mem_map.mpr ⟨_, entry, rfl⟩
  cases family with
  | flex | alignment | background | borderRadius | fontWeight =>
    obtain rfl := List.mem_singleton.mp known
    exact congrArg Except.ok found
  | margin | padding | shadow => cases known
  | text =>
    have noGray := grayless table known token key
    rcases List.mem_cons.mp known with rfl | known
    · exact (textEffect_color noGray key).trans (congrArg Except.ok found)
    · obtain rfl := List.mem_singleton.mp known
      obtain ⟨noColor, unbracketed⟩ := size_apart token key
      exact (textEffect_size noGray noColor unbracketed).trans (congrArg Except.ok found)

theorem Means.effect_eq (means : Means family token effect) :
    Rulebook.standard.effect token family = .ok effect := by
  cases means with
  | listed known entry => exact effect_listed known entry
  | units known number fits => exact (resolve_eq_some_iff.mp (resolve_units known number)).2.trans (if_pos fits)
  | half known half => rw [effect_spacing known]; exact Spacing.effect_half apart_spacings known half
  | gray _ gray entry last =>
    have key : _ ∈ Vocabulary.grays.map Prod.fst := List.mem_map.mpr ⟨_, entry, rfl⟩
    obtain ⟨_, shade⟩ := Text.suffix_and_notMem_iff.mp ⟨last, shade_undashed _ key⟩
    refine (textEffect_gray gray).trans (congrArg Except.ok ?_)
    rw [shade]
    exact Vocabulary.effect_of_mem (by decide) entry
  | size number fits => exact (resolve_eq_some_iff.mp (resolve_size number)).2.trans (if_pos fits)
  | shadow _ => rfl

private theorem notMem_iff {words : List String} :
    (∀ word ∈ words, token ≠ word.toList) ↔ token ∉ words.map String.toList := by
  rw [← List.forall_mem_map (P := fun word => token ≠ word)]
  exact ⟨fun different listed => different token listed rfl, fun absent word listed same => absent (same ▸ listed)⟩

theorem Silent.effect_eq (silent : Silent token) :
    ∃ family, Member family token ∧ Rulebook.standard.effect token family = .ok .nothing := by
  cases silent with
  | radius opens unlisted =>
    have absent : token ∉ Vocabulary.radii.map Prod.fst := notMem_iff.mp unlisted
    exact ⟨.borderRadius, member_rounded opens, congrArg Except.ok (Vocabulary.effect_of_notMem absent)⟩
  | gray opens gray unlisted =>
    have absent : Text.afterLast '-' token ∉ Vocabulary.grays.map Prod.fst := by
      have unlisted : ∀ shade ∈ ["500", "600", "700", "800"].map String.toList, ¬ '-' :: shade <:+ token :=
        List.forall_mem_map.mpr unlisted
      have dashed : '-' ∈ token := gray.subset (by decide)
      exact fun listed => unlisted _ listed (Text.suffix_and_notMem_iff.mpr ⟨dashed, rfl⟩).1
    exact ⟨.text, member_text opens,
      (textEffect_gray gray).trans (congrArg Except.ok (Vocabulary.effect_of_notMem absent))⟩
  | text opens noGray unbracketed noColor noSize =>
    have noColor : token ∉ Vocabulary.textColors.map Prod.fst := notMem_iff.mp noColor
    have noSize : token ∉ Vocabulary.fontSizes.map Prod.fst := notMem_iff.mp noSize
    exact ⟨.text, member_text opens,
      (textEffect_size noGray noColor unbracketed).trans (congrArg Except.ok (Vocabulary.effect_of_notMem noSize))⟩

private theorem effect_bracket {literal : Text} {fault : InvalidValue} (noGray : ¬ "gray-".toList <:+: token)
    (shape : token = "text-[".toList ++ literal) (faulty : fontSize token literal = .error fault) :
    Member .text token ∧ Rulebook.standard.effect token .text = .error fault :=
  ⟨member_text ⟨'[' :: literal, shape.symm⟩, (textEffect_bracket noGray shape).trans faulty⟩

theorem Flaw.effect_eq {reason : Text} (flaw : Flaw token reason) :
    ∃ family cause, Member family token ∧ cause.message = reason ∧
      Rulebook.standard.effect token family = .error ⟨token, cause⟩ := by
  cases flaw with
  | @spacing family lead digits listed number shape large =>
    obtain ⟨spacing, known, same⟩ := exists_spacing listed
    have large : ¬ ofNumeral digits * Spacing.pixelsPerUnit ≤ largest := Nat.not_le.mpr large
    have resolved := resolve_units known number
    rw [if_neg large, same, ← shape] at resolved
    exact ⟨family, .spacingOutOfRange, shape ▸ .units listed number, rfl, (resolve_eq_some_iff.mp resolved).2⟩
  | unclosed opens noGray openEnded =>
    obtain ⟨literal, shape⟩ := opens
    have unclosed : ∀ size, literal ≠ size ++ "px]".toList := by
      rintro size rfl
      exact openEnded size (shape.symm.trans (List.append_assoc _ _ _).symm)
    obtain ⟨member, faulty⟩ := effect_bracket noGray shape.symm (fontSize_unclosed unclosed)
    exact ⟨.text, .sizeShape, member, rfl, faulty⟩
  | foreign shape noGray letters =>
    obtain ⟨member, faulty⟩ := effect_bracket noGray (shape.trans (List.append_assoc _ _ _)) (fontSize_foreign letters)
    exact ⟨.text, _, member, rfl, faulty⟩
  | missing shape =>
    subst shape
    exact ⟨.text, .sizeMissing, member_text (by decide), rfl, rfl⟩
  | @large digits number shape large =>
    have resolved := resolve_size number
    rw [if_neg (Nat.not_le.mpr large), ← shape] at resolved
    obtain ⟨member, faulty⟩ := resolve_eq_some_iff.mp resolved
    exact ⟨.text, _, member, rfl, faulty⟩

theorem Malformed.effect_eq (malformed : Malformed token) :
    ∃ family fault, Member family token ∧ fault.token = token ∧
      Rulebook.standard.effect token family = .error fault := by
  obtain ⟨reason, flaw⟩ := malformed.flaw
  obtain ⟨family, cause, member, -, faulty⟩ := flaw.effect_eq
  exact ⟨family, ⟨token, cause⟩, member, rfl, faulty⟩

private theorem fixed_listed (writesOne : family ≠ .shadow) :
    ∀ word ∈ fixed family, ∃ table ∈ tables family, word.toList ∈ table.map Prod.fst := by
  cases family <;> first | exact absurd rfl writesOne | decide

private theorem means_listed {table : Vocabulary.Table} (known : table ∈ tables family)
    (listed : token ∈ table.map Prod.fst) : ∃ effect, Means family token effect := by
  obtain ⟨⟨word, property, value⟩, entry, rfl⟩ := List.mem_map.mp listed
  exact ⟨_, .listed known entry⟩

private theorem text_means_or_silent_or_malformed (opens : "text-".toList <+: token) :
    (∃ effect, Means .text token effect) ∨ Silent token ∨ Malformed token := by
  -- The cases come in the order in which the family looks at its words.
  by_cases gray : "gray-".toList <:+: token
  · by_cases listed : ∃ shade ∈ Vocabulary.grays.map Prod.fst, '-' :: shade <:+ token
    · obtain ⟨_, shade, last⟩ := listed
      obtain ⟨⟨shade, property, value⟩, entry, rfl⟩ := List.mem_map.mp shade
      exact .inl ⟨_, .gray opens gray entry last⟩
    · refine .inr (.inl (.gray opens gray fun shade known last => listed ⟨shade.toList, ?_, last⟩))
      exact List.mem_map_of_mem (f := String.toList) known
  · by_cases color : token ∈ Vocabulary.textColors.map Prod.fst
    · exact .inl (means_listed (by simp [tables]) color)
    · by_cases bracketed : "text-[".toList <+: token
      · by_cases readable : ∃ digits, Digits digits ∧ ofNumeral digits ≤ largest ∧
            token = "text-[".toList ++ digits ++ "px]".toList
        · obtain ⟨digits, number, fits, rfl⟩ := readable
          exact .inl ⟨_, .size number fits⟩
        · refine .inr (.inr (.size bracketed gray fun digits number fits shape => readable ?_))
          exact ⟨digits, number, fits, shape⟩
      · by_cases size : token ∈ Vocabulary.fontSizes.map Prod.fst
        · exact .inl (means_listed (by simp [tables]) size)
        · exact .inr (.inl (.text opens gray bracketed (notMem_iff.mpr color) (notMem_iff.mpr size)))

/-- The three kinds of words cover the whole grammar. -/
theorem Member.means_or_silent_or_malformed (member : Member family token) :
    (∃ effect, Means family token effect) ∨ Silent token ∨ Malformed token := by
  cases member with
  | @fixed word listed =>
    by_cases shadow : family = .shadow
    · subst shadow
      exact .inl ⟨_, .shadow (List.mem_map_of_mem (f := String.toList) listed)⟩
    · obtain ⟨table, known, key⟩ := fixed_listed shadow word listed
      exact .inl (means_listed known key)
  | @units lead digits listed number =>
    by_cases fits : ofNumeral digits * 4 ≤ largest
    · obtain ⟨spacing, known, same⟩ := exists_spacing listed
      rw [← same]
      exact .inl ⟨_, .units known number fits⟩
    · exact .inr (.inr (.spacing listed number rfl (Nat.lt_of_not_le fits)))
  | half listed =>
    obtain ⟨spacing, known, pixels, half, same⟩ := exists_halfSpacing listed
    rw [← same]
    exact .inl ⟨_, .half known half⟩
  | @opened opening listed rest =>
    cases family with
    | borderRadius =>
      obtain rfl := List.mem_singleton.mp listed
      by_cases key : "rounded".toList ++ rest ∈ Vocabulary.radii.map Prod.fst
      · exact .inl (means_listed (by simp [tables]) key)
      · exact .inr (.inl (.radius (List.prefix_append _ _) (notMem_iff.mpr key)))
    | text =>
      obtain rfl := List.mem_singleton.mp listed
      exact text_means_or_silent_or_malformed (List.prefix_append _ _)
    | flex | alignment | margin | padding | background | fontWeight | shadow => cases listed

theorem Means.ne_nothing (means : Means family token effect) : effect ≠ .nothing := by
  cases means <;> exact fun impossible => by cases impossible

private theorem effect_eq_of_resolve {owner : Family} {outcome : Except InvalidValue Effect}
    (resolved : resolve token = some (family, outcome)) (member : Member owner token) :
    Rulebook.standard.effect token owner = outcome := by
  obtain ⟨claimed, found⟩ := resolve_eq_some_iff.mp resolved
  obtain rfl := claimed.unique member
  exact found

/-- What became of a word tells which of the three kinds it is of. -/
theorem outcome_cases {outcome : Except InvalidValue Effect} (resolved : resolve token = some (family, outcome)) :
    (∃ effect, outcome = .ok effect ∧ Means family token effect) ∨ outcome = .ok .nothing ∧ Silent token ∨
      ∃ fault, outcome = .error fault ∧ fault.token = token ∧ Malformed token := by
  obtain ⟨member, found⟩ := resolve_eq_some_iff.mp resolved
  rcases member.means_or_silent_or_malformed with ⟨effect, means⟩ | silent | malformed
  · exact .inl ⟨effect, found.symm.trans means.effect_eq, means⟩
  · obtain ⟨owner, owned, nothing⟩ := silent.effect_eq
    exact .inr (.inl ⟨(effect_eq_of_resolve resolved owned).symm.trans nothing, silent⟩)
  · obtain ⟨owner, fault, owned, about, faulty⟩ := malformed.effect_eq
    exact .inr (.inr ⟨fault, (effect_eq_of_resolve resolved owned).symm.trans faulty, about, malformed⟩)

theorem resolve_writes_iff :
    resolve token = some (family, .ok effect) ∧ effect ≠ .nothing ↔ Means family token effect := by
  constructor
  · rintro ⟨resolved, writes⟩
    rcases outcome_cases resolved with ⟨_, same, means⟩ | ⟨same, _⟩ | ⟨_, same, _⟩
    · cases same
      exact means
    · cases same
      exact absurd rfl writes
    · cases same
  · intro means
    exact ⟨resolve_eq_some_iff.mpr ⟨means.member, means.effect_eq⟩, means.ne_nothing⟩

theorem resolve_nothing_iff : (∃ family, resolve token = some (family, .ok .nothing)) ↔ Silent token := by
  constructor
  · rintro ⟨family, resolved⟩
    rcases outcome_cases resolved with ⟨_, same, means⟩ | ⟨_, silent⟩ | ⟨_, same, _⟩
    · cases same
      exact absurd rfl means.ne_nothing
    · exact silent
    · cases same
  · intro silent
    obtain ⟨family, member, nothing⟩ := silent.effect_eq
    exact ⟨family, resolve_eq_some_iff.mpr ⟨member, nothing⟩⟩

theorem resolve_silent (silent : Silent token) (member : Member family token) :
    resolve token = some (family, .ok .nothing) := by
  obtain ⟨owner, resolved⟩ := resolve_nothing_iff.mpr silent
  obtain rfl := (resolve_eq_some_iff.mp resolved).1.unique member
  exact resolved

theorem malformed_of_resolve {fault : InvalidValue} (resolved : resolve token = some (family, .error fault)) :
    fault.token = token ∧ Malformed token := by
  rcases outcome_cases resolved with ⟨_, same, _⟩ | ⟨same, _⟩ | ⟨_, same, about, malformed⟩
  · cases same
  · cases same
  · cases same
    exact ⟨about, malformed⟩

theorem resolve_error_iff : (∃ family fault, resolve token = some (family, .error fault)) ↔ Malformed token := by
  constructor
  · rintro ⟨family, fault, resolved⟩
    exact (malformed_of_resolve resolved).2
  · intro malformed
    obtain ⟨family, fault, member, _, faulty⟩ := malformed.effect_eq
    exact ⟨family, fault, resolve_eq_some_iff.mpr ⟨member, faulty⟩⟩

/-- How any text is resolved. Only the words of the grammar have an owner, and a word is silent, malformed or
written to a style exactly as the grammar says. -/
theorem resolve_follows_grammar (token : Text) :
    (resolve token = none ↔ ∀ family, ¬ Member family token) ∧
    (∀ family, (∃ outcome, resolve token = some (family, outcome)) ↔ Member family token) ∧
    ((∃ family, resolve token = some (family, .ok .nothing)) ↔ Silent token) ∧
    ((∃ family fault, resolve token = some (family, .error fault)) ↔ Malformed token) ∧
    ∀ family effect, resolve token = some (family, .ok effect) ∧ effect ≠ .nothing ↔ Means family token effect := by
  refine ⟨resolve_eq_none_iff, ?_, resolve_nothing_iff, resolve_error_iff, fun _ _ => resolve_writes_iff⟩
  intro family
  constructor
  · rintro ⟨outcome, resolved⟩
    exact (resolve_eq_some_iff.mp resolved).1
  · intro member
    exact ⟨_, resolve_eq_some_iff.mpr ⟨member, rfl⟩⟩

-- A shade counts wherever the name stands in front of it, even within an open bracket.
example : resolve "text-[gray-500".toList = some (.text, .ok (.set .color (.str "#6b7280".toList))) := rfl

end Grammar
end InlineStyle
