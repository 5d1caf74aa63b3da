import InlineStyle.Proofs.WordRoles
import InlineStyle.Text.Utf8

/-! Bytes that are no text, in class words. They are read as a character beyond ASCII, which no word has that the grammar
spells out. So no family claims their word, unless a family is open to any ending and the word starts in its way. -/

namespace InlineStyle

def Text.Ascii (text : Text) : Prop := ∀ c ∈ text, c.toNat < 128

instance : DecidablePred Text.Ascii := fun text =>
  decidable_of_iff (text.all fun c => c.toNat < 128) (by simp [Text.Ascii])

theorem Text.Ascii.append {front back : Text} (ascii : front.Ascii) (others : back.Ascii) : (front ++ back).Ascii := by
  intro c member
  rcases List.mem_append.mp member with inside | behind
  · exact ascii c inside
  · exact others c behind

namespace Grammar

variable {family : Family} {token digits : Text}

theorem Digits.ascii (number : Digits digits) : digits.Ascii := by
  intro c member
  have digit : c.isDigit = true := List.all_eq_true.mp number.2 c member
  simp only [Char.isDigit, Bool.and_eq_true, decide_eq_true_eq, UInt32.le_iff_toNat_le] at digit
  exact Nat.lt_of_le_of_lt digit.2 (by decide)

private theorem ascii_fixed : ∀ word ∈ fixed family, Text.Ascii word.toList := by
  cases family <;> decide

private theorem ascii_leads : ∀ lead ∈ leads family, Text.Ascii lead.toList := by
  cases family <;> decide

private theorem ascii_halfLeads : ∀ lead ∈ halfLeads family, Text.Ascii lead.toList := by
  cases family <;> decide

/-- What the grammar spells out is in ASCII. -/
theorem Member.opened_of_wide (member : Member family token) (wide : ¬ token.Ascii) :
    ∃ opening ∈ openings family, opening.toList <+: token := by
  cases member with
  | fixed listed => exact absurd (ascii_fixed _ listed) wide
  | units listed number => exact absurd ((ascii_leads _ listed).append number.ascii) wide
  | half listed => exact absurd ((ascii_halfLeads _ listed).append (by decide)) wide
  | opened listed rest => exact ⟨_, listed, List.prefix_append _ _⟩

theorem resolve_wide (wide : ¬ token.Ascii) (unrounded : ¬ "rounded".toList <+: token) (other : ¬ "text-".toList <+: token) :
    resolve token = none := by
  apply resolve_eq_none_iff.mpr
  intro family member
  obtain ⟨opening, listed, starts⟩ := member.opened_of_wide wide
  cases family with
  | borderRadius =>
    obtain rfl := List.mem_singleton.mp listed
    exact unrounded starts
  | text =>
    obtain rfl := List.mem_singleton.mp listed
    exact other starts
  | flex | alignment | margin | padding | background | fontWeight | shadow => cases listed

private theorem ne_of_wide {words : List String} (ascii : ∀ word ∈ words, Text.Ascii word.toList) (wide : ¬ token.Ascii) :
    ∀ word ∈ words, token ≠ word.toList := by
  rintro word listed rfl
  exact wide (ascii word listed)

theorem silent_rounded (wide : ¬ token.Ascii) (opens : "rounded".toList <+: token) : Silent token :=
  .radius opens (ne_of_wide (by decide) wide)

theorem silent_text (wide : ¬ token.Ascii) (opens : "text-".toList <+: token) (noGray : ¬ "gray-".toList <:+: token)
    (unbracketed : ¬ "text-[".toList <+: token) : Silent token :=
  .text opens noGray unbracketed (ne_of_wide (by decide) wide) (ne_of_wide (by decide) wide)

theorem malformed_size (wide : ¬ token.Ascii) (opens : "text-[".toList <+: token) (noGray : ¬ "gray-".toList <:+: token) :
    Malformed token := by
  refine .size opens noGray ?_
  rintro digits number - rfl
  have lead : Text.Ascii "text-[".toList := by decide
  exact wide ((lead.append number.ascii).append (by decide))

end Grammar

/-- Bytes that are no text end up in a word, each piece of them at its place. No family claims such a word, which then could as
well not be there, unless it starts with `rounded` or `text-`. Those two families take it for one of their words with an
unknown ending. -/
theorem stray_bytes_in_words (bytes : List UInt8) :
    let input : Text := Text.Utf8.lossy bytes
    (∀ before after, Text.Utf8.pieces bytes = before ++ none :: after →
      ∃ first front back last : Text,
        before.map (·.getD '\ufffd') = first ++ front ∧ after.map (·.getD '\ufffd') = back ++ last ∧
          input.words = first.words ++ (front ++ '\ufffd' :: back) :: last.words) ∧
    ∀ token ∈ input.words, '\ufffd' ∈ token →
      (¬ "rounded".toList <+: token → ¬ "text-".toList <+: token →
        resolve token = none ∧ Harmless input token .ignored) ∧
      ("rounded".toList <+: token →
        resolve token = some (.borderRadius, .ok .nothing) ∧ Harmless input token .unresolved) ∧
      ("text-".toList <+: token →
        (∃ outcome, resolve token = some (.text, outcome)) ∧
        ("gray-".toList <:+: token → JudgedByShade input token) ∧
        (¬ "gray-".toList <:+: token → "text-[".toList <+: token → Refused input token) ∧
        (¬ "gray-".toList <:+: token → ¬ "text-[".toList <+: token → Harmless input token .unresolved)) := by
  intro input
  constructor
  · intro before after split
    have shown : input = before.map (·.getD '\ufffd') ++ '\ufffd' :: after.map (·.getD '\ufffd') := by
      rw [show input = (Text.Utf8.pieces bytes).map (·.getD '\ufffd') from rfl, split, List.map_append, List.map_cons,
        Option.getD_none]
    rw [shown]
    exact Text.exists_piece_around (by decide) _ _
  · intro token member stray
    have wide : ¬ token.Ascii := fun ascii => absurd (ascii _ stray) (by decide)
    refine ⟨fun unrounded other => ?_, fun opens => ?_, fun opens => ⟨?_, ?_, ?_, ?_⟩⟩
    · have unowned := Grammar.resolve_wide wide unrounded other
      exact ⟨unowned, harmless_of_unowned unowned input⟩
    · have silent := Grammar.silent_rounded wide opens
      exact ⟨Grammar.resolve_silent silent (Grammar.member_rounded opens), harmless_of_silent silent input⟩
    · exact ⟨_, Grammar.resolve_eq_some_iff.mpr ⟨Grammar.member_text opens, rfl⟩⟩
    · exact fun gray => judgedByShade opens gray input
    · exact fun noGray bracket => refused_of_malformed (Grammar.malformed_size wide bracket noGray) member
    · exact fun noGray unbracketed =>
        harmless_of_silent (Grammar.silent_text wide opens noGray unbracketed) input

/-- Bytes that are no text, alone, behind the start of a radius and within a gray. -/
theorem stray_bytes_among_words :
    let bytes : List UInt8 :=
      [0xff, 0x20] ++ Text.Utf8.encode "rounded".toList ++ [0xfe, 0x20] ++ Text.Utf8.encode "text-gray-".toList ++
        0xc3 :: Text.Utf8.encode "-500".toList
    let input := Text.Utf8.lossy bytes
    let before : List (Option Char) := none :: (" rounded".toList).map some
    let after : List (Option Char) := (" text-gray-".toList).map some ++ none :: ("-500".toList).map some
    (Text.Utf8.pieces bytes = before ++ none :: after ∧
      ∃ first front back last : Text,
        before.map (·.getD '\ufffd') = first ++ front ∧ after.map (·.getD '\ufffd') = back ++ last ∧
          input.words = first.words ++ (front ++ '\ufffd' :: back) :: last.words) ∧
      Harmless input ['\ufffd'] .ignored ∧
      Harmless input ("rounded".toList ++ ['\ufffd']) .unresolved ∧
      Applied input ("text-gray-".toList ++ '\ufffd' :: "-500".toList) [(.color, .str "#6b7280".toList)] := by
  intro bytes input before after
  have split : Text.Utf8.pieces bytes = before ++ none :: after := by decide +kernel
  have words : input.words =
      [['\ufffd'], "rounded".toList ++ ['\ufffd'], "text-gray-".toList ++ '\ufffd' :: "-500".toList] := by
    decide +kernel
  obtain ⟨shown, kinds⟩ := stray_bytes_in_words bytes
  obtain ⟨alone, -⟩ := kinds ['\ufffd'] (by rw [words]; simp) (by decide)
  obtain ⟨-, radius, -⟩ := kinds ("rounded".toList ++ ['\ufffd']) (by rw [words]; simp) (by decide)
  obtain ⟨-, -, text⟩ := kinds ("text-gray-".toList ++ '\ufffd' :: "-500".toList) (by rw [words]; simp) (by decide)
  obtain ⟨-, gray, -⟩ := text (by decide)
  have known := (gray (Text.holds_iff.mp rfl)).known ("500".toList, .color, .str "#6b7280".toList)
  exact ⟨⟨split, shown before after split⟩, (alone (by decide) (by decide)).2, (radius (by decide)).2,
    known List.mem_cons_self (by decide)⟩

/-- Words with a byte that is no text that a family claims: one is unresolved, one is a color and one is refused. -/
theorem stray_bytes_claimed :
    let stray (front back : String) : Text :=
      Text.Utf8.lossy (Text.Utf8.encode front.toList ++ 0xff :: Text.Utf8.encode back.toList)
    let radius := stray "rounded" ""
    let gray := stray "text-gray-" "-500"
    let size := stray "text-[" ""
    (radius.words = [radius] ∧ '\ufffd' ∈ radius ∧ resolve radius = some (.borderRadius, .ok .nothing) ∧
      (Styling.lenient radius).result.ignored = []) ∧
    (gray.words = [gray] ∧ '\ufffd' ∈ gray ∧ writes gray = [(.color, .str "#6b7280".toList)]) ∧
    (size.words = [size] ∧ '\ufffd' ∈ size ∧
      ∃ fault, (({ strict := true, format := .object } : Options).literal size).outcome = .error fault) := by
  intro stray radius gray size
  have radius_eq : radius = "rounded".toList ++ ['\ufffd'] := by decide +kernel
  have gray_eq : gray = "text-gray-".toList ++ '\ufffd' :: "-500".toList := by decide +kernel
  have size_eq : size = "text-[".toList ++ ['\ufffd'] := by decide +kernel
  rw [radius_eq, gray_eq, size_eq]
  exact ⟨⟨by decide +kernel, by decide, rfl, rfl⟩, ⟨by decide +kernel, by decide, rfl⟩,
    by decide +kernel, by decide, _, rfl⟩

end InlineStyle
