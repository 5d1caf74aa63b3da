import InlineStyle.Spacing

/-! What spacing words mean. No lead of a table starts another one, so a word is read with one lead at most
and the order of the table plays no part. Numbers are read within a limit, which is only ever passed upwards. -/

namespace InlineStyle

section Numbers

variable {number value limit : Nat} {digits : Text}

theorem checked?_eq_none_iff : checked? number = none ↔ largest < number := by
  rw [checked?]
  split <;> simp <;> omega

theorem checked?_of_le (fits : number ≤ largest) : checked? number = some number := if_pos fits

theorem further?_eq (value : Nat) (c : Char) : further? value c = checked? (10 * value + (c.toNat - 48)) := by
  by_cases fits : 10 * value ≤ largest
  · rw [further?, checked?_of_le fits, Option.bind_eq_bind, Option.bind_some]
  · have passed : largest < 10 * value := Nat.lt_of_not_le fits
    rw [further?, checked?_eq_none_iff.mpr passed, checked?_eq_none_iff.mpr (Nat.lt_add_right _ passed)]
    rfl

theorem le_foldl_digits (value : Nat) (digits : Text) :
    value ≤ digits.foldl (fun value c => 10 * value + (c.toNat - 48)) value := by
  induction digits generalizing value with
  | nil => exact Nat.le_refl _
  | cons c digits ih => exact Nat.le_trans (by omega) (ih (10 * value + (c.toNat - 48)))

/-- Stopping at the first number above the limit loses nothing, for further digits never lead back below it. -/
theorem ofNumeral?_eq (digits : Text) : ofNumeral? digits = checked? (ofNumeral digits) := by
  have from_value (value : Nat) (fits : value ≤ largest) : digits.foldlM further? value =
      checked? (digits.foldl (fun value c => 10 * value + (c.toNat - 48)) value) := by
    induction digits generalizing value with
    | nil => exact (checked?_of_le fits).symm
    | cons c digits ih =>
      rw [List.foldlM_cons, further?_eq, List.foldl_cons]
      by_cases next : 10 * value + (c.toNat - 48) ≤ largest
      · rw [checked?_of_le next, Option.bind_eq_bind, Option.bind_some, ih _ next]
      · have passed : largest < 10 * value + (c.toNat - 48) := Nat.lt_of_not_le next
        rw [checked?_eq_none_iff.mpr passed,
          checked?_eq_none_iff.mpr (Nat.lt_of_lt_of_le passed (le_foldl_digits _ digits))]
        rfl
  exact from_value 0 (Nat.zero_le _)

end Numbers

namespace Spacing

variable {spacing other : Spacing} {table : List Spacing} {token amount : Text}

theorem amount?_eq_some_iff :
    spacing.amount? token = some amount ↔
      token = spacing.lead ++ amount ∧
        ((amount ≠ [] ∧ isNumeral amount = true) ∨ (spacing.half.isSome = true ∧ amount = halfUnit)) := by
  simp [amount?, Option.filter_eq_some_iff, Text.after?_eq_some_iff]

def Apart (table : List Spacing) : Prop :=
  ∀ first ∈ table, ∀ second ∈ table, first.lead <+: second.lead → first = second

instance (table : List Spacing) : Decidable (Apart table) :=
  inferInstanceAs (Decidable (∀ first ∈ table, ∀ second ∈ table, first.lead <+: second.lead → first = second))

theorem Apart.unique (apart : Apart table) (first : spacing ∈ table) (second : other ∈ table)
    (starts : spacing.lead <+: token) (otherStarts : other.lead <+: token) : spacing = other := by
  rcases List.prefix_or_prefix_of_prefix starts otherStarts with inside | inside
  · exact apart spacing first other second inside
  · exact (apart other second spacing first inside).symm

/-- The search finds whatever entry accepts the word, wherever it stands in the table. -/
theorem find?_eq_some_iff (apart : Apart table) :
    find? table token = some (spacing, amount) ↔ spacing ∈ table ∧ spacing.amount? token = some amount := by
  have found_of_find {found : Spacing} {rest : Text} (search : find? table token = some (found, rest)) :
      found ∈ table ∧ found.amount? token = some rest := by
    obtain ⟨entry, member, read⟩ := List.exists_of_findSome?_eq_some search
    obtain ⟨_, accepted, same⟩ := Option.map_eq_some_iff.mp read
    cases same
    exact ⟨member, accepted⟩
  constructor
  · exact found_of_find
  · rintro ⟨member, accepted⟩
    have some_found : (find? table token).isSome = true :=
      List.findSome?_isSome_iff.mpr ⟨spacing, member, by simp [accepted]⟩
    obtain ⟨⟨found, rest⟩, search⟩ := Option.isSome_iff_exists.mp some_found
    obtain ⟨foundMember, foundAccepted⟩ := found_of_find search
    have same : found = spacing := apart.unique foundMember member
      ⟨rest, (amount?_eq_some_iff.mp foundAccepted).1.symm⟩ ⟨amount, (amount?_eq_some_iff.mp accepted).1.symm⟩
    subst same
    rw [search, Option.some.inj (foundAccepted.symm.trans accepted)]

theorem find?_isSome_iff :
    (find? table token).isSome = true ↔ ∃ spacing ∈ table, (spacing.amount? token).isSome = true := by
  simp [find?, List.findSome?_isSome_iff]

private theorem halfUnit_not_numeral : isNumeral halfUnit = false := by decide

/-- Whether the number or its pixels pass the limit, the amount is refused. -/
theorem whole_eq (numeral : isNumeral amount = true) :
    pixels?.whole amount = (checked? (ofNumeral amount * pixelsPerUnit)).map Int.ofNat := by
  have enough : ofNumeral amount ≤ ofNumeral amount * pixelsPerUnit := Nat.le_mul_of_pos_right _ (by decide)
  rw [pixels?.whole, if_pos numeral, ofNumeral?_eq]
  by_cases fits : ofNumeral amount ≤ largest
  · rw [checked?_of_le fits, Option.bind_eq_bind, Option.bind_some]
    cases checked? (ofNumeral amount * pixelsPerUnit) <;> rfl
  · have passed : largest < ofNumeral amount := Nat.lt_of_not_le fits
    rw [checked?_eq_none_iff.mpr passed, checked?_eq_none_iff.mpr (Nat.lt_of_lt_of_le passed enough)]
    rfl

theorem effect_units (apart : Apart table) (member : spacing ∈ table) (nonempty : amount ≠ [])
    (numeral : isNumeral amount = true) :
    effect table (spacing.lead ++ amount) =
      if ofNumeral amount * pixelsPerUnit ≤ largest then
        .ok (.set spacing.property (.int (ofNumeral amount * pixelsPerUnit)))
      else .error ⟨spacing.lead ++ amount, .spacingOutOfRange⟩ := by
  have found : find? table (spacing.lead ++ amount) = some (spacing, amount) :=
    (find?_eq_some_iff apart).mpr ⟨member, amount?_eq_some_iff.mpr ⟨rfl, .inl ⟨nonempty, numeral⟩⟩⟩
  have notHalf : amount ≠ halfUnit := by
    rintro rfl
    rw [halfUnit_not_numeral] at numeral
    cases numeral
  have whole : spacing.pixels? amount = pixels?.whole amount := by
    cases half : spacing.half <;> simp [pixels?, half, notHalf]
  simp only [effect, found, whole, whole_eq numeral, checked?]
  by_cases fits : ofNumeral amount * pixelsPerUnit ≤ largest <;> simp [fits]

theorem effect_half (apart : Apart table) (member : spacing ∈ table) {pixels : Int} (half : spacing.half = some pixels) :
    effect table (spacing.lead ++ halfUnit) = .ok (.set spacing.property (.int pixels)) := by
  have found : find? table (spacing.lead ++ halfUnit) = some (spacing, halfUnit) :=
    (find?_eq_some_iff apart).mpr ⟨member, amount?_eq_some_iff.mpr ⟨rfl, .inr ⟨by simp [half], rfl⟩⟩⟩
  simp [effect, found, pixels?, half]

end Spacing
end InlineStyle
