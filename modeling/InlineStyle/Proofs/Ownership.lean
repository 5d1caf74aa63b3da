import InlineStyle.Proofs.Amounts
import InlineStyle.Proofs.Grammar

/-! Each word has at most one owner: the rulebook claims the words of the grammar for the families that they
belong to, and asks no other family what they mean. -/

namespace InlineStyle
open Grammar

theorem Vocabulary.knows_iff {table : Table} {token : Text} :
    knows table token = true ↔ token ∈ table.map Prod.fst := lookup_isSome_iff_mem

namespace Grammar

variable {family : Family} {token : Text}

private theorem member_iff_fixed (noLeads : leads family = []) (noHalves : halfLeads family = [])
    (noOpenings : openings family = []) : Member family token ↔ token ∈ (fixed family).map String.toList := by
  constructor
  · intro member
    cases member with
    | fixed listed => exact List.mem_map.mpr ⟨_, listed, rfl⟩
    | units listed _ => simp [noLeads] at listed
    | half listed => simp [noHalves] at listed
    | opened listed _ => simp [noOpenings] at listed
  · intro listed
    obtain ⟨word, member, rfl⟩ := List.mem_map.mp listed
    exact .fixed member

theorem leads_spacings : (spacings family).map Spacing.lead = (leads family).map String.toList := by
  cases family <;> rfl

theorem halfLeads_spacings :
    ((spacings family).filter (·.half.isSome)).map Spacing.lead = (halfLeads family).map String.toList := by
  cases family <;> rfl

theorem exists_spacing {lead : String} (listed : lead ∈ leads family) :
    ∃ spacing ∈ spacings family, spacing.lead = lead.toList :=
  List.mem_map.mp (leads_spacings ▸ List.mem_map.mpr ⟨lead, listed, rfl⟩)

theorem exists_halfSpacing {lead : String} (listed : lead ∈ halfLeads family) :
    ∃ spacing ∈ spacings family, ∃ pixels, spacing.half = some pixels ∧ spacing.lead = lead.toList := by
  obtain ⟨spacing, known, same⟩ := List.mem_map.mp (halfLeads_spacings ▸ List.mem_map.mpr ⟨lead, listed, rfl⟩)
  obtain ⟨known, half⟩ := List.mem_filter.mp known
  obtain ⟨pixels, half⟩ := Option.isSome_iff_exists.mp half
  exact ⟨spacing, known, pixels, half, same⟩

private theorem member_iff_amount (noFixed : fixed family = []) (noOpenings : openings family = []) :
    Member family token ↔ ∃ spacing ∈ spacings family, (spacing.amount? token).isSome = true := by
  constructor
  · intro member
    cases member with
    | fixed listed => simp [noFixed] at listed
    | units listed number =>
      obtain ⟨spacing, known, same⟩ := exists_spacing listed
      have read := Spacing.amount?_eq_some_iff.mpr ⟨by rw [same], .inl number⟩
      exact ⟨spacing, known, Option.isSome_iff_exists.mpr ⟨_, read⟩⟩
    | half listed =>
      obtain ⟨spacing, known, pixels, half, same⟩ := exists_halfSpacing listed
      have read := Spacing.amount?_eq_some_iff.mpr ⟨by rw [same], .inr ⟨by rw [half, Option.isSome_some], rfl⟩⟩
      exact ⟨spacing, known, Option.isSome_iff_exists.mpr ⟨_, read⟩⟩
    | opened listed _ => simp [noOpenings] at listed
  · rintro ⟨spacing, known, read⟩
    obtain ⟨amount, read⟩ := Option.isSome_iff_exists.mp read
    obtain ⟨rfl, number | ⟨half, rfl⟩⟩ := Spacing.amount?_eq_some_iff.mp read
    · obtain ⟨lead, listed, same⟩ := List.mem_map.mp (leads_spacings ▸ List.mem_map.mpr ⟨spacing, known, rfl⟩)
      exact same ▸ .units listed number
    · have takesHalf : spacing ∈ (spacings family).filter (·.half.isSome) := List.mem_filter.mpr ⟨known, half⟩
      obtain ⟨lead, listed, same⟩ := List.mem_map.mp (halfLeads_spacings ▸ List.mem_map.mpr ⟨spacing, takesHalf, rfl⟩)
      exact same ▸ .half listed

private theorem member_iff_opening {opening : String} (noFixed : fixed family = []) (noLeads : leads family = [])
    (noHalves : halfLeads family = []) (only : openings family = [opening]) :
    Member family token ↔ opening.toList <+: token := by
  constructor
  · intro member
    cases member with
    | fixed listed => simp [noFixed] at listed
    | units listed _ => simp [noLeads] at listed
    | half listed => simp [noHalves] at listed
    | opened listed rest =>
      obtain rfl : _ = opening := by simpa [only] using listed
      exact List.prefix_append _ _
  · rintro ⟨rest, rfl⟩
    exact .opened (by simp [only]) rest

theorem claims_iff_member : Rulebook.standard.claims token family = true ↔ Member family token := by
  cases family with
  | flex => rw [member_iff_fixed rfl rfl rfl]; exact Vocabulary.knows_iff
  | alignment => rw [member_iff_fixed rfl rfl rfl]; exact Vocabulary.knows_iff
  | margin => rw [member_iff_amount rfl rfl]; exact Spacing.find?_isSome_iff
  | padding => rw [member_iff_amount rfl rfl]; exact Spacing.find?_isSome_iff
  | background => rw [member_iff_fixed rfl rfl rfl]; exact Vocabulary.knows_iff
  | borderRadius => rw [member_iff_opening rfl rfl rfl rfl]; exact Text.after?_isSome_iff
  | text => rw [member_iff_opening rfl rfl rfl rfl]; exact Text.after?_isSome_iff
  | fontWeight => rw [member_iff_fixed rfl rfl rfl]; exact Vocabulary.knows_iff
  | shadow => rw [member_iff_fixed rfl rfl rfl]; exact List.contains_iff_mem

private theorem mem_families : family ∈ Rulebook.standard.families := by
  cases family <;> decide

/-- A word is resolved by the family that it belongs to and by no other. -/
theorem resolve_eq_some_iff {outcome : Except InvalidValue Effect} :
    resolve token = some (family, outcome) ↔
      Member family token ∧ Rulebook.standard.effect token family = outcome := by
  simp only [resolve, Rulebook.resolve, Option.map_eq_some_iff, Prod.mk.injEq]
  constructor
  · rintro ⟨owner, found, rfl, rfl⟩
    exact ⟨claims_iff_member.mp (List.find?_some found), rfl⟩
  · rintro ⟨member, rfl⟩
    have claimed : (Rulebook.standard.families.find? (Rulebook.standard.claims token)).isSome = true :=
      List.find?_isSome.mpr ⟨family, mem_families, claims_iff_member.mpr member⟩
    obtain ⟨owner, found⟩ := Option.isSome_iff_exists.mp claimed
    obtain rfl := (claims_iff_member.mp (List.find?_some found)).unique member
    exact ⟨owner, found, rfl, rfl⟩

theorem resolve_eq_none_iff : resolve token = none ↔ ∀ family, ¬ Member family token := by
  constructor
  · intro unclaimed family member
    have owned := resolve_eq_some_iff.mpr ⟨member, rfl⟩
    rw [unclaimed] at owned
    cases owned
  · intro unowned
    cases resolved : resolve token with
    | none => rfl
    | some result => exact absurd (resolve_eq_some_iff.mp resolved).1 (unowned result.1)

end Grammar
end InlineStyle
