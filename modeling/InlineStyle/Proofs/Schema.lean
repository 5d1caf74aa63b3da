import InlineStyle.Proofs.LenientStyling
import Mathlib.Data.List.Nodup
import Mathlib.Data.List.Perm.Subperm

/-! Every property has a schema: the words, numbers or objects that it can stand for. Each word of a class text
that writes a property keeps to the schema, and so does the style that a whole text makes. -/

namespace InlineStyle

namespace Property

def words : Property → List String
  | .flexDirection => ["row", "column"]
  | .alignItems => ["center", "flex-start", "flex-end"]
  | .justifyContent => ["center", "space-between", "flex-end"]
  | .backgroundColor => ["white", "#f9fafb", "#f3f4f6", "#e07a5f"]
  | .color => ["#6b7280", "#4b5563", "#374151", "#1f2937", "white", "#e07a5f"]
  | .fontWeight => ["bold", "500"]
  | .shadowColor => ["#000"]
  | _ => []

def takes : Property → Nat → Bool
  | .flex, number => number == 1
  | .marginTop, number | .marginBottom, number => number % 4 == 0 || number == 2
  | .marginLeft, number | .marginRight, number => number % 4 == 0
  | .padding, number | .paddingHorizontal, number | .paddingVertical, number => number % 4 == 0 || number == 6
  | .borderRadius, number => [4, 8, 12, 16, 9999].contains number
  | .fontSize, _ => true
  | .shadowRadius, number => number == 2
  | _, _ => false

inductive Fits : Property → Value → Prop where
  | word {property : Property} {word : String} (listed : word ∈ property.words) : Fits property (.str word.toList)
  | measure {property : Property} {number : Nat} (bounded : number ≤ largest) (taken : property.takes number = true) :
      Fits property (.int number)
  | offset : Fits .shadowOffset (.map [("width".toList, .int 0), ("height".toList, .int 1)])
  | opacity : Fits .shadowOpacity (.float ⟨0x3fb999999999999a⟩)

def checks (property : Property) : Value → Bool
  | .int value => 0 ≤ value && value.toNat ≤ largest && property.takes value.toNat
  | .str text => (property.words.map String.toList).contains text
  | _ => false

theorem fits_of_checks {property : Property} {value : Value} (checked : property.checks value = true) :
    property.Fits value := by
  cases value with
  | int value =>
    simp only [checks, Bool.and_eq_true, decide_eq_true_eq] at checked
    obtain ⟨⟨natural, bounded⟩, taken⟩ := checked
    rw [← Int.toNat_of_nonneg natural]
    exact .measure bounded taken
  | str text =>
    obtain ⟨word, listed, rfl⟩ := List.mem_map.mp (List.contains_iff_mem.mp checked)
    exact .word listed
  | float value | map fields => cases checked

theorem words_unquoted {property : Property} : ∀ word ∈ property.words, '\'' ∉ word.toList := by
  cases property <;> decide

theorem name_letters {property : Property} : ∀ c ∈ property.name, c.isAlpha = true := by
  have checked : property.name.all Char.isAlpha = true := by
    cases property <;> decide
  exact List.all_eq_true.mp checked

theorem mem_all (property : Property) : property ∈ all := by
  cases property <;> decide

theorem distinct_names : (all.map name).Nodup := by
  decide

theorem name_injective {first second : Property} (same : first.name = second.name) : first = second :=
  List.inj_on_of_nodup_map distinct_names first.mem_all second.mem_all same

end Property

namespace Grammar

variable {family : Family} {token : Text} {effect : Effect}

private theorem checks_listed :
    ∀ table ∈ tables family, ∀ entry ∈ table, entry.2.1.checks entry.2.2 = true := by
  cases family <;> decide

private theorem takes_units {spacing : Spacing} (known : spacing ∈ spacings family) (units : Nat) :
    spacing.property.takes (units * Spacing.pixelsPerUnit) = true := by
  have multiple : units * Spacing.pixelsPerUnit % 4 = 0 := Nat.mul_mod_left _ _
  have takes : ∀ property ∈ (spacings family).map Spacing.property, ∀ number : Nat, number % 4 = 0 →
      property.takes number = true := by
    cases family <;> simp +contextual [spacings, Spacing.margins, Spacing.paddings, Property.takes]
  exact takes _ (List.mem_map_of_mem known) _ multiple

private theorem checks_half :
    ∀ spacing ∈ spacings family, ∀ pixels ∈ spacing.half, spacing.property.checks (.int pixels) = true := by
  cases family <;> decide

/-- A word of the grammar writes values that fit their properties. -/
theorem Means.fits (means : Means family token effect) : ∀ field ∈ effect.fields, field.1.Fits field.2 := by
  have single {property : Property} {value : Value} (fits : property.Fits value) :
      ∀ field ∈ [(property, value)], field.1.Fits field.2 :=
    fun field member => List.mem_singleton.mp member ▸ fits
  cases means with
  | listed known entry => exact single (Property.fits_of_checks (checks_listed _ known _ entry))
  | units known number fits => exact single (.measure fits (takes_units known _))
  | half known half => exact single (Property.fits_of_checks (checks_half _ known _ half))
  | gray opens gray entry last =>
    have checked : ∀ entry ∈ Vocabulary.grays, entry.2.1.checks entry.2.2 = true := by decide
    exact single (Property.fits_of_checks (checked _ entry))
  | size number fits => exact single (.measure fits rfl)
  | shadow listed =>
    intro field member
    simp only [Effect.fields, Vocabulary.shadowFields, List.mem_cons, List.not_mem_nil, or_false] at member
    rcases member with rfl | rfl | rfl | rfl
    · exact Property.fits_of_checks (by decide)
    · exact .offset
    · exact .opacity
    · exact Property.fits_of_checks (by decide)

end Grammar

theorem fits_of_mem_writes {token : Text} {field : Property × Value} (member : field ∈ writes token) :
    field.1.Fits field.2 := by
  rcases resolved : resolve token with _ | ⟨family, fault | effect⟩
  · simp [writes, resolved] at member
  · simp [writes, resolved] at member
  · simp only [writes, resolved] at member
    have effective : effect ≠ .nothing := by
      rintro rfl
      cases member
    exact (Grammar.resolve_writes_iff.mp ⟨resolved, effective⟩).fits field member

namespace Style

/-- Every property has one value, which fits it. -/
structure Fitting (style : Style) : Prop where
  distinct : style.Distinct
  fits : ∀ entry ∈ style.entries, entry.1.Fits entry.2

variable {style : Style}

theorem fitting_empty : ({} : Style).Fitting := ⟨distinct_empty, by simp⟩

theorem Fitting.merge {fields : List (Property × Value)} (fitting : style.Fitting)
    (fits : ∀ field ∈ fields, field.1.Fits field.2) : (style.merge fields).Fitting := by
  refine ⟨fitting.distinct.merge fields, ?_⟩
  intro entry member
  rcases mem_merge member with before | written
  · exact fitting.fits entry before
  · exact fits entry written

theorem Distinct.length_le (distinct : style.Distinct) : style.entries.length ≤ 20 := by
  have inside : style.keys ⊆ Property.all := fun property _ => property.mem_all
  have bound := (List.subperm_of_subset distinct inside).length_le
  rwa [keys, List.length_map] at bound

end Style

theorem Styling.fitting_lenient (input : Text) : (lenient input).result.style.Fitting := by
  rw [lenient_result]
  apply Style.fitting_empty.merge
  intro field member
  obtain ⟨token, _, written⟩ := List.mem_flatMap.mp member
  exact fits_of_mem_writes written

end InlineStyle
