import InlineStyle.Proofs.Resolution
import Mathlib.Data.List.Nodup

/-! The order of the rules plays no part. At most one family claims a word and at most one entry of a spacing table
accepts it, so it decides nothing which of them is asked first. -/

namespace InlineStyle

/-- What passes a test in a list is all there is to find, if the test leaves no choice. -/
private theorem filter_eq_toList {α : Type} [DecidableEq α] {items : List α} {test : α → Bool} {found : Option α}
    (distinct : items.Nodup) (only : ∀ item, found = some item ↔ item ∈ items ∧ test item = true) :
    items.filter test = found.toList := by
  cases found with
  | none =>
    apply List.filter_eq_nil_iff.mpr
    intro item member passes
    cases (only item).mpr ⟨member, passes⟩
  | some found =>
    obtain ⟨member, passes⟩ := (only found).mp rfl
    have alone : ∀ item ∈ items, test item = (item == found) := by
      intro item inside
      by_cases same : item = found
      · simp [same, passes]
      · have fails : ¬ test item = true := fun other => same (Option.some.inj ((only item).mpr ⟨inside, other⟩)).symm
        simp [same, fails]
    rw [List.filter_congr alone, List.filter_beq, List.count_eq_one_of_mem distinct member]
    rfl

namespace Spacing

variable {table other : List Spacing} {token : Text}

theorem Apart.perm (apart : Apart table) (reordered : other.Perm table) : Apart other :=
  fun first member second otherMember =>
    apart first (reordered.mem_iff.mp member) second (reordered.mem_iff.mp otherMember)

theorem find?_perm (apart : Apart table) (reordered : other.Perm table) (token : Text) :
    find? other token = find? table token := by
  apply Option.ext
  rintro ⟨spacing, amount⟩
  rw [find?_eq_some_iff (apart.perm reordered), find?_eq_some_iff apart, reordered.mem_iff]

theorem effect_perm (apart : Apart table) (reordered : other.Perm table) (token : Text) :
    effect other token = effect table token := by
  simp only [effect, find?_perm apart reordered]

def accepting (table : List Spacing) (token : Text) : List Spacing :=
  table.filter fun spacing => (spacing.amount? token).isSome

theorem accepting_eq (apart : Apart table) (distinct : table.Nodup) (token : Text) :
    accepting table token = ((find? table token).map Prod.fst).toList := by
  apply filter_eq_toList distinct
  intro spacing
  simp only [Option.map_eq_some_iff, Prod.exists, find?_eq_some_iff apart, exists_and_right, exists_eq_right,
    Option.isSome_iff_exists, exists_and_left]

theorem length_accepting_le (apart : Apart table) (distinct : table.Nodup) (token : Text) :
    (accepting table token).length ≤ 1 := by
  rw [accepting_eq apart distinct]
  cases (find? table token).map Prod.fst <;> simp

end Spacing

namespace Rulebook

/-- The same families and the same entries of spacing tables, in any order. -/
structure Reordered (book other : Rulebook) : Prop where
  families : book.families.Perm other.families
  margins : book.margins.Perm other.margins
  paddings : book.paddings.Perm other.paddings

variable {book : Rulebook} {token : Text} {family : Family}

private theorem apart_margins : Spacing.Apart standard.margins := @Grammar.apart_spacings .margin

private theorem apart_paddings : Spacing.Apart standard.paddings := @Grammar.apart_spacings .padding

theorem Reordered.claims_eq (reordered : book.Reordered standard) (token : Text) (family : Family) :
    book.claims token family = standard.claims token family := by
  cases family with
  | margin => simp only [claims, Spacing.find?_perm apart_margins reordered.margins]
  | padding => simp only [claims, Spacing.find?_perm apart_paddings reordered.paddings]
  | flex | alignment | background | borderRadius | text | fontWeight | shadow => rfl

theorem Reordered.effect_eq (reordered : book.Reordered standard) (token : Text) (family : Family) :
    book.effect token family = standard.effect token family := by
  cases family with
  | margin => exact Spacing.effect_perm apart_margins reordered.margins token
  | padding => exact Spacing.effect_perm apart_paddings reordered.paddings token
  | flex | alignment | background | borderRadius | text | fontWeight | shadow => rfl

theorem resolve_eq_head? (book : Rulebook) (token : Text) : book.resolve token = (book.claimants token).head? := by
  rw [resolve, claimants, List.head?_map, List.head?_filter]

/-- Whatever the order, a word is claimed by its owner alone. -/
theorem Reordered.claimants_eq (reordered : book.Reordered standard) (token : Text) :
    book.claimants token = (InlineStyle.resolve token).toList := by
  have distinct : book.families.Nodup := reordered.families.nodup_iff.mpr (by decide)
  have every (family : Family) : family ∈ book.families :=
    reordered.families.mem_iff.mpr (by cases family <;> decide)
  have owner : book.families.filter (book.claims token) = ((InlineStyle.resolve token).map Prod.fst).toList := by
    apply filter_eq_toList distinct
    intro family
    simp only [Option.map_eq_some_iff, Prod.exists, Grammar.resolve_eq_some_iff, exists_and_right, exists_eq_right,
      exists_and_left, exists_eq', and_true, every, true_and, reordered.claims_eq, Grammar.claims_iff_member]
  rw [claimants, owner]
  cases resolved : InlineStyle.resolve token with
  | none => rfl
  | some result =>
    have made : book.effect token result.1 = result.2 :=
      (reordered.effect_eq token result.1).trans (Grammar.resolve_eq_some_iff.mp resolved).2
    simp [made]

/-- A word has at most one owner among the families and at most one lead in each spacing table. So every order of the
families and of the two tables gives it the same claimants and resolves it in the same way. -/
theorem one_owner_in_any_order (token : Text) :
    (standard.claimants token).length ≤ 1 ∧
    (Spacing.accepting standard.margins token).length ≤ 1 ∧
    (Spacing.accepting standard.paddings token).length ≤ 1 ∧
    ∀ book : Rulebook, book.Reordered standard →
      book.claimants token = standard.claimants token ∧ book.resolve token = InlineStyle.resolve token := by
  have whole : standard.Reordered standard := ⟨.refl _, .refl _, .refl _⟩
  have owner := whole.claimants_eq token
  refine ⟨?_, Spacing.length_accepting_le apart_margins (by decide) token,
    Spacing.length_accepting_le apart_paddings (by decide) token, fun book reordered => ?_⟩
  · rw [owner]
    cases InlineStyle.resolve token <;> simp
  · have claimants := reordered.claimants_eq token
    refine ⟨claimants.trans owner.symm, ?_⟩
    rw [resolve_eq_head?, claimants]
    cases InlineStyle.resolve token <;> rfl

/-- A word whose lead starts like another one, in a book that is read from behind. -/
theorem one_owner_from_behind :
    let backwards : Rulebook :=
      ⟨standard.families.reverse, standard.margins.reverse, standard.paddings.reverse⟩
    backwards.Reordered standard ∧
      backwards.claimants "px-0.5".toList = standard.claimants "px-0.5".toList ∧
      backwards.resolve "px-0.5".toList = some (.padding, .ok (.set .paddingHorizontal (.int 6))) := by
  intro backwards
  have reordered : backwards.Reordered standard :=
    ⟨List.reverse_perm _, List.reverse_perm _, List.reverse_perm _⟩
  obtain ⟨-, -, -, same⟩ := one_owner_in_any_order "px-0.5".toList
  obtain ⟨claimants, resolved⟩ := same backwards reordered
  exact ⟨reordered, claimants, resolved.trans rfl⟩

end Rulebook
end InlineStyle
