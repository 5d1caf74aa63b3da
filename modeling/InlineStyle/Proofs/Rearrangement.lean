import InlineStyle.Proofs.Concatenation
import Mathlib.Data.List.FinRange
import Mathlib.Logic.Equiv.Defs

/-! The order of the words matters only for those that write a common property. Where these keep their order, a text with the
same words makes a style with the same values. -/

namespace InlineStyle

def Clash (token other : Text) : Prop :=
  ∃ property ∈ (writes token).map Prod.fst, property ∈ (writes other).map Prod.fst

instance (token other : Text) : Decidable (Clash token other) :=
  inferInstanceAs (Decidable (∃ property ∈ (writes token).map Prod.fst, property ∈ (writes other).map Prod.fst))

/-- The words brought into the order of the others, one occurrence to one. Occurrences that clash stay in their order. -/
structure Rearrangement (words others : List Text) where
  place : Fin words.length ≃ Fin others.length
  same : ∀ i, others[place i] = words[i]
  ordered : ∀ i j, i < j → Clash words[i] words[j] → place i < place j

def placesOf (test : Text → Bool) (words : List Text) : List (Fin words.length) :=
  (List.finRange words.length).filter fun i => test words[i]

theorem map_placesOf (test : Text → Bool) (words : List Text) : (placesOf test words).map (fun i => words[i]) = words.filter test := by
  have all : (List.finRange words.length).map (fun i => words[i]) = words := List.map_getElem_finRange words
  rw [placesOf]
  conv_rhs => rw [← all, List.filter_map]
  rfl

theorem sorted_placesOf (test : Text → Bool) (words : List Text) : (placesOf test words).Pairwise (· < ·) :=
  (List.pairwise_lt_finRange words.length).filter _

theorem nodup_placesOf (test : Text → Bool) (words : List Text) : (placesOf test words).Nodup :=
  (List.nodup_finRange words.length).filter _

theorem mem_placesOf {test : Text → Bool} {words : List Text} {i : Fin words.length} : i ∈ placesOf test words ↔ test words[i] = true := by
  rw [placesOf, List.mem_filter]
  exact and_iff_right (List.mem_finRange i)

namespace Rearrangement

variable {words others : List Text} {test : Text → Bool}

theorem perm_placesOf (rearrangement : Rearrangement words others) (test : Text → Bool) :
    ((placesOf test words).map rearrangement.place).Perm (placesOf test others) := by
  rw [List.perm_ext_iff_of_nodup ((nodup_placesOf test words).map rearrangement.place.injective) (nodup_placesOf test others)]
  intro j
  rw [List.mem_map, mem_placesOf]
  constructor
  · rintro ⟨i, member, rfl⟩
    rw [rearrangement.same]
    exact mem_placesOf.mp member
  · intro passes
    have found := rearrangement.same (rearrangement.place.symm j)
    simp only [Equiv.apply_symm_apply] at found
    exact ⟨rearrangement.place.symm j, mem_placesOf.mpr (found ▸ passes), Equiv.apply_symm_apply _ _⟩

private theorem map_placesOf_place (rearrangement : Rearrangement words others) (test : Text → Bool) :
    ((placesOf test words).map rearrangement.place).map (fun j => others[j]) = words.filter test := by
  rw [← map_placesOf, List.map_map]
  exact List.map_congr_left fun i _ => rearrangement.same i

theorem filter_perm (rearrangement : Rearrangement words others) (test : Text → Bool) :
    (words.filter test).Perm (others.filter test) := by
  rw [← map_placesOf_place rearrangement, ← map_placesOf]
  exact (rearrangement.perm_placesOf test).map _

/-- Words that all clash with each other stand in the same order in both lists. -/
theorem filter_eq (rearrangement : Rearrangement words others)
    (clash : ∀ token other, test token = true → test other = true → Clash token other) : words.filter test = others.filter test := by
  have moved : ((placesOf test words).map rearrangement.place).Pairwise (· < ·) := by
    rw [List.pairwise_map]
    apply (sorted_placesOf test words).imp_of_mem
    intro i j member otherMember before
    exact rearrangement.ordered i j before (clash _ _ (mem_placesOf.mp member) (mem_placesOf.mp otherMember))
  have places : (placesOf test words).map rearrangement.place = placesOf test others :=
    (rearrangement.perm_placesOf test).eq_of_pairwise (fun _ _ _ _ less more => absurd less (lt_asymm more)) moved
      (sorted_placesOf test others)
  rw [← map_placesOf_place rearrangement, places, map_placesOf]

end Rearrangement

/-- Only the words that write a property have a say in its value. -/
theorem Style.get?_of_writers (words : List Text) (property : Property) :
    (({} : Style).merge (words.flatMap writes)).get? property =
      (words.filter fun token => property ∈ (writes token).map Prod.fst).reverse.findSome? fun token =>
        (writes token).reverse.lookup property := by
  rw [get?_merge_groups, ← List.filter_reverse]
  induction words.reverse with
  | nil => rfl
  | cons token rest ih =>
    by_cases member : property ∈ (writes token).map Prod.fst
    · rw [List.filter_cons, if_pos (decide_eq_true member), List.findSome?_cons, List.findSome?_cons, ih]
    · rw [List.filter_cons, if_neg (by simpa using member), List.findSome?_cons, lookup_reverse_eq_none_iff.mpr member, ih]

/-- Styles with the same values differ at most in the order of their entries. -/
theorem Style.Distinct.perm_entries {style other : Style} (distinct : style.Distinct) (otherDistinct : other.Distinct)
    (values : ∀ property, style.get? property = other.get? property) : style.entries.Perm other.entries := by
  rw [List.perm_ext_iff_of_nodup distinct.of_map otherDistinct.of_map]
  rintro ⟨property, value⟩
  rw [distinct.mem_entries_iff, otherDistinct.mem_entries_iff, values]

namespace Options

/-- Two texts whose words are the same, up to an order in which words that write a common property stay as they are, make
styles with the same properties and values, and leave the same words aside. -/
theorem styling_rearranged {first second : Text} (rearrangement : Rearrangement first.words second.words) (format : Format) :
    let options : Options := { strict := false, format }
    ∃ styling other, (options.styling first).outcome = .ok styling ∧ (options.styling second).outcome = .ok other ∧
      (∀ property, styling.style.contains property = other.style.contains property) ∧
      (∀ property, styling.style.get? property = other.style.get? property) ∧
      styling.style.entries.Perm other.style.entries ∧
      styling.ignored.Perm other.ignored ∧ styling.unresolved.Perm other.unresolved := by
  intro options
  have values (property : Property) :
      (Styling.lenient first).result.style.get? property = (Styling.lenient second).result.style.get? property := by
    have writers : ∀ token other, decide (property ∈ (writes token).map Prod.fst) = true →
        decide (property ∈ (writes other).map Prod.fst) = true → Clash token other :=
      fun _ _ here there => ⟨property, of_decide_eq_true here, of_decide_eq_true there⟩
    rw [Styling.lenient_result, Styling.lenient_result, Style.get?_of_writers, Style.get?_of_writers,
      rearrangement.filter_eq writers]
  refine ⟨_, _, styling_of_lenient rfl, styling_of_lenient rfl, fun property => congrArg Option.isSome (values property), values,
    (Styling.lenient_answers first).distinct.perm_entries (Styling.lenient_answers second).distinct values, ?_, ?_⟩
  · rw [Styling.lenient_result, Styling.lenient_result]
    exact rearrangement.filter_perm _
  · rw [Styling.lenient_result, Styling.lenient_result]
    exact rearrangement.filter_perm _

/-- Two paddings keep their order, and the other words move around them. -/
theorem styling_rearranged_around_paddings :
    let first : Text := "p-4 shadow mb-2 wide p-1 text-[]".toList
    let second : Text := "text-[] mb-2 p-4 wide p-1 shadow".toList
    let style := (Styling.lenient first).result.style
    let other := (Styling.lenient second).result.style
    style.keys ≠ other.keys ∧ (∀ property, style.get? property = other.get? property) ∧ style.entries.Perm other.entries := by
  intro first second style other
  let words : List Text := ["p-4".toList, "shadow".toList, "mb-2".toList, "wide".toList, "p-1".toList, "text-[]".toList]
  let others : List Text := ["text-[]".toList, "mb-2".toList, "p-4".toList, "wide".toList, "p-1".toList, "shadow".toList]
  let place : Fin 6 ≃ Fin 6 :=
    { toFun := ([2, 5, 1, 3, 4, 0][·])
      invFun := ([5, 2, 0, 3, 4, 1][·])
      left_inv := by intro i; decide +revert
      right_inv := by intro i; decide +revert }
  have listed : first.words = words := by decide +kernel
  have otherListed : second.words = others := by decide +kernel
  have rearrangement : Rearrangement first.words second.words := by
    rw [listed, otherListed]
    exact { place, same := by decide +kernel, ordered := by decide +kernel }
  obtain ⟨_, _, made, otherMade, -, values, entries, -⟩ := styling_rearranged rearrangement .object
  obtain rfl := styling_of_ok made
  obtain rfl := styling_of_ok otherMade
  exact ⟨by decide +kernel, values, entries⟩

end Options
end InlineStyle
