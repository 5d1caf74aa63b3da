import InlineStyle.Filter
import InlineStyle.Proofs.Words
import Mathlib.Data.List.TakeDrop
import Mathlib.Data.List.TakeWhile

/-! Letters alone make a directive: a threshold if they name one, and else the origin of records. -/

namespace InlineStyle

variable {text : Text}

private theorem code_of_isAlpha {c : Char} (letter : c.isAlpha = true) :
    (0x41 ≤ c.toNat ∧ c.toNat ≤ 0x5a) ∨ (0x61 ≤ c.toNat ∧ c.toNat ≤ 0x7a) := by
  have either : (c.isUpper || c.isLower) = true := letter
  rcases (Bool.or_eq_true _ _).mp either with upper | lower
  · obtain ⟨low, high⟩ : c.val ≥ 'A'.val ∧ c.val ≤ 'Z'.val := of_decide_eq_true upper
    exact .inl ⟨UInt32.le_iff_toNat_le.mp low, UInt32.le_iff_toNat_le.mp high⟩
  · obtain ⟨low, high⟩ := (Bool.and_eq_true _ _).mp lower
    exact .inr ⟨UInt32.le_iff_toNat_le.mp (of_decide_eq_true low), UInt32.le_iff_toNat_le.mp (of_decide_eq_true high)⟩

theorem Text.isAlphanumeric_of_isAlpha {c : Char} (letter : c.isAlpha = true) : Text.isAlphanumeric c = true := by
  have listed : ∀ range ∈ [(0x41, 0x5a), (0x61, 0x7a)], range ∈ Text.letters := by decide
  have found : Text.inRanges Text.letters c = true := by
    rw [Text.inRanges, List.any_eq_true]
    rcases code_of_isAlpha letter with ⟨low, high⟩ | ⟨low, high⟩
    · exact ⟨(0x41, 0x5a), listed _ (by simp), by simp [low, high]⟩
    · exact ⟨(0x61, 0x7a), listed _ (by simp), by simp [low, high]⟩
  rw [Text.isAlphanumeric, Text.isAlphabetic, found, Bool.true_or]

theorem Text.isBlank_of_isAlpha {c : Char} (letter : c.isAlpha = true) : Text.isBlank c = false := by
  have code := code_of_isAlpha letter
  simp only [Text.isBlank, Bool.or_eq_false_iff, Bool.and_eq_false_iff, decide_eq_false_iff_not, beq_eq_false_iff_ne]
  omega

theorem Text.trimmed_of_letters (letters : ∀ c ∈ text, c.isAlpha = true) : text.trimmed = text := by
  have stays {text : Text} (letters : ∀ c ∈ text, c.isAlpha = true) : text.dropWhile Text.isBlank = text := by
    cases text with
    | nil => rfl
    | cons c text => rw [List.dropWhile_cons_of_neg (by simp [Text.isBlank_of_isAlpha (letters c (by simp))])]
  have behind : ∀ c ∈ text.reverse, c.isAlpha = true := fun c member => letters c (List.mem_reverse.mp member)
  rw [Text.trimmed, stays letters, stays behind, List.reverse_reverse]

namespace Directive

theorem ofText_letters (letters : Letters text) :
    ofText text = .ok (match Threshold.named? text with
      | some threshold => { threshold }
      | none => { origin := text }) := by
  have trimmed := Text.trimmed_of_letters letters.2
  have unmarked : ∀ c ∈ text, (!(['=', '['].contains c)) = true := by
    intro c member
    have other : c ∉ ['=', '['] := Text.notMem_of_passes (letters.2 c member) (by decide)
    simpa using other
  have whole : (Rest.upTo ['=', '['] ⟨text, text⟩).2.outline = [] := by
    simp only [Rest.upTo]
    rw [List.span_eq_takeWhile_dropWhile]
    exact List.dropWhile_eq_nil_iff.2 unmarked
  obtain ⟨c, rest, shape⟩ := List.exists_cons_of_ne_nil letters.1
  have starts : startsOrigin c = true := by
    have letter : c.isAlpha = true := letters.2 c (by simp [shape])
    simp [startsOrigin, Text.isAlphanumeric_of_isAlpha letter]
  have opening : c ≠ '[' := by
    rintro rfl
    exact absurd (letters.2 '[' (by simp [shape])) (by decide)
  subst shape
  simp only [ofText, trimmed, starts, ite_true]
  rw [whole]
  cases Threshold.named? (c :: rest) <;> rfl

end Directive

namespace Filter

theorem parts_letters (letters : Letters text) : parts text = [text] := by
  have solid : ∀ c ∈ text, (c == ',') = false := by
    intro c member
    have other : c ≠ ',' := by
      rintro rfl
      exact absurd (letters.2 ',' member) (by decide)
    simpa using other
  have alone : Text.pieces (· == ',') (text ++ []) = text :: Text.pieces (· == ',') [] :=
    Text.pieces_piece letters.1 solid (by simp)
  rwa [List.append_nil] at alone

theorem complaints_letters (letters : Letters text) : complaints text = [] := by
  rw [complaints, parts_letters letters, List.filterMap_cons_none (by rw [Directive.ofText_letters letters]), List.filterMap_nil]

end Filter

/-- The name of a log level, or of no level at all, in letters of any case. -/
def LevelName (name : Text) : Prop :=
  name.map Char.toLower ∈ ["off", "error", "warn", "info", "debug", "trace"].map String.toList

instance : DecidablePred LevelName := fun _ => inferInstanceAs (Decidable (_ ∈ _))

theorem LevelName.letters {name : Text} (level : LevelName name) : Letters name := by
  have lower : ∀ word ∈ ["off", "error", "warn", "info", "debug", "trace"].map String.toList,
      word ≠ [] ∧ word.all Char.isLower = true := by decide
  obtain ⟨nonempty, letters⟩ := lower _ level
  refine ⟨by simpa using nonempty, fun c member => ?_⟩
  have small : c.toLower.isLower = true := List.all_eq_true.mp letters _ (List.mem_map_of_mem member)
  apply (Bool.or_eq_true _ _).mpr
  by_cases upper : c.isUpper = true
  · exact .inl upper
  · have same : c.toLower = c := dif_neg fun inside => upper (decide_eq_true inside)
    exact .inr (same ▸ small)

end InlineStyle
