import InlineStyle.Proofs.StrictStyling
import InlineStyle.Proofs.StyleMerge
import InlineStyle.Proofs.LenientStyling

/-! Styling a text part by part. Where blanks part a text, the style of the whole is that of the first part with the
entries of the second one merged into it, and the words without an effect are those of both parts. -/

namespace InlineStyle

variable {input left right inserted : Text}

namespace Styling

theorem lenient_append (words : input.words = left.words ++ right.words) :
    (lenient input).result =
      { style := (lenient left).result.style.merge (lenient right).result.style.entries
        ignored := (lenient left).result.ignored ++ (lenient right).result.ignored
        unresolved := (lenient left).result.unresolved ++ (lenient right).result.unresolved } := by
  rw [lenient_result input, lenient_result left, lenient_result right, words, List.flatMap_append, Style.merge_append,
    Style.merge_compact, List.filter_append, List.filter_append]

/-- What makes no style of its own writes nothing. -/
theorem style_lenient_insert (words : input.words = left.words ++ inserted.words ++ right.words)
    (idle : (lenient inserted).result.style.isEmpty = true) :
    (lenient input).result.style = ({} : Style).merge ((left.words ++ right.words).flatMap writes) := by
  have unwritten : inserted.words.flatMap writes = [] :=
    List.flatMap_eq_nil_iff.mpr fun token member =>
      writes_of_fate ((isEmpty_lenient_iff inserted).mp idle token member)
  rw [lenient_result, words]
  simp only [List.flatMap_append, unwritten, List.append_nil]

end Styling

open Text in
theorem Text.words_insert (before : Parted isBlank left inserted) (behind : Parted isBlank inserted right)
    (apart : Parted isBlank left right) :
    (left ++ inserted ++ right).words = left.words ++ inserted.words ++ right.words := by
  cases inserted with
  | nil => simpa [words, pieces] using words_append apart
  | cons c inserted => exact words_around (List.cons_ne_nil c inserted) before behind

namespace Options

theorem style_of_lenient {options : Options} (lenient : options.strict = false) :
    (options.style input).outcome = .ok (Styling.lenient input).result.style := by
  rw [style_outcome, styling_of_lenient lenient]
  rfl

/-- Blanks part a text into texts that can be styled on their own. So saying a text twice makes the style that it makes
once, and neither does text change a style that makes none of its own and stands apart. -/
theorem styling_append {gap : Text} (blank : Text.Blank gap) (format : Format) (left right : Text) :
    let options : Options := { strict := false, format }
    (∃ first second,
      (options.styling left).outcome = .ok first ∧ (options.styling right).outcome = .ok second ∧
      (options.styling (left ++ gap ++ right)).outcome = .ok
        { style := first.style.merge second.style.entries
          ignored := first.ignored ++ second.ignored
          unresolved := first.unresolved ++ second.unresolved }) ∧
    (options.style (left ++ gap ++ left)).outcome = (options.style left).outcome ∧
    ∀ inserted style, (options.style inserted).outcome = .ok style → style.isEmpty = true →
      Text.Parted Text.isBlank left inserted → Text.Parted Text.isBlank inserted right →
      Text.Parted Text.isBlank left right →
      (options.style (left ++ inserted ++ right)).outcome = (options.style (left ++ right)).outcome := by
  intro options
  refine ⟨⟨(Styling.lenient left).result, (Styling.lenient right).result, styling_of_lenient rfl, styling_of_lenient rfl, ?_⟩,
    ?_, ?_⟩
  · rw [styling_of_lenient rfl, Styling.lenient_append (Text.words_append_blank blank left right)]
  · have twice := Styling.lenient_append (Text.words_append_blank blank left left)
    rw [style_of_lenient rfl, style_of_lenient rfl, twice, (Styling.lenient_answers left).distinct.merge_self]
  · intro inserted style made idle before behind apart
    have unstyled : (Styling.lenient inserted).result.style.isEmpty = true := by
      rwa [style_of_ok made]
    rw [style_of_lenient rfl, style_of_lenient rfl,
      Styling.style_lenient_insert (Text.words_insert before behind apart) unstyled, Styling.lenient_result (left ++ right),
      Text.words_append apart]

/-- A shadow and a padding, each written again behind a wide blank, and words in front of that blank that have no effect. -/
theorem styling_append_of_overwrites :
    let left := "p-4 shadow".toList
    let right := "\u3000p-1 shadow-sm w-full text-[]".toList
    let options : Options := { strict := false, format := .jsx }
    let shadowed (pixels : Int) : Style := ⟨(.padding, .int pixels) :: Vocabulary.shadowFields⟩
    ((options.styling left).outcome = .ok { style := shadowed 16 } ∧
      (options.styling right).outcome =
        .ok { style := shadowed 4, ignored := ["w-full".toList], unresolved := ["text-[]".toList] } ∧
      (options.styling (left ++ ['\t'] ++ right)).outcome =
        .ok { style := shadowed 4, ignored := ["w-full".toList], unresolved := ["text-[]".toList] }) ∧
    (options.style (left ++ ['\t'] ++ left)).outcome = .ok (shadowed 16) ∧
    (options.style (left ++ " rounded-x q".toList ++ right)).outcome = .ok (shadowed 4) := by
  intro left right options shadowed
  have tab : Text.Blank ['\t'] := by decide
  obtain ⟨⟨first, second, front, behind, joined⟩, twice, within⟩ := styling_append tab .jsx left right
  have inserted := within " rounded-x q".toList {} rfl rfl (by decide +kernel) (by decide +kernel) (by decide +kernel)
  obtain rfl : { style := shadowed 16 } = first := Except.ok.inj (.trans rfl front)
  obtain rfl : { style := shadowed 4, ignored := ["w-full".toList], unresolved := ["text-[]".toList] } = second :=
    Except.ok.inj (.trans rfl behind)
  exact ⟨⟨front, behind, joined⟩, twice.trans rfl, inserted.trans rfl⟩

end Options
end InlineStyle
