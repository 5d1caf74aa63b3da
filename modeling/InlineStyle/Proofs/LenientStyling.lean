import InlineStyle.Proofs.Resolution
import InlineStyle.Proofs.WordRun
import InlineStyle.Proofs.Words

/-! A lenient styling of a text is determined by its words: each of them is ignored, unresolved or applied, and
the style has the properties that they write, where the first word that writes one gives it its place and the
last one its value. -/

namespace InlineStyle

variable {token : Text}

/-- A word that is applied writes one property or all those of a shadow. -/
theorem writes_of_applied (applied : fate token = .applied) :
    (∃ property value, writes token = [(property, value)]) ∨ writes token = Vocabulary.shadowFields := by
  rcases resolved : resolve token with _ | ⟨family, fault | effect⟩
  · simp [fate, resolved] at applied
  · simp [fate, resolved] at applied
  · cases effect with
    | nothing => simp [fate, resolved] at applied
    | set property value => exact .inl ⟨property, value, by simp [writes, resolved, Effect.fields]⟩
    | merge fields =>
      have means := Grammar.resolve_writes_iff.mp ⟨resolved, by simp⟩
      cases means with
      | shadow _ => exact .inr (by simp [writes, resolved, Effect.fields])

theorem writes_eq_nil_iff : writes token = [] ↔ fate token ≠ .applied := by
  constructor
  · intro idle applied
    rcases writes_of_applied applied with ⟨property, value, written⟩ | written
    · cases idle.symm.trans written
    · cases idle.symm.trans written
  · exact Styling.writes_of_fate

theorem distinct_writes (token : Text) : ((writes token).map Prod.fst).Nodup := by
  by_cases applied : fate token = .applied
  · rcases writes_of_applied applied with ⟨property, value, written⟩ | written
    · simp [written]
    · rw [written]
      decide
  · simp [writes_eq_nil_iff.mpr applied]

namespace Styling

structure Answers (styling : Styling) (words : List Text) : Prop where
  ignored : styling.ignored = words.filter (fate · = .ignored)
  unresolved : styling.unresolved = words.filter (fate · = .unresolved)
  /-- Every word is in one of the lists or applied, as often as it stands in the text. -/
  accounted : (styling.ignored ++ styling.unresolved ++ words.filter (fate · = .applied)).Perm words
  complete : styling.isComplete = true ↔ ∀ token ∈ words, fate token = .applied
  written : ∀ property, styling.style.contains property = true ↔
    ∃ token ∈ words, property ∈ (writes token).map Prod.fst
  distinct : styling.style.Distinct
  /-- The properties stand in the order of the first words that write them. -/
  first : styling.style.keys = (words.flatMap fun token => (writes token).map Prod.fst).eraseDups
  last : ∀ property value, (property, value) ∈ styling.style.entries ↔
    ∃ before token after, words = before ++ token :: after ∧ (property, value) ∈ writes token ∧
      ∀ later ∈ after, property ∉ (writes later).map Prod.fst

private theorem accounted_words (words : List Text) :
    (words.filter (fate · = .ignored) ++ words.filter (fate · = .unresolved) ++ words.filter (fate · = .applied)).Perm
      words := by
  induction words with
  | nil => exact .nil
  | cons token words ih =>
    cases become : fate token with
    | ignored => simpa [become] using ih
    | unresolved =>
      rw [List.append_assoc] at ih ⊢
      simpa [become] using List.perm_middle.trans (ih.cons token)
    | applied => simpa [become] using List.perm_middle.trans (ih.cons token)

private theorem isComplete_iff {styling : Styling} {words : List Text}
    (ignored : styling.ignored = words.filter (fate · = .ignored))
    (unresolved : styling.unresolved = words.filter (fate · = .unresolved)) :
    styling.isComplete = true ↔ ∀ token ∈ words, fate token = .applied := by
  simp only [isComplete, ignored, unresolved, Bool.and_eq_true, List.isEmpty_iff, List.filter_eq_nil_iff,
    decide_eq_true_eq]
  constructor
  · rintro ⟨owned, resolved⟩ token member
    cases become : fate token with
    | ignored => exact absurd become (owned token member)
    | unresolved => exact absurd become (resolved token member)
    | applied => rfl
  · intro applied
    exact ⟨fun token member => by simp [applied token member], fun token member => by simp [applied token member]⟩

theorem lenient_answers (input : Text) : (lenient input).result.Answers input.words := by
  have distinct : (lenient input).result.style.Distinct := by
    rw [lenient_result]
    exact Style.distinct_empty.merge _
  have first : (lenient input).result.style.keys =
      (input.words.flatMap fun token => (writes token).map Prod.fst).eraseDups := by
    rw [lenient_result, Style.keys_merge Style.distinct_empty, List.map_flatMap]
    rfl
  have ignored : (lenient input).result.ignored = input.words.filter (fate · = .ignored) := by rw [lenient_result]
  have unresolved : (lenient input).result.unresolved = input.words.filter (fate · = .unresolved) := by
    rw [lenient_result]
  refine { ignored, unresolved, first, distinct, complete := isComplete_iff ignored unresolved, accounted := ?_,
           written := ?_, last := ?_ }
  · rw [ignored, unresolved]
    exact accounted_words input.words
  · intro property
    rw [Style.contains_iff, first, List.mem_eraseDups, List.mem_flatMap]
  · intro property value
    rw [distinct.mem_entries_iff, lenient_result]
    exact Style.get?_merge_flatMap distinct_writes

theorem isEmpty_lenient_iff (input : Text) :
    (lenient input).result.style.isEmpty = true ↔ ∀ token ∈ input.words, fate token ≠ .applied := by
  have keys := (lenient_answers input).first
  have absent : (lenient input).result.style.isEmpty = true ↔
      ∀ property, property ∉ (lenient input).result.style.keys := by
    rw [← List.eq_nil_iff_forall_not_mem, Style.isEmpty, List.isEmpty_iff, Style.keys, List.map_eq_nil_iff]
  simp only [absent, keys, List.mem_eraseDups, List.mem_flatMap, not_exists, not_and]
  constructor
  · intro unwritten token member applied
    have nonempty : writes token ≠ [] := fun idle => writes_eq_nil_iff.mp idle applied
    obtain ⟨⟨property, value⟩, written⟩ := List.exists_mem_of_ne_nil _ nonempty
    exact unwritten property token member (List.mem_map_of_mem written)
  · intro idle property token member written
    rw [writes_eq_nil_iff.mpr (idle token member)] at written
    cases written

/-- There is no other answer, so the fields above say all there is to say. -/
theorem Answers.unique {styling other : Styling} {words : List Text} (answers : styling.Answers words)
    (others : other.Answers words) : styling = other := by
  have style : styling.style = other.style := by
    apply answers.distinct.ext (answers.first.trans others.first.symm)
    rintro ⟨property, value⟩
    exact (answers.last property value).trans (others.last property value).symm
  have ignored := answers.ignored.trans others.ignored.symm
  have unresolved := answers.unresolved.trans others.unresolved.symm
  cases styling
  cases other
  simp_all

/-- A lenient styling never fails, and what it makes of a text is the one answer to the words of that text. -/
theorem lenient_styling_answers (format : Format) (input : Text) :
    (∀ words, Text.Laid Text.isBlank input words ↔ words = input.words) ∧
    ∃ styling, (({ strict := false, format } : Options).styling input).outcome = .ok styling ∧
      ∀ other : Styling, other.Answers input.words ↔ other = styling := by
  refine ⟨fun _ => Text.pieces_eq_iff.symm.trans eq_comm, (lenient input).result, rfl, ?_⟩
  intro other
  constructor
  · intro answers
    exact answers.unique (lenient_answers input)
  · rintro rfl
    exact lenient_answers input

end Styling
end InlineStyle
