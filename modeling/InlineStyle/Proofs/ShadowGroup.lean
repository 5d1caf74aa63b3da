import InlineStyle.Proofs.LiteralSafety
import InlineStyle.Proofs.StyleMerge

/-! A shadow stands in a style as a whole or not at all. No word but those of the shadow writes one of its properties, and
writes to other properties leave its fields side by side where they were first written. -/

namespace InlineStyle

namespace Style

variable {style : Style} {property : Property} {value : Value} {group fields : List (Property × Value)} {present : Bool}

/-- Whether a group of fields stands in a style, side by side and in order. None of its properties stands anywhere else. -/
inductive Grouped (group : List (Property × Value)) (style : Style) : Bool → Prop where
  | absent (apart : ∀ entry ∈ style.entries, entry.1 ∉ group.map Prod.fst) : Grouped group style false
  | whole {before after : List (Property × Value)} (split : style.entries = before ++ group ++ after)
      (apart : ∀ entry ∈ before ++ after, entry.1 ∉ group.map Prod.fst) : Grouped group style true

theorem Grouped.absent_iff (grouped : style.Grouped group present) (nonempty : group ≠ []) :
    (∀ entry ∈ style.entries, entry.1 ∉ group.map Prod.fst) ↔ present = false := by
  cases grouped with
  | absent apart => exact iff_of_true apart rfl
  | whole split _ =>
    obtain ⟨field, member⟩ := List.exists_mem_of_ne_nil _ nonempty
    have stands : field ∈ style.entries := by simp [split, member]
    exact iff_of_false (fun apart => apart field stands (List.mem_map_of_mem member)) (by simp)

theorem Grouped.whole_iff (grouped : style.Grouped group present) (nonempty : group ≠ []) :
    (∃ before after, style.entries = before ++ group ++ after ∧
      ∀ entry ∈ before ++ after, entry.1 ∉ group.map Prod.fst) ↔ present = true := by
  cases grouped with
  | absent apart =>
    refine iff_of_false ?_ Bool.false_ne_true
    rintro ⟨before, after, split, -⟩
    obtain ⟨field, member⟩ := List.exists_mem_of_ne_nil _ nonempty
    have stands : field ∈ style.entries := by simp [split, member]
    exact apart field stands (List.mem_map_of_mem member)
  | whole split apart => exact iff_of_true ⟨_, _, split, apart⟩ rfl

theorem Grouped.set (grouped : style.Grouped group present) (outside : property ∉ group.map Prod.fst) :
    (style.set property value).Grouped group present := by
  have kept {entries : List (Property × Value)} (apart : ∀ entry ∈ entries, entry.1 ∉ group.map Prod.fst) :
      ∀ entry ∈ write property value entries, entry.1 ∉ group.map Prod.fst := by
    intro entry member
    rcases mem_write member with rfl | before
    · exact outside
    · exact apart entry before
  cases grouped with
  | absent apart => exact .absent (kept apart)
  | @whole before after split apart =>
    obtain ⟨front, back⟩ := List.forall_mem_append.mp apart
    have written : (style.set property value).entries = write property value (before ++ (group ++ after)) := by
      rw [Style.set, split, List.append_assoc]
    rw [write_append, write_append, if_neg outside] at written
    by_cases earlier : property ∈ before.map Prod.fst
    · rw [if_pos earlier, ← List.append_assoc] at written
      exact .whole written (List.forall_mem_append.mpr ⟨kept front, back⟩)
    · rw [if_neg earlier, ← List.append_assoc] at written
      exact .whole written (List.forall_mem_append.mpr ⟨front, kept back⟩)

theorem Grouped.merge_other (grouped : style.Grouped group present)
    (outside : ∀ field ∈ fields, field.1 ∉ group.map Prod.fst) : (style.merge fields).Grouped group present := by
  induction fields generalizing style with
  | nil => exact grouped
  | cons field fields ih =>
    obtain ⟨property, value⟩ := field
    obtain ⟨first, others⟩ := List.forall_mem_cons.mp outside
    exact ih (grouped.set first) others

/-- Fields with new properties are appended as they are. -/
theorem entries_merge_apart (distinct : (fields.map Prod.fst).Nodup)
    (apart : ∀ entry ∈ style.entries, entry.1 ∉ fields.map Prod.fst) :
    (style.merge fields).entries = style.entries ++ fields := by
  induction fields generalizing style with
  | nil => exact (List.append_nil _).symm
  | cons field fields ih =>
    obtain ⟨property, value⟩ := field
    obtain ⟨fresh, distinct⟩ := List.nodup_cons.mp distinct
    have missing : property ∉ style.entries.map Prod.fst := by
      intro member
      obtain ⟨entry, present, rfl⟩ := List.mem_map.mp member
      exact apart entry present List.mem_cons_self
    have appended : (style.set property value).entries = style.entries ++ [(property, value)] := write_of_notMem missing
    have others : ∀ entry ∈ (style.set property value).entries, entry.1 ∉ fields.map Prod.fst := by
      rw [appended]
      refine List.forall_mem_append.mpr ⟨fun entry member later => ?_, List.forall_mem_singleton.mpr fresh⟩
      exact apart entry member (List.mem_cons_of_mem _ later)
    rw [merge_cons, ih distinct others, appended, List.append_assoc, List.singleton_append]

/-- A group that is there already stays as it is, and a new one stands at the end. -/
theorem Grouped.merge_self (grouped : style.Grouped group present) (distinct : (group.map Prod.fst).Nodup) :
    (style.merge group).Grouped group true := by
  cases grouped with
  | absent apart =>
    have appended : (style.merge group).entries = style.entries ++ group ++ [] := by
      rw [entries_merge_apart distinct apart, List.append_nil]
    exact .whole appended (by rwa [List.append_nil])
  | @whole before after split apart =>
    have unchanged : style.merge group = style := by
      refine merge_of_get? fun field member => ?_
      obtain ⟨property, value⟩ := field
      have missing : before.lookup property = none := by
        refine Option.not_isSome_iff_eq_none.mp (mt lookup_isSome_iff_mem.mp fun written => ?_)
        obtain ⟨entry, earlier, same⟩ := List.mem_map.mp written
        exact apart entry (List.mem_append_left _ earlier) (List.mem_map.mpr ⟨_, member, same.symm⟩)
      rw [get?, split, List.append_assoc, List.lookup_append, List.lookup_append, missing,
        (lookup_eq_some_iff_mem distinct).mpr member]
      rfl
    rw [unchanged]
    exact .whole split apart

end Style

namespace Grammar

variable {family : Family} {token : Text} {property : Property} {value : Value}

private theorem shadowless_listed :
    ∀ table ∈ tables family, ∀ entry ∈ table, entry.2.1.isShadow = false := by
  cases family <;> decide

private theorem shadowless_spacings : ∀ spacing ∈ spacings family, spacing.property.isShadow = false := by
  cases family <;> decide

/-- A word that writes one property does not write one of a shadow. -/
theorem Means.shadowless (means : Means family token (.set property value)) : property.isShadow = false := by
  cases means with
  | listed known entry => exact shadowless_listed _ known _ entry
  | units known _ _ => exact shadowless_spacings _ known
  | half known _ => exact shadowless_spacings _ known
  | gray _ _ entry _ =>
    have checked : ∀ entry ∈ Vocabulary.grays, entry.2.1.isShadow = false := by decide
    exact checked _ entry
  | size _ _ => rfl

end Grammar

variable {token input : Text} {style : Style} {present : Bool}

theorem writes_of_shadow (listed : token ∈ Vocabulary.shadows) : writes token = Vocabulary.shadowFields := by
  obtain ⟨resolved, -⟩ := Grammar.resolve_writes_iff.mpr (.shadow listed)
  simp only [writes, resolved, Effect.fields]

theorem shadowless_of_mem_writes (unlisted : token ∉ Vocabulary.shadows) :
    ∀ field ∈ writes token, field.1.isShadow = false := by
  intro field member
  rcases resolved : resolve token with _ | ⟨family, fault | effect⟩
  · simp [writes, resolved] at member
  · simp [writes, resolved] at member
  · simp only [writes, resolved] at member
    cases effect with
    | nothing => cases member
    | set property value =>
      obtain rfl := List.mem_singleton.mp member
      exact (Grammar.resolve_writes_iff.mp ⟨resolved, by simp⟩).shadowless
    | merge fields =>
      cases Grammar.resolve_writes_iff.mp ⟨resolved, by simp⟩ with
      | shadow listed => exact absurd listed unlisted

theorem Property.isShadow_eq_false_iff {property : Property} :
    property.isShadow = false ↔ property ∉ Vocabulary.shadowFields.map Prod.fst := by
  cases property <;> decide

namespace Style

theorem Grouped.word (grouped : style.Grouped Vocabulary.shadowFields present) (token : Text) :
    (style.merge (writes token)).Grouped Vocabulary.shadowFields (present || Vocabulary.shadows.contains token) := by
  by_cases listed : token ∈ Vocabulary.shadows
  · rw [writes_of_shadow listed, List.contains_iff_mem.mpr listed, Bool.or_true]
    exact grouped.merge_self (by decide)
  · have outside : ∀ field ∈ writes token, field.1 ∉ Vocabulary.shadowFields.map Prod.fst := fun field member =>
      Property.isShadow_eq_false_iff.mp (shadowless_of_mem_writes listed field member)
    have other : Vocabulary.shadows.contains token = false := by simpa using listed
    rw [other, Bool.or_false]
    exact grouped.merge_other outside

theorem Grouped.words (grouped : style.Grouped Vocabulary.shadowFields present) (words : List Text) :
    (style.merge (words.flatMap writes)).Grouped Vocabulary.shadowFields
      (present || words.any Vocabulary.shadows.contains) := by
  induction words generalizing style present with
  | nil =>
    rw [List.any_nil, Bool.or_false]
    exact grouped
  | cons token words ih =>
    rw [List.flatMap_cons, merge_append, List.any_cons, ← Bool.or_assoc]
    exact ih (grouped.word token)

end Style

/-- The fields of a shadow stand in the style of a text side by side and in order if one of its words asks for a shadow, however
many do and whatever stands between them. Otherwise the style has none of their properties. -/
theorem shadow_is_whole_or_absent {options : Options} (made : (options.style input).outcome = .ok style) :
    let shadow : List (Property × Value) := [
      (.shadowColor, .str "#000".toList),
      (.shadowOffset, .map [("width".toList, .int 0), ("height".toList, .int 1)]),
      (.shadowOpacity, .float ⟨0x3fb999999999999a⟩),
      (.shadowRadius, .int 2)]
    let asked := ∃ token ∈ input.words, token = "shadow".toList ∨ token = "shadow-sm".toList
    (asked ↔ ∃ before after, style.entries = before ++ shadow ++ after ∧
      ∀ entry ∈ before ++ after, entry.1.isShadow = false) ∧
    (¬ asked ↔ ∀ entry ∈ style.entries, entry.1.isShadow = false) ∧
    shadow.map (fun field => field.2.text) =
      ["'#000'", "\x7b width: 0, height: 1 \x7d", "0.1", "2"].map String.toList := by
  intro shadow asked
  have grouped : style.Grouped shadow (input.words.any Vocabulary.shadows.contains) := by
    have start : ({} : Style).Grouped shadow false := .absent (by simp)
    have styled := Options.style_of_ok made
    rw [Styling.lenient_result] at styled
    rw [← styled]
    exact start.words input.words
  have asks : asked ↔ input.words.any Vocabulary.shadows.contains = true := by
    simp [asked, Vocabulary.shadows]
  have shadowless (entries : List (Property × Value)) :
      (∀ entry ∈ entries, entry.1 ∉ shadow.map Prod.fst) ↔ ∀ entry ∈ entries, entry.1.isShadow = false :=
    forall₂_congr fun _ _ => Property.isShadow_eq_false_iff.symm
  have printed : shadow.map (fun field => field.2.text) =
      ["'#000'", "\x7b width: 0, height: 1 \x7d", "0.1", "2"].map String.toList := by
    simp only [shadow, List.map_cons, List.map_nil, Property.text_opacity]
    decide +kernel
  have nonempty : shadow ≠ [] := List.cons_ne_nil _ _
  refine ⟨?_, ?_, printed⟩
  · rw [asks, ← grouped.whole_iff nonempty]
    simp only [shadowless]
  · rw [asks, Bool.not_eq_true, ← grouped.absent_iff nonempty]
    exact shadowless style.entries

/-- Both shadow words, with other words before, between and behind them, one of which is at fault. -/
theorem shadow_is_whole_among_words :
    let input : Text := "p-4 shadow mb-1 text-[] shadow-sm p-2".toList
    let options : Options := { strict := false, format := .object }
    ∃ style before after, (options.style input).outcome = .ok style ∧
      style.entries = before ++ Vocabulary.shadowFields ++ after ∧
      ∀ entry ∈ before ++ after, entry.1.isShadow = false := by
  intro input options
  have made : (options.style input).outcome = .ok (Styling.lenient input).result.style := rfl
  have asked : ∃ token ∈ input.words, token = "shadow".toList ∨ token = "shadow-sm".toList :=
    ⟨"shadow".toList, by decide +kernel, .inl rfl⟩
  obtain ⟨before, after, split, apart⟩ := (shadow_is_whole_or_absent made).1.mp asked
  exact ⟨_, before, after, made, split, apart⟩

end InlineStyle
