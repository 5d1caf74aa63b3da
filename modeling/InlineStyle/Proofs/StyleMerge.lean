import InlineStyle.Proofs.StyleWrites

/-! Merging a style into another one. The entries of a style do to any other style what all the writes did that made
them, so merging is associative and a style changes nothing in itself. -/

namespace InlineStyle
namespace Style

variable {style made : Style} {property other : Property} {value content : Value} {entries fields : List (Property × Value)}

private theorem write_write (first last : Value) (entries : List (Property × Value)) :
    write property last (write property first entries) = write property last entries := by
  induction entries with
  | nil => simp [write]
  | cons entry entries ih =>
    obtain ⟨written, previous⟩ := entry
    by_cases same : written = property
    · simp [write, same]
    · simp [write, same, ih]

/-- A write to a property that has its place already can be made before or after one to another property. -/
private theorem write_comm (different : property ≠ other) (present : property ∈ entries.map Prod.fst) :
    write property value (write other content entries) = write other content (write property value entries) := by
  induction entries with
  | nil => cases present
  | cons entry entries ih =>
    obtain ⟨written, previous⟩ := entry
    by_cases same : written = property
    · simp [write, same, different]
    · have later : property ∈ entries.map Prod.fst := (List.mem_cons.mp present).resolve_left (Ne.symm same)
      by_cases here : written = other
      · simp [write, here, Ne.symm different]
      · simp [write, same, here, ih later]

theorem set_set (first last : Value) : (style.set property first).set property last = style.set property last :=
  congrArg Style.mk (write_write first last style.entries)

theorem set_comm (different : property ≠ other) (present : property ∈ style.keys) :
    (style.set other content).set property value = (style.set property value).set other content :=
  congrArg Style.mk (write_comm different present)

private theorem mem_keys_set (present : property ∈ style.keys) : property ∈ (style.set other content).keys := by
  rw [keys_set]
  split
  · exact present
  · exact List.mem_append_left _ present

private theorem self_mem_keys_set : property ∈ (style.set property value).keys := by
  rw [keys_set]
  split
  next present => exact present
  next => exact List.mem_append_right _ (List.mem_singleton_self _)

theorem merge_set (present : property ∈ style.keys) (absent : property ∉ fields.map Prod.fst) :
    (style.merge fields).set property value = (style.set property value).merge fields := by
  induction fields generalizing style with
  | nil => rfl
  | cons field fields ih =>
    obtain ⟨written, content⟩ := field
    rw [List.map_cons, List.mem_cons, not_or] at absent
    obtain ⟨different, absent⟩ := absent
    rw [merge_cons, merge_cons, ih (mem_keys_set present) absent, set_comm different present]

/-- A write to the fields does what the same write does once they are merged. -/
theorem merge_write (distinct : (fields.map Prod.fst).Nodup) :
    style.merge (write property value fields) = (style.merge fields).set property value := by
  induction fields generalizing style with
  | nil => rfl
  | cons field fields ih =>
    obtain ⟨written, previous⟩ := field
    obtain ⟨absent, distinct⟩ := List.nodup_cons.mp distinct
    by_cases same : written = property
    · subst same
      rw [write, if_pos rfl, merge_cons, merge_cons, merge_set self_mem_keys_set absent, set_set]
    · rw [write, if_neg same, merge_cons, merge_cons, ih distinct]

theorem merge_entries_merge (distinct : made.Distinct) :
    style.merge (made.merge fields).entries = (style.merge made.entries).merge fields := by
  induction fields generalizing made with
  | nil => rfl
  | cons field fields ih =>
    obtain ⟨property, value⟩ := field
    have written : style.merge (made.set property value).entries = (style.merge made.entries).set property value :=
      merge_write distinct
    rw [merge_cons, ih distinct.set, written, merge_cons]

/-- Writes act on every style as what they make of the empty one does. -/
theorem merge_compact (fields : List (Property × Value)) :
    style.merge (({} : Style).merge fields).entries = style.merge fields :=
  merge_entries_merge distinct_empty

theorem set_of_get? (found : style.get? property = some value) : style.set property value = style := by
  obtain ⟨entries⟩ := style
  apply congrArg Style.mk
  induction entries with
  | nil => cases found
  | cons entry entries ih =>
    obtain ⟨written, previous⟩ := entry
    have stands : ((written, previous) :: entries).lookup property = some value := found
    by_cases same : property = written
    · subst same
      rw [List.lookup_cons_self] at stands
      simp [write, Option.some.inj stands]
    · rw [List.lookup_cons, beq_eq_false_iff_ne.mpr same] at stands
      simp [write, Ne.symm same, ih stands]

theorem merge_of_get? (found : ∀ field ∈ fields, style.get? field.1 = some field.2) : style.merge fields = style := by
  induction fields with
  | nil => rfl
  | cons field fields ih =>
    obtain ⟨property, value⟩ := field
    have here : style.get? property = some value := found (property, value) (by simp)
    rw [merge_cons, set_of_get? here]
    exact ih fun later member => found later (by simp [member])

theorem Distinct.merge_self (distinct : style.Distinct) : style.merge style.entries = style :=
  merge_of_get? fun _ member => distinct.mem_entries_iff.mp member

end Style
end InlineStyle
