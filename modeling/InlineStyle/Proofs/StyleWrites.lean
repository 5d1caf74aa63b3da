import InlineStyle.Style

/-! What a style holds after a run of writes: the properties in the order of their first writes, each with
the value of its last write. -/

namespace InlineStyle

theorem lookup_eq_some_iff_mem {α β : Type} [BEq α] [LawfulBEq α] {entries : List (α × β)} {key : α} {value : β}
    (distinct : (entries.map Prod.fst).Nodup) : entries.lookup key = some value ↔ (key, value) ∈ entries := by
  rw [List.lookup_eq_some_iff]
  constructor
  · rintro ⟨before, after, rfl, _⟩
    simp
  · intro member
    obtain ⟨before, after, rfl⟩ := List.append_of_mem member
    refine ⟨before, after, rfl, ?_⟩
    intro entry earlier
    have apart := (List.nodup_append.mp (List.map_append ▸ distinct)).2.2
    have different : entry.1 ≠ key := apart entry.1 (List.mem_map.mpr ⟨entry, earlier, rfl⟩) key (by simp)
    simpa using Ne.symm different

theorem lookup_isSome_iff_mem {α β : Type} [BEq α] [LawfulBEq α] {entries : List (α × β)} {key : α} :
    (entries.lookup key).isSome = true ↔ key ∈ entries.map Prod.fst := by
  simp only [List.lookup_isSome_iff, beq_iff_eq, List.mem_map]
  constructor
  · rintro ⟨entry, member, same⟩
    exact ⟨entry, member, same.symm⟩
  · rintro ⟨entry, member, same⟩
    exact ⟨entry, member, same.symm⟩

namespace Style

def Distinct (style : Style) : Prop := style.keys.Nodup

private theorem lookup_entry (written other : Property) (value : Value) (entries : List (Property × Value)) :
    ((written, value) :: entries).lookup other = if other = written then some value else entries.lookup other := by
  by_cases same : other = written
  · simp [same]
  · have test : (other == written) = false := beq_eq_false_iff_ne.mpr same
    simp [List.lookup_cons, test, same]

theorem lookup_write (property other : Property) (value : Value) (entries : List (Property × Value)) :
    (write property value entries).lookup other =
      if other = property then some value else entries.lookup other := by
  induction entries with
  | nil => simp [write, lookup_entry]
  | cons entry entries ih =>
    obtain ⟨written, previous⟩ := entry
    by_cases same : written = property
    · subst same
      rw [write, if_pos rfl, lookup_entry, lookup_entry]
      by_cases here : other = written <;> simp [here]
    · rw [write, if_neg same, lookup_entry, lookup_entry, ih]
      by_cases here : other = written <;> simp [same, here]

theorem keys_write (property : Property) (value : Value) (entries : List (Property × Value)) :
    (write property value entries).map Prod.fst =
      if property ∈ entries.map Prod.fst then entries.map Prod.fst else entries.map Prod.fst ++ [property] := by
  induction entries with
  | nil => simp [write]
  | cons entry entries ih =>
    obtain ⟨written, previous⟩ := entry
    by_cases same : written = property
    · simp [write, same]
    · simp only [write, same, ite_false, List.map_cons, ih, List.mem_cons, Ne.symm same, false_or]
      split <;> rfl

/-- A write changes the front if the property is there, and else goes on behind it. -/
theorem write_append (property : Property) (value : Value) (front back : List (Property × Value)) :
    write property value (front ++ back) =
      if property ∈ front.map Prod.fst then write property value front ++ back else front ++ write property value back := by
  induction front with
  | nil => simp
  | cons entry front ih =>
    obtain ⟨written, previous⟩ := entry
    by_cases same : written = property
    · simp [write, same]
    · simp only [List.cons_append, write, same, ite_false, ih, List.map_cons, List.mem_cons, Ne.symm same, false_or]
      split <;> rfl

theorem write_of_notMem {property : Property} {value : Value} {entries : List (Property × Value)}
    (missing : property ∉ entries.map Prod.fst) : write property value entries = entries ++ [(property, value)] := by
  have written := write_append property value entries []
  rwa [List.append_nil, if_neg missing] at written

variable {style : Style} {property other : Property} {value : Value} {fields more : List (Property × Value)}

theorem get?_set : (style.set property value).get? other = if other = property then some value else style.get? other :=
  lookup_write property other value style.entries

theorem keys_set : (style.set property value).keys =
    if property ∈ style.keys then style.keys else style.keys ++ [property] :=
  keys_write property value style.entries

theorem Distinct.set (distinct : style.Distinct) : (style.set property value).Distinct := by
  unfold Distinct
  rw [keys_set]
  split
  · exact distinct
  next absent =>
    refine List.nodup_append.mpr ⟨distinct, by simp, ?_⟩
    intro key member last singleton same
    have written : last = property := List.mem_singleton.mp singleton
    exact absent (written ▸ same ▸ member)

@[simp] theorem merge_nil : style.merge [] = style := rfl

@[simp] theorem merge_cons : style.merge ((property, value) :: fields) = (style.set property value).merge fields := rfl

theorem merge_append : style.merge (fields ++ more) = (style.merge fields).merge more := List.foldl_append

theorem mem_write {entries : List (Property × Value)} {entry : Property × Value}
    (member : entry ∈ write property value entries) : entry = (property, value) ∨ entry ∈ entries := by
  induction entries with
  | nil => exact .inl (List.mem_singleton.mp member)
  | cons head entries ih =>
    obtain ⟨written, previous⟩ := head
    by_cases same : written = property
    · rw [write, if_pos same] at member
      exact (List.mem_cons.mp member).imp_right (List.mem_cons_of_mem _)
    · rw [write, if_neg same] at member
      rcases List.mem_cons.mp member with head | later
      · exact .inr (head ▸ List.mem_cons_self)
      · exact (ih later).imp_right (List.mem_cons_of_mem _)

/-- Whatever stands in a style has been written to it. -/
theorem mem_merge {entry : Property × Value} (member : entry ∈ (style.merge fields).entries) :
    entry ∈ style.entries ∨ entry ∈ fields := by
  induction fields generalizing style with
  | nil => exact .inl member
  | cons field fields ih =>
    obtain ⟨property, value⟩ := field
    rcases ih member with before | later
    · rcases mem_write before with written | old
      · exact .inr (written ▸ List.mem_cons_self)
      · exact .inl old
    · exact .inr (List.mem_cons_of_mem _ later)

theorem Distinct.merge (distinct : style.Distinct) (fields : List (Property × Value)) :
    (style.merge fields).Distinct := by
  induction fields generalizing style with
  | nil => exact distinct
  | cons field fields ih => exact ih distinct.set

theorem distinct_empty : ({} : Style).Distinct := List.nodup_nil

private theorem eraseDups_of_nodup {keys : List Property} (distinct : keys.Nodup) : keys.eraseDups = keys := by
  induction keys with
  | nil => rfl
  | cons key keys ih =>
    obtain ⟨absent, rest⟩ := List.nodup_cons.mp distinct
    have kept : keys.filter (fun other => !other == key) = keys := by
      apply List.filter_eq_self.mpr
      intro other member
      have different : other ≠ key := fun same => absent (same ▸ member)
      simpa using different
    rw [List.eraseDups_cons, kept, ih rest]

/-- A property stands where it was written first. -/
theorem keys_merge (distinct : style.Distinct) :
    (style.merge fields).keys = (style.keys ++ fields.map Prod.fst).eraseDups := by
  induction fields generalizing style with
  | nil => simpa using (eraseDups_of_nodup distinct).symm
  | cons field fields ih =>
    obtain ⟨property, value⟩ := field
    rw [merge_cons, ih distinct.set, keys_set]
    split
    next present =>
      have dropped : (property :: fields.map Prod.fst).removeAll style.keys =
          (fields.map Prod.fst).removeAll style.keys := by
        simp [List.removeAll, present]
      rw [List.map_cons, List.eraseDups_append, List.eraseDups_append, dropped]
    next => simp

/-- A property has the value that was written last. -/
theorem get?_merge : (style.merge fields).get? property = (fields.reverse.lookup property).or (style.get? property) := by
  induction fields generalizing style with
  | nil => simp
  | cons field fields ih =>
    obtain ⟨written, value⟩ := field
    rw [merge_cons, ih, get?_set, List.reverse_cons, List.lookup_append, lookup_entry]
    by_cases same : property = written <;> simp [same]

theorem contains_iff : style.contains property = true ↔ property ∈ style.keys := lookup_isSome_iff_mem

private theorem lookup_flatMap {τ : Type} (items : List τ) (writes : τ → List (Property × Value)) :
    (items.flatMap writes).lookup property = items.findSome? fun item => (writes item).lookup property := by
  induction items with
  | nil => rfl
  | cons item items ih =>
    rw [List.flatMap_cons, List.lookup_append, ih, List.findSome?_cons]
    cases (writes item).lookup property <;> rfl

/-- When writes come in groups, the groups from the last one on are asked for the value of a property. -/
theorem get?_merge_groups {τ : Type} (items : List τ) (writes : τ → List (Property × Value)) :
    (({} : Style).merge (items.flatMap writes)).get? property =
      items.reverse.findSome? fun item => (writes item).reverse.lookup property := by
  rw [get?_merge, List.reverse_flatMap, lookup_flatMap]
  exact Option.or_none

theorem lookup_reverse_eq_none_iff : fields.reverse.lookup property = none ↔ property ∉ fields.map Prod.fst := by
  rw [← Option.not_isSome_iff_eq_none, lookup_isSome_iff_mem, List.map_reverse, List.mem_reverse]

/-- The last group that writes a property gives it its value. -/
theorem get?_merge_flatMap {τ : Type} {items : List τ} {writes : τ → List (Property × Value)}
    (distinct : ∀ item, ((writes item).map Prod.fst).Nodup) :
    (({} : Style).merge (items.flatMap writes)).get? property = some value ↔
      ∃ before item after, items = before ++ item :: after ∧ (property, value) ∈ writes item ∧
        ∀ later ∈ after, property ∉ (writes later).map Prod.fst := by
  have written (item : τ) : (writes item).reverse.lookup property = some value ↔ (property, value) ∈ writes item := by
    have reversed : ((writes item).reverse.map Prod.fst).Nodup := by
      rw [List.map_reverse]
      exact (List.reverse_perm _).symm.nodup (distinct item)
    rw [lookup_eq_some_iff_mem reversed, List.mem_reverse]
  rw [get?_merge_groups, List.findSome?_eq_some_iff]
  constructor
  · rintro ⟨after, item, before, shape, found, missing⟩
    refine ⟨before.reverse, item, after.reverse, by simpa using congrArg List.reverse shape, (written item).mp found, ?_⟩
    intro later member
    exact lookup_reverse_eq_none_iff.mp (missing later (List.mem_reverse.mp member))
  · rintro ⟨before, item, after, rfl, found, missing⟩
    refine ⟨after.reverse, item, before.reverse, by simp, (written item).mpr found, ?_⟩
    intro later member
    exact lookup_reverse_eq_none_iff.mpr (missing later (List.mem_reverse.mp member))

theorem Distinct.mem_entries_iff (distinct : style.Distinct) :
    (property, value) ∈ style.entries ↔ style.get? property = some value :=
  (lookup_eq_some_iff_mem distinct).symm

private theorem eq_of_same_keys {entries others : List (Property × Value)} (distinct : (entries.map Prod.fst).Nodup)
    (keys : entries.map Prod.fst = others.map Prod.fst) (same : ∀ entry, entry ∈ entries ↔ entry ∈ others) :
    entries = others := by
  induction entries generalizing others with
  | nil => exact (List.map_eq_nil_iff.mp keys.symm).symm
  | cons entry entries ih =>
    cases others with
    | nil => cases keys
    | cons other others =>
      obtain ⟨absent, distinct⟩ := List.nodup_cons.mp distinct
      obtain ⟨_, otherKeys⟩ := List.cons.inj keys
      have missing : ∀ found ∈ entries, found.1 ≠ entry.1 :=
        fun found member equal => absent (List.mem_map.mpr ⟨found, member, equal⟩)
      have missingOther : ∀ found ∈ others, found.1 ≠ entry.1 := by
        intro found member equal
        exact absent (otherKeys ▸ List.mem_map.mpr ⟨found, member, equal⟩)
      have head : entry = other := by
        rcases List.mem_cons.mp ((same entry).mp (by simp)) with equal | member
        · exact equal
        · exact absurd rfl (missingOther entry member)
      subst head
      have tail : ∀ found, found ∈ entries ↔ found ∈ others := by
        intro found
        constructor
        · intro member
          rcases List.mem_cons.mp ((same found).mp (by simp [member])) with equal | later
          · exact absurd (congrArg Prod.fst equal) (missing found member)
          · exact later
        · intro member
          rcases List.mem_cons.mp ((same found).mpr (by simp [member])) with equal | later
          · exact absurd (congrArg Prod.fst equal) (missingOther found member)
          · exact later
      rw [ih distinct otherKeys tail]

theorem Distinct.ext {other : Style} (distinct : style.Distinct) (keys : style.keys = other.keys)
    (same : ∀ entry, entry ∈ style.entries ↔ entry ∈ other.entries) : style = other :=
  congrArg Style.mk (eq_of_same_keys distinct keys same)

end Style
end InlineStyle
