import InlineStyle.Proofs.Schema
import InlineStyle.Proofs.StyleMerge

/-! What a style holds after any run of operations on the empty one. An operation is nothing but its writes in their
order. No property is entered twice, the first write to it decides its place and the last one its value. -/

namespace InlineStyle
namespace Style

inductive Operation where
  | set (property : Property) (value : Value)
  | merge (fields : List (Property × Value))
  | apply (effect : Effect)

namespace Operation

def act (style : Style) : Operation → Style
  | .set property value => style.set property value
  | .merge fields => style.merge fields
  | .apply effect => effect.apply style

def writes : Operation → List (Property × Value)
  | .set property value => [(property, value)]
  | .merge fields => fields
  | .apply effect => effect.fields

def run (operations : List Operation) : Style := operations.foldl act {}

theorem act_eq (style : Style) (operation : Operation) : operation.act style = style.merge operation.writes := by
  cases operation with
  | set property value => rfl
  | merge fields => rfl
  | apply effect => cases effect <;> rfl

theorem foldl_act (style : Style) (operations : List Operation) :
    operations.foldl act style = style.merge (operations.flatMap writes) := by
  induction operations generalizing style with
  | nil => rfl
  | cons operation operations ih => rw [List.foldl_cons, ih, act_eq, List.flatMap_cons, merge_append]

theorem run_eq (operations : List Operation) : run operations = ({} : Style).merge (operations.flatMap writes) :=
  foldl_act {} operations

end Operation

variable {style : Style} {property : Property} {value old new : Value} {fields entries : List (Property × Value)}

private theorem write_of_lookup (found : entries.lookup property = some old) :
    ∃ before after, entries = before ++ (property, old) :: after ∧
      write property new entries = before ++ (property, new) :: after := by
  obtain ⟨before, after, rfl, apart⟩ := List.lookup_eq_some_iff.mp found
  have first : property ∉ before.map Prod.fst := by
    intro member
    obtain ⟨entry, earlier, rfl⟩ := List.mem_map.mp member
    simpa using apart entry earlier
  exact ⟨before, after, rfl, by rw [write_append, if_neg first, write, if_pos rfl]⟩

/-- A write to a property that is there changes its value where it stands. -/
theorem entries_set_of_get? (found : style.get? property = some old) :
    ∃ before after, style.entries = before ++ (property, old) :: after ∧
      (style.set property new).entries = before ++ (property, new) :: after :=
  write_of_lookup found

/-- A write to a property that is not there appends it. -/
theorem entries_set_of_get?_eq_none (missing : style.get? property = none) :
    (style.set property new).entries = style.entries ++ [(property, new)] :=
  write_of_notMem fun member => by simpa [contains, missing] using contains_iff.mpr member

theorem get?_merge_eq_some_iff :
    (({} : Style).merge fields).get? property = some value ↔
      ∃ before after, fields = before ++ (property, value) :: after ∧ property ∉ after.map Prod.fst := by
  have alone : fields.flatMap (fun field => [field]) = fields := List.flatMap_singleton' fields
  have last := @get?_merge_flatMap property value _ fields (fun field => [field]) (by simp)
  rw [alone] at last
  rw [last]
  constructor
  · rintro ⟨before, field, after, split, written, unwritten⟩
    obtain rfl := List.mem_singleton.mp written
    refine ⟨before, after, split, fun member => ?_⟩
    obtain ⟨later, listed, same⟩ := List.mem_map.mp member
    exact unwritten later listed (List.mem_singleton.mpr same.symm)
  · rintro ⟨before, after, split, unwritten⟩
    refine ⟨before, (property, value), after, split, List.mem_singleton_self _, fun later listed member => ?_⟩
    have same : property = later.1 := List.mem_singleton.mp member
    exact unwritten (same ▸ List.mem_map_of_mem listed)

theorem get?_merge_eq_none_iff : (({} : Style).merge fields).get? property = none ↔ property ∉ fields.map Prod.fst := by
  rw [← Option.not_isSome_iff_eq_none, ← contains, contains_iff, keys_merge distinct_empty, List.mem_eraseDups]
  rfl

theorem Distinct.size_eq (distinct : style.Distinct) :
    style.size = Property.all.countP fun property => (style.get? property).isSome := by
  have listed : style.keys.Perm (Property.all.filter fun property => (style.get? property).isSome) := by
    have once : Property.all.Nodup := Property.distinct_names.of_map
    apply (List.perm_ext_iff_of_nodup distinct (once.filter _)).mpr
    intro property
    rw [List.mem_filter, ← contains_iff]
    exact (and_iff_right property.mem_all).symm
  rw [List.countP_eq_length_filter, ← listed.length_eq, keys, List.length_map, size]

theorem isEmpty_iff_get? : style.isEmpty = true ↔ ∀ property, style.get? property = none := by
  have absent (property : Property) : style.get? property = none ↔ property ∉ style.keys := by
    rw [← Option.not_isSome_iff_eq_none, ← contains, contains_iff]
  simp only [absent, ← List.eq_nil_iff_forall_not_mem, keys, List.map_eq_nil_iff, isEmpty, List.isEmpty_iff]

/-- What a style is that was made by writes to the empty one. -/
structure Holds (style : Style) (writes : List (Property × Value)) : Prop where
  distinct : style.keys.Nodup
  bounded : style.size ≤ 20
  /-- The properties stand in the order of the first writes to them. -/
  first : style.keys = (writes.map Prod.fst).eraseDups
  last : ∀ property value, style.get? property = some value ↔
    ∃ before after, writes = before ++ (property, value) :: after ∧ property ∉ after.map Prod.fst
  unwritten : ∀ property, style.get? property = none ↔ property ∉ writes.map Prod.fst
  overwrites : ∀ property old new, style.get? property = some old →
    ∃ before after, style.entries = before ++ (property, old) :: after ∧
      (style.set property new).entries = before ++ (property, new) :: after
  appends : ∀ property new, style.get? property = none →
    (style.set property new).entries = style.entries ++ [(property, new)]
  entries : ∀ property value, (property, value) ∈ style.entries ↔ style.get? property = some value
  keys : ∀ property, property ∈ style.keys ↔ ∃ value, style.get? property = some value
  contains : ∀ property, style.contains property = true ↔ ∃ value, style.get? property = some value
  size : style.size = Property.all.countP fun property => (style.get? property).isSome
  isEmpty : style.isEmpty = true ↔ ∀ property, style.get? property = none
  rebuilt : ({} : Style).merge style.entries = style

theorem holds_merge (fields : List (Property × Value)) : (({} : Style).merge fields).Holds fields := by
  have distinct : (({} : Style).merge fields).Distinct := distinct_empty.merge fields
  have found (property : Property) : (({} : Style).merge fields).contains property = true ↔
      ∃ value, (({} : Style).merge fields).get? property = some value := Option.isSome_iff_exists
  exact {
    distinct
    bounded := distinct.length_le
    first := keys_merge distinct_empty
    last := fun _ _ => get?_merge_eq_some_iff
    unwritten := fun _ => get?_merge_eq_none_iff
    overwrites := fun _ _ _ => entries_set_of_get?
    appends := fun _ _ => entries_set_of_get?_eq_none
    entries := fun _ _ => distinct.mem_entries_iff
    keys := fun property => contains_iff.symm.trans (found property)
    contains := found
    size := distinct.size_eq
    isEmpty := isEmpty_iff_get?
    rebuilt := merge_compact fields }

/-- Every run of operations makes a style that holds its writes, and every operation does its writes one after another. -/
theorem holds_run (operations : List Operation) :
    (Operation.run operations).Holds (operations.flatMap Operation.writes) ∧
    ∀ operation, Operation.run (operations ++ [operation]) =
      operation.writes.foldl (fun style (property, value) => style.set property value) (Operation.run operations) := by
  constructor
  · rw [Operation.run_eq]
    exact holds_merge _
  · intro operation
    rw [Operation.run, List.foldl_append]
    exact Operation.act_eq _ operation

-- A merge that repeats a property, onto a style that has it already.
example : (Operation.run [.set .flex (.int 1), .merge [(.color, .int 2), (.flex, .int 3), (.color, .int 4)]]).entries =
    [(.flex, .int 3), (.color, .int 4)] := rfl

end Style
end InlineStyle
