import InlineStyle.Toml.Document
import InlineStyle.Proofs.StyleWrites

/-! The keys of a TOML document. A key is added only where it is missing, and an entry that changes keeps its key, so no
document has a key twice. -/

namespace InlineStyle.Toml

namespace Entries

def Distinct (entries : Entries) : Prop := (entries.map Prod.fst).Nodup

variable {entries changed : Entries} {key : Text} {node : Node} {origin : Origin}

theorem lookup_eq_none_iff_notMem : entries.lookup key = none ↔ key ∉ entries.map Prod.fst := by
  rw [← lookup_isSome_iff_mem, Bool.not_eq_true, Option.isSome_eq_false_iff, Option.isNone_iff_eq_none]

theorem lookup_remove (key : Text) (entries : Entries) : (entries.remove key).lookup key = none := by
  rw [lookup_eq_none_iff_notMem]
  simp [remove]

theorem lookup_concat_self (missing : entries.lookup key = none) : (entries ++ [(key, node)]).lookup key = some node := by
  simp [List.lookup_append, missing]

theorem lookup_concat_other {other : Text} (different : other ≠ key) :
    (entries ++ [(key, node)]).lookup other = entries.lookup other := by
  have test : (other == key) = false := beq_eq_false_iff_ne.mpr different
  simp [List.lookup_append, List.lookup_cons, test]

theorem keys_replace (key : Text) (node : Node) (entries : Entries) :
    (entries.replace key node).map Prod.fst = entries.map Prod.fst := by
  rw [replace, List.map_map]
  apply List.map_congr_left
  rintro ⟨name, previous⟩ -
  show (if name = key then (name, node) else (name, previous)).1 = name
  split <;> rfl

theorem Distinct.replace (distinct : entries.Distinct) : (entries.replace key node).Distinct := by
  rwa [Distinct, keys_replace]

theorem Distinct.remove (distinct : entries.Distinct) (key : Text) : (entries.remove key).Distinct :=
  (List.filter_sublist.map Prod.fst).nodup distinct

theorem Distinct.append (distinct : entries.Distinct) (missing : entries.lookup key = none) :
    Distinct (entries ++ [(key, node)]) := by
  have fresh := lookup_eq_none_iff_notMem.mp missing
  rw [Distinct, List.map_append, List.nodup_append]
  refine ⟨distinct, by simp, fun name inside other last => ?_⟩
  cases List.mem_singleton.mp last
  exact ne_of_mem_of_not_mem inside fresh

theorem Distinct.of_append {front back : Entries} (distinct : Distinct (front ++ back)) : front.Distinct :=
  ((List.sublist_append_left front back).map Prod.fst).nodup distinct

theorem Distinct.missing {entry : Text × Node} (distinct : Distinct (entries ++ [entry])) : entries.lookup entry.1 = none := by
  rw [Distinct, List.map_append, List.nodup_append] at distinct
  exact lookup_eq_none_iff_notMem.mpr fun inside => distinct.2.2 _ inside _ (List.mem_singleton_self _) rfl

/-- What stands under a key does not depend on the order of the keys. -/
theorem Distinct.lookup_perm {others : Entries} (distinct : entries.Distinct) (perm : others.Perm entries) (key : Text) :
    others.lookup key = entries.lookup key := by
  have otherDistinct : others.Distinct := (perm.map Prod.fst).nodup_iff.mpr distinct
  apply Option.ext
  intro node
  rw [lookup_eq_some_iff_mem otherDistinct, lookup_eq_some_iff_mem distinct, perm.mem_iff]

private theorem exists_of_return {α : Type} {work : Option α} {result : α → Entries}
    (done : (do return result (← work)) = some changed) : ∃ inner, changed = result inner := by
  obtain ⟨inner, -, same⟩ := Option.bind_eq_some_iff.mp done
  exact ⟨inner, (Option.some.inj same).symm⟩

/-- A change below a key adds the key, or changes what stands under it. -/
theorem eq_of_changeAt {byDottedKey : Bool} {change : Origin → Entries → Option Entries} {path : List Text}
    (done : changeAt byDottedKey change (key :: path) origin entries = some changed) :
    ∃ node, (entries.lookup key = none ∧ changed = entries ++ [(key, node)]) ∨ changed = entries.replace key node := by
  rw [changeAt] at done
  split at done
  · obtain ⟨inner, rfl⟩ := exists_of_return done
    exact ⟨_, .inl ⟨‹_›, rfl⟩⟩
  · split at done
    · obtain ⟨inner, rfl⟩ := exists_of_return done
      exact ⟨_, .inr rfl⟩
    · cases done
  · obtain ⟨inner, rfl⟩ := exists_of_return done
    exact ⟨_, .inr rfl⟩
  · cases done

theorem Distinct.changeAt {byDottedKey : Bool} {change : Origin → Entries → Option Entries} {path : List Text}
    (distinct : entries.Distinct) (kept : ∀ origin changed, change origin entries = some changed → changed.Distinct)
    (done : changeAt byDottedKey change path origin entries = some changed) : changed.Distinct := by
  cases path with
  | nil => exact kept origin changed done
  | cons key path =>
    obtain ⟨node, ⟨missing, rfl⟩ | rfl⟩ := eq_of_changeAt done
    · exact distinct.append missing
    · exact distinct.replace

theorem Distinct.insert {path : List Text} (distinct : entries.Distinct)
    (done : entries.insert path node origin = some changed) : changed.Distinct := by
  obtain ⟨key, -, done⟩ := Option.bind_eq_some_iff.mp done
  refine distinct.changeAt (fun origin changed done => ?_) done
  split at done
  · cases done
  · rename_i new
    cases done
    exact distinct.append (Option.not_isSome_iff_eq_none.mp fun found => new (.inr found))

private theorem distinct_foldlM {ι : Type} {step : Entries → ι → Option Entries}
    (kept : ∀ entries item changed, entries.Distinct → step entries item = some changed → changed.Distinct)
    {items : List ι} (distinct : entries.Distinct) (done : items.foldlM step entries = some changed) : changed.Distinct := by
  induction items generalizing entries with
  | nil =>
    cases done
    exact distinct
  | cons item items ih =>
    rw [List.foldlM_cons] at done
    obtain ⟨middle, first, rest⟩ := Option.bind_eq_some_iff.mp done
    exact ih (kept _ _ _ distinct first) rest

theorem Distinct.insertAll {pairs : List (List Text × Node)} (distinct : entries.Distinct)
    (done : entries.insertAll pairs origin = some changed) : changed.Distinct :=
  distinct_foldlM (fun _ _ _ => Distinct.insert) distinct done

theorem Distinct.place {part : Section} (distinct : entries.Distinct) (done : part.place entries = some changed) :
    changed.Distinct := by
  obtain ⟨key, -, done⟩ := Option.bind_eq_some_iff.mp done
  refine distinct.changeAt (fun origin changed done => ?_) done
  split at done
  · split at done
    · obtain ⟨inner, rfl⟩ := exists_of_return done
      exact distinct.append ‹_›
    · obtain ⟨inner, rfl⟩ := exists_of_return done
      exact distinct.replace
    · cases done
  · split at done
    · obtain ⟨inner, rfl⟩ := exists_of_return done
      exact distinct.append ‹_›
    · -- The table moves behind the others.
      obtain ⟨inner, rfl⟩ := exists_of_return done
      exact (distinct.remove key).append (lookup_remove key entries)
    · cases done

end Entries

theorem distinct_of_ofText? {text : Text} {entries : Entries} (document : ofText? text = some entries) : entries.Distinct := by
  obtain ⟨⟨found, rest⟩, -, document⟩ := Option.bind_eq_some_iff.mp document
  obtain ⟨root, pairs, parts⟩ := Option.bind_eq_some_iff.mp document
  have empty : Entries.Distinct [] := List.nodup_nil
  exact Entries.distinct_foldlM (fun _ _ _ => Entries.Distinct.place) (empty.insertAll pairs) parts

end InlineStyle.Toml
