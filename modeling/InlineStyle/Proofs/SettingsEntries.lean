import InlineStyle.Proofs.DocumentKeys
import InlineStyle.Proofs.FlagLayers
import Mathlib.Data.List.Induction
import Mathlib.Data.Option.Basic

/-! Settings, entry by entry. An entry is a setting or has one thing wrong with it, wherever it stands. The entries of a
document set different things, so their order counts only where one of them is wrong. -/

namespace InlineStyle.Settings

inductive Sound : Text × Toml.Node → Prop where
  | strict (value : Bool) : Sound ("strict".toList, .boolean value)
  | format (chosen : Format) : Sound ("format".toList, .string chosen.name)
  | logLevel (level : Text) : Sound ("log_level".toList, .string level)

inductive Offends : Text × Toml.Node → Problem → Prop where
  | unknown {name : Text} {node : Toml.Node} (other : name ∉ ["strict".toList, "format".toList, "log_level".toList]) :
    Offends (name, node) (.unknownField name)
  | strict {node : Toml.Node} (other : ∀ value, node ≠ .boolean value) :
    Offends ("strict".toList, node) (.wrongType node "a boolean".toList)
  | format {name : Text} (other : ∀ format : Format, name ≠ format.name) :
    Offends ("format".toList, .string name) (.unknownVariant name)
  | logLevel {node : Toml.Node} (other : ∀ level, node ≠ .string level) :
    Offends ("log_level".toList, node) (.wrongType node "a string".toList)

/-- The first entry that is no setting decides, whatever follows it. -/
inductive FirstOffence : Toml.Entries → Problem → Prop where
  | found {before after : Toml.Entries} {entry : Text × Toml.Node} {problem : Problem}
      (sound : ∀ earlier ∈ before, Sound earlier) (offends : Offends entry problem) :
      FirstOffence (before ++ entry :: after) problem

/-- A format that is given is given by a name. -/
def Named (entry : Text × Toml.Node) : Prop := entry.1 = "format".toList → ∃ name, entry.2 = .string name

/-- The settings have what stands under their keys, and the default where a key is missing. -/
structure Gives (entries : Toml.Entries) (settings : Settings) : Prop where
  strict : (entries.lookup "strict".toList).getD (.boolean false) = .boolean settings.strict
  format : (entries.lookup "format".toList).getD (.string Format.object.name) = .string settings.format.name
  logLevel : entries.lookup "log_level".toList = settings.logLevel.map .string

variable {settings : Settings} {entry : Text × Toml.Node} {entries : Toml.Entries} {problem : Problem}

theorem Gives.unique {others : Settings} (gives : Gives entries settings) (same : Gives entries others) : settings = others := by
  have strict := Toml.Node.boolean.inj (gives.strict.symm.trans same.strict)
  have format := Toml.Node.string.inj (gives.format.symm.trans same.format)
  have formats : some settings.format = some others.format := by
    rw [← formatNamed?_name, ← formatNamed?_name, format]
  have levels : settings.logLevel = others.logLevel :=
    Option.map_injective (fun _ _ => Toml.Node.string.inj) (gives.logLevel.symm.trans same.logLevel)
  cases settings
  cases others
  cases strict
  cases formats
  cases levels
  rfl

theorem Gives.perm {others : Toml.Entries} (gives : Gives entries settings) (distinct : entries.Distinct)
    (perm : others.Perm entries) : Gives others settings where
  strict := distinct.lookup_perm perm _ ▸ gives.strict
  format := distinct.lookup_perm perm _ ▸ gives.format
  logLevel := distinct.lookup_perm perm _ ▸ gives.logLevel

/-! One entry -/

theorem sound_or_offends (named : Named entry) : Sound entry ∨ ∃ problem, Offends entry problem := by
  obtain ⟨name, node⟩ := entry
  by_cases known : name ∈ ["strict".toList, "format".toList, "log_level".toList]
  · simp only [List.mem_cons, List.not_mem_nil, or_false] at known
    rcases known with rfl | rfl | rfl
    · by_cases boolean : ∃ value, node = .boolean value
      · obtain ⟨value, rfl⟩ := boolean
        exact .inl (.strict value)
      · exact .inr ⟨_, .strict (not_exists.mp boolean)⟩
    · obtain ⟨name, rfl⟩ := named rfl
      by_cases variant : ∃ format : Format, name = format.name
      · obtain ⟨format, rfl⟩ := variant
        exact .inl (.format format)
      · exact .inr ⟨_, .format (not_exists.mp variant)⟩
    · by_cases string : ∃ level, node = .string level
      · obtain ⟨level, rfl⟩ := string
        exact .inl (.logLevel level)
      · exact .inr ⟨_, .logLevel (not_exists.mp string)⟩
  · exact .inr ⟨_, .unknown known⟩

theorem withEntry_of_offends (offends : Offends entry problem) (settings : Settings) :
    withEntry settings entry = .error problem := by
  cases offends with
  | unknown other =>
    simp only [List.mem_cons, List.not_mem_nil, or_false, not_or] at other
    simp only [withEntry, other, if_false]
  | @strict node other =>
    cases node with
    | boolean value => exact absurd rfl (other value)
    | _ => rfl
  | @format name other =>
    have object : name ≠ "object".toList := other .object
    have jsx : name ≠ "jsx".toList := other .jsx
    have refused : formatOf (.string name) = .error (.unknownVariant name) := by
      simp only [formatOf, variant, formatNamed?, object, jsx, if_false]
    have apart : "format".toList ≠ "strict".toList := by decide
    simp only [withEntry, apart, if_false, if_true, refused]
    rfl
  | @logLevel node other =>
    cases node with
    | string level => exact absurd rfl (other level)
    | _ => rfl

/-- A setting is taken over, and it is the only one that changes. -/
theorem exists_withEntry (sound : Sound entry) (missing : entries.lookup entry.1 = none) (gives : Gives entries settings) :
    ∃ next, withEntry settings entry = .ok next ∧ Gives (entries ++ [entry]) next := by
  cases sound with
  | strict value =>
    refine ⟨{ settings with strict := value }, rfl, ?_, ?_, ?_⟩
    · rw [Toml.Entries.lookup_concat_self missing, Option.getD_some]
    · rw [Toml.Entries.lookup_concat_other (by decide)]
      exact gives.format
    · rw [Toml.Entries.lookup_concat_other (by decide)]
      exact gives.logLevel
  | format chosen =>
    have taken : withEntry settings ("format".toList, .string chosen.name) = .ok { settings with format := chosen } := by
      cases chosen <;> rfl
    refine ⟨_, taken, ?_, ?_, ?_⟩
    · rw [Toml.Entries.lookup_concat_other (by decide)]
      exact gives.strict
    · rw [Toml.Entries.lookup_concat_self missing, Option.getD_some]
    · rw [Toml.Entries.lookup_concat_other (by decide)]
      exact gives.logLevel
  | logLevel level =>
    refine ⟨{ settings with logLevel := some level }, rfl, ?_, ?_, ?_⟩
    · rw [Toml.Entries.lookup_concat_other (by decide)]
      exact gives.strict
    · rw [Toml.Entries.lookup_concat_other (by decide)]
      exact gives.format
    · rw [Toml.Entries.lookup_concat_self missing]
      rfl

/-! A document -/

theorem exists_ofEntries (distinct : entries.Distinct) (sound : ∀ entry ∈ entries, Sound entry) :
    ∃ settings, ofEntries entries = .ok settings ∧ Gives entries settings := by
  induction entries using List.reverseRecOn with
  | nil => exact ⟨{}, rfl, rfl, rfl, rfl⟩
  | append_singleton entries entry ih =>
    rw [List.forall_mem_append] at sound
    obtain ⟨settings, taken, gives⟩ := ih distinct.of_append sound.1
    obtain ⟨next, last, all⟩ := exists_withEntry (sound.2 entry (List.mem_singleton_self entry)) distinct.missing gives
    refine ⟨next, ?_, all⟩
    rw [ofEntries] at taken ⊢
    rw [List.foldlM_append, taken]
    exact (bind_pure _).trans last

theorem ofEntries_of_firstOffence (distinct : entries.Distinct) (first : FirstOffence entries problem) :
    ofEntries entries = .error problem := by
  obtain @⟨before, after, entry, _, sound, offends⟩ := first
  obtain ⟨settings, taken, -⟩ := exists_ofEntries distinct.of_append sound
  have stopped : (entry :: after).foldlM withEntry settings = .error problem := by
    rw [List.foldlM_cons, withEntry_of_offends offends]
    rfl
  rw [ofEntries] at taken ⊢
  rw [List.foldlM_append, taken]
  exact stopped

theorem sound_or_firstOffence (named : ∀ entry ∈ entries, Named entry) :
    (∀ entry ∈ entries, Sound entry) ∨ ∃ problem, FirstOffence entries problem := by
  induction entries with
  | nil => exact .inl (List.forall_mem_nil _)
  | cons head entries ih =>
    rw [List.forall_mem_cons] at named
    rcases sound_or_offends named.1 with sound | ⟨problem, offends⟩
    · rcases ih named.2 with rest | ⟨problem, later, offends⟩
      · exact .inl (List.forall_mem_cons.mpr ⟨sound, rest⟩)
      · exact .inr ⟨problem, @FirstOffence.found (head :: _) _ _ _ (List.forall_mem_cons.mpr ⟨sound, later⟩) offends⟩
    · exact .inr ⟨problem, @FirstOffence.found [] _ _ _ (List.forall_mem_nil _) offends⟩

theorem ofEntries_eq_ok_iff (distinct : entries.Distinct) (named : ∀ entry ∈ entries, Named entry) :
    ofEntries entries = .ok settings ↔ (∀ entry ∈ entries, Sound entry) ∧ Gives entries settings := by
  constructor
  · intro taken
    rcases sound_or_firstOffence named with sound | ⟨problem, first⟩
    · obtain ⟨given, same, gives⟩ := exists_ofEntries distinct sound
      cases same.symm.trans taken
      exact ⟨sound, gives⟩
    · cases (ofEntries_of_firstOffence distinct first).symm.trans taken
  · rintro ⟨sound, gives⟩
    obtain ⟨given, taken, same⟩ := exists_ofEntries distinct sound
    rwa [gives.unique same]

theorem ofEntries_eq_error_iff (distinct : entries.Distinct) (named : ∀ entry ∈ entries, Named entry) :
    ofEntries entries = .error problem ↔ FirstOffence entries problem := by
  constructor
  · intro stopped
    rcases sound_or_firstOffence named with sound | ⟨other, first⟩
    · obtain ⟨given, taken, -⟩ := exists_ofEntries distinct sound
      cases taken.symm.trans stopped
    · cases (ofEntries_of_firstOffence distinct first).symm.trans stopped
      exact first
  · exact ofEntries_of_firstOffence distinct

theorem ofToml_of_document {text : Text} (document : Toml.ofText? text = some entries) : ofToml text = ofEntries entries := by
  rw [ofToml, document]

/-- Settings are read from a document in which every entry is one, and hold what it gives, in whatever order. From any other
document comes the error of the first entry that is none. -/
theorem ofToml_decided_by_entries {text : Text} (document : Toml.ofText? text = some entries)
    (named : ∀ entry ∈ entries, Named entry) :
    ((∃ settings, ofToml text = .ok settings) ↔ ∀ entry ∈ entries, Sound entry) ∧
    (∀ settings, ofToml text = .ok settings ↔ (∀ entry ∈ entries, Sound entry) ∧ Gives entries settings) ∧
    (∀ problem, ofToml text = .error problem ↔ FirstOffence entries problem) ∧
    ∀ other others, Toml.ofText? other = some others → others.Perm entries →
      ∀ settings, ofToml other = .ok settings ↔ ofToml text = .ok settings := by
  have distinct := Toml.distinct_of_ofText? document
  have ok (settings : Settings) : ofToml text = .ok settings ↔ (∀ entry ∈ entries, Sound entry) ∧ Gives entries settings := by
    rw [ofToml_of_document document]
    exact ofEntries_eq_ok_iff distinct named
  refine ⟨⟨?_, fun sound => ?_⟩, ok, fun problem => ?_, fun other others otherDocument perm settings => ?_⟩
  · rintro ⟨settings, taken⟩
    exact ((ok settings).mp taken).1
  · obtain ⟨settings, taken, -⟩ := exists_ofEntries distinct sound
    exact ⟨settings, (ofToml_of_document document).trans taken⟩
  · rw [ofToml_of_document document]
    exact ofEntries_eq_error_iff distinct named
  · have otherDistinct := Toml.distinct_of_ofText? otherDocument
    have otherNamed : ∀ entry ∈ others, Named entry := fun entry member => named entry (perm.mem_iff.mp member)
    rw [ofToml_of_document otherDocument, ofEntries_eq_ok_iff otherDistinct otherNamed, ok]
    constructor
    · rintro ⟨sound, gives⟩
      exact ⟨fun entry member => sound entry (perm.mem_iff.mpr member), gives.perm otherDistinct perm.symm⟩
    · rintro ⟨sound, gives⟩
      exact ⟨fun entry member => sound entry (perm.mem_iff.mp member), gives.perm distinct perm⟩

/-- What an entry holds, if that is a truth value or a string. -/
def plain? : Text × Toml.Node → Option (Text × (Bool ⊕ Text))
  | (name, .boolean value) => some (name, .inl value)
  | (name, .string text) => some (name, .inr text)
  | _ => none

theorem eq_of_plain? {pair : Text × (Bool ⊕ Text)} (read : plain? entry = some pair) :
    entry = (pair.1, pair.2.elim .boolean .string) := by
  obtain ⟨name, node⟩ := entry
  cases node with
  | boolean value | string text =>
    cases read
    rfl
  | _ => cases read

theorem eq_of_mapM_plain? {pairs : List (Text × (Bool ⊕ Text))} (read : entries.mapM plain? = some pairs) :
    entries = pairs.map fun pair => (pair.1, pair.2.elim .boolean .string) := by
  induction entries generalizing pairs with
  | nil =>
    cases read
    rfl
  | cons entry entries ih =>
    simp only [List.mapM_cons, Option.bind_eq_bind, Option.bind_eq_some_iff, Option.pure_def, Option.some.injEq] at read
    obtain ⟨pair, first, others, rest, rfl⟩ := read
    rw [List.map_cons, eq_of_plain? first, ih rest]

/-- A document without anything else can be told from what its entries hold. -/
theorem document_of_plain {text : Text} {pairs : List (Text × (Bool ⊕ Text))}
    (read : ((Toml.ofText? text).bind fun entries => entries.mapM plain?) = some pairs) :
    Toml.ofText? text = some (pairs.map fun pair => (pair.1, pair.2.elim .boolean .string)) := by
  obtain ⟨entries, document, read⟩ := Option.bind_eq_some_iff.mp read
  rw [document, eq_of_mapM_plain? read]

/-- Two settings in either order, and a document with two entries that are none, of which the first one is told of. -/
theorem ofToml_decided_in_any_order :
    let settings : Settings := { strict := true, format := .object, logLevel := some "warn".toList }
    ofToml "strict = true\nlog_level = \"warn\"".toList = .ok settings ∧
      ofToml "log_level = \"warn\"\nstrict = true".toList = .ok settings ∧
      ofToml "strict = true\nformat = \"JSX\"\ncolour = \"red\"".toList = .error (.unknownVariant "JSX".toList) := by
  intro settings
  have last := @document_of_plain "strict = true\nlog_level = \"warn\"".toList
    [("strict".toList, .inl true), ("log_level".toList, .inr "warn".toList)] (by decide +kernel)
  have first := @document_of_plain "log_level = \"warn\"\nstrict = true".toList
    [("log_level".toList, .inr "warn".toList), ("strict".toList, .inl true)] (by decide +kernel)
  have wrong := @document_of_plain "strict = true\nformat = \"JSX\"\ncolour = \"red\"".toList
    [("strict".toList, .inl true), ("format".toList, .inr "JSX".toList), ("colour".toList, .inr "red".toList)]
    (by decide +kernel)
  obtain ⟨-, ok, -, reordered⟩ := ofToml_decided_by_entries last (by simp [Named])
  have taken : ofToml "strict = true\nlog_level = \"warn\"".toList = .ok settings :=
    (ok settings).mpr ⟨by simpa using ⟨Sound.strict true, Sound.logLevel _⟩, rfl, rfl, rfl⟩
  obtain ⟨-, -, error, -⟩ := ofToml_decided_by_entries wrong (by simp [Named])
  refine ⟨taken, (reordered _ _ first (.swap _ _ _) settings).mpr taken, (error _).mpr ?_⟩
  have sound : ∀ earlier ∈ [("strict".toList, Toml.Node.boolean true)], Sound earlier := by
    simpa using Sound.strict true
  refine .found sound (.format fun format => ?_)
  cases format <;> decide

end InlineStyle.Settings
