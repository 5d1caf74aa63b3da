import InlineStyle.Proofs.CommandLine
import Mathlib.Data.List.Induction

/-! Flags can stand before the command and behind it, in any order and between any words. What a place says about a flag
does not depend on where in the place it is said, the place behind the command outranks the one before it, and both
outrank the settings of the file. -/

namespace InlineStyle

def Format.name : Format → Text
  | .object => "object".toList
  | .jsx => "jsx".toList

theorem formatNamed?_name (format : Format) : Settings.formatNamed? format.name = some format := by
  cases format <;> rfl

namespace Invocation

def Valued.name : Valued → Text
  | .config => "config".toList
  | .format => "format".toList

/-- No flag, also if it is empty. -/
def Plain (text : Text) : Prop := text.head? ≠ some '-'

/-- A flag as it is written. A value stands behind an equals sign or is the next argument. -/
inductive Written where
  | strict
  | format (chosen : Format) (attached : Bool)
  | config (path : Text) (attached : Bool) (nonempty : path ≠ []) (plain : Plain path)
  | verbose
  /-- One letter and some more of them. -/
  | letters (more : Nat)
deriving DecidableEq

namespace Written

def valued (flag : Valued) (value : Text) (attached : Bool) : List Text :=
  let name := "--".toList ++ flag.name
  if attached then [name ++ '=' :: value] else [name, value]

def arguments : Written → List Text
  | .strict => ["--strict".toList]
  | .format chosen attached => valued .format chosen.name attached
  | .config path attached _ _ => valued .config path attached
  | .verbose => ["--verbose".toList]
  | .letters more => ['-' :: List.replicate (more + 1) 'v']

def format? : Written → Option Format
  | .format chosen _ => some chosen
  | _ => none

def config? : Written → Option Text
  | .config path _ _ _ => some path
  | _ => none

def loudness : Written → Nat
  | .verbose => 1
  | .letters more => more + 1
  | _ => 0

end Written

/-- Only verbosity is given more than once. -/
structure Once (flags : List Written) : Prop where
  strict : flags.count .strict ≤ 1
  format : (flags.filterMap Written.format?).length ≤ 1
  config : (flags.filterMap Written.config?).length ≤ 1

def verbosity (flags : List Written) : Nat := flags.foldl (fun count flag => count + flag.loudness) 0

theorem verbosity_concat (flags : List Written) (last : Written) :
    verbosity (flags ++ [last]) = verbosity flags + last.loudness := by
  simp [verbosity]

def Flags.said (flags : List Written) : Flags where
  config := flags.findSome? Written.config?
  strict := flags.contains .strict
  format := flags.findSome? Written.format?
  verbose := min verboseLimit (verbosity flags)

inductive Item where
  | flag (given : Written)
  | word (text : Text) (plain : Plain text)

namespace Item

def arguments : Item → List Text
  | .flag given => given.arguments
  | .word text _ => [text]

def flag? : Item → Option Written
  | .flag given => some given
  | .word .. => none

def word? : Item → Option Text
  | .flag _ => none
  | .word text _ => some text

def flags (items : List Item) : List Written := items.filterMap flag?

def words (items : List Item) : List Text := items.filterMap word?

end Item

variable {place : Place} {flags : Flags} {words : List Text} {scan : Scan} {text : Text}

theorem Argument.ofText_plain (plain : Plain text) : Argument.ofText text = .word text := by
  cases text with
  | nil => rfl
  | cons c text =>
    have other : c ≠ '-' := fun dash => plain (congrArg some dash)
    simp [Argument.ofText, other]

namespace Scan

def Comes (scan : Scan) (flags : Flags) (words : List Text) : Prop := scan.settle = .ok { flags, words }

theorem comes_settled (flags : Flags) (words : List Text) : Comes { flags, words } flags words := rfl

theorem raise_verbose (comes : scan.Comes flags words) :
    scan.raise .verbose = .ok { flags := { flags with verbose := min verboseLimit (flags.verbose + 1) }, words } := by
  rw [raise, comes]
  rfl

theorem raise_strict (comes : scan.Comes flags words) (fresh : flags.strict = false) :
    scan.raise .strict = .ok { flags := { flags with strict := true }, words } := by
  rw [raise, comes]
  simp only [bind, Except.bind, fresh]
  rfl

theorem raise_valued (comes : scan.Comes flags words) (flag : Valued) :
    scan.raise (.valued flag) = .ok { flags, held := some (.awaiting flag), words } := by
  rw [raise, comes]
  rfl

theorem letters_verbose (comes : scan.Comes flags words) (more : Nat) :
    scan.letters place (List.replicate (more + 1) 'v') =
      .ok { flags := { flags with verbose := min verboseLimit (flags.verbose + (more + 1)) }, words } := by
  have letter : letterFlag? place 'v' = some .verbose := rfl
  induction more generalizing scan flags with
  | zero =>
    rw [List.replicate_one, letters, List.foldlM_cons, letter]
    simp only [raise_verbose comes]
    rfl
  | succ more ih =>
    rw [List.replicate_succ, letters, List.foldlM_cons, letter]
    simp only [raise_verbose comes]
    refine (ih (comes_settled _ _)).trans ?_
    have saturated : min verboseLimit (min verboseLimit (flags.verbose + 1) + (more + 1)) =
        min verboseLimit (flags.verbose + (more + 1 + 1)) := by omega
    rw [saturated]

/-- A flag takes its value either way it is written, though one that is an argument of its own is looked at later. -/
theorem take_valued {flag : Valued} {value : Text} {assigned : Flags} (comes : scan.Comes flags words)
    (assigns : flags.assign value flag = .ok assigned) (plain : Plain value) (attached : Bool) :
    ∃ next, (Written.valued flag value attached).foldlM (take place) scan = .ok next ∧ next.Comes assigned words := by
  cases attached with
  | true =>
    have taken : scan.take place ("--".toList ++ flag.name ++ '=' :: value) = .ok { flags := assigned, words } := by
      have attached : scan.take place ("--".toList ++ flag.name ++ '=' :: value) = (do
          let scan ← scan.settle
          return { scan with flags := ← scan.flags.assign value flag }) := by
        cases flag <;> rfl
      rw [attached, comes]
      simp only [bind, Except.bind, assigns]
      rfl
    exact ⟨_, (congrArg (· >>= pure) taken : _), comes_settled assigned words⟩
  | false =>
    have raised : scan.take place ("--".toList ++ flag.name) = .ok { flags, held := some (.awaiting flag), words } := by
      have named : scan.take place ("--".toList ++ flag.name) = scan.raise (.valued flag) := by
        cases flag <;> rfl
      rw [named, raise_valued comes]
    have given : take place { flags, held := some (.awaiting flag), words } value =
        .ok { flags, held := some (.given flag value), words } := by
      rw [take, Argument.ofText_plain plain]
    refine ⟨{ flags, held := some (.given flag value), words }, ?_, ?_⟩
    · simp only [Written.valued, Bool.false_eq_true, ite_false, List.foldlM_cons, raised]
      exact congrArg (· >>= pure) given
    · simp only [Comes, settle, assigns]
      rfl

end Scan

namespace Written

/-- Whether the flag can still be given where these were. -/
def Fresh (flags : Flags) : Written → Prop
  | .strict => flags.strict = false
  | .format .. => flags.format = none
  | .config .. => flags.config = none
  | .verbose | .letters _ => True

def record (flags : Flags) : Written → Flags
  | .strict => { flags with strict := true }
  | .format chosen _ => { flags with format := some chosen }
  | .config path _ _ _ => { flags with config := some path }
  | .verbose => { flags with verbose := min verboseLimit (flags.verbose + 1) }
  | .letters more => { flags with verbose := min verboseLimit (flags.verbose + (more + 1)) }

theorem take_arguments {written : Written} (comes : scan.Comes flags words) (fresh : written.Fresh flags) :
    ∃ next, written.arguments.foldlM (Scan.take place) scan = .ok next ∧ next.Comes (written.record flags) words := by
  have single {argument : Text} {next : Scan} (taken : scan.take place argument = .ok next) :
      [argument].foldlM (Scan.take place) scan = .ok next := by
    rw [List.foldlM_cons, taken]
    rfl
  cases written with
  | strict => exact ⟨_, single (Scan.raise_strict comes fresh), Scan.comes_settled _ _⟩
  | format chosen attached =>
    have assigns : flags.assign chosen.name .format = .ok { flags with format := some chosen } := by
      have absent : flags.format = none := fresh
      simp only [Flags.assign, absent, Option.isSome_none, Bool.false_eq_true, ite_false, formatNamed?_name]
    have plain : Plain chosen.name := by
      rw [Plain]
      cases chosen <;> decide
    exact Scan.take_valued comes assigns plain attached
  | config path attached nonempty plain =>
    have assigns : flags.assign path .config = .ok { flags with config := some path } := by
      have absent : flags.config = none := fresh
      simp [Flags.assign, absent, nonempty]
    exact Scan.take_valued comes assigns plain attached
  | verbose => exact ⟨_, single (Scan.raise_verbose comes), Scan.comes_settled _ _⟩
  | letters more => exact ⟨_, single (Scan.letters_verbose comes more), Scan.comes_settled _ _⟩

theorem findSome?_of_once {α : Type} {read : Written → Option α} {flags : List Written} {last : Written} {value : α}
    (once : ((flags ++ [last]).filterMap read).length ≤ 1) (reads : read last = some value) : flags.findSome? read = none := by
  have none_before : flags.filterMap read = [] := by
    rw [List.filterMap_append, List.filterMap_cons_some reads, List.length_append] at once
    exact List.length_eq_zero_iff.mp (by simpa using once)
  rw [← List.head?_filterMap, none_before, List.head?_nil]

theorem fresh_of_once {flags : List Written} {last : Written} (once : Once (flags ++ [last])) : last.Fresh (Flags.said flags) := by
  cases last with
  | strict =>
    have absent : flags.count .strict = 0 := by simpa using once.strict
    simpa [Fresh, Flags.said] using List.count_eq_zero.mp absent
  | format chosen attached => exact findSome?_of_once once.format rfl
  | config path attached nonempty plain => exact findSome?_of_once once.config rfl
  | verbose | letters more => trivial

theorem said_concat {flags : List Written} {last : Written} (once : Once (flags ++ [last])) :
    Flags.said (flags ++ [last]) = last.record (Flags.said flags) := by
  have fresh := fresh_of_once once
  rw [Flags.said, verbosity_concat, List.findSome?_append, List.findSome?_append]
  cases last with
  | strict => simp [Flags.said, record, loudness, format?, config?]
  | format chosen attached =>
    have absent : flags.findSome? format? = none := fresh
    simp [Flags.said, record, loudness, format?, config?, absent]
  | config path attached nonempty plain =>
    have absent : flags.findSome? config? = none := fresh
    simp [Flags.said, record, loudness, format?, config?, absent]
  | verbose =>
    have saturated : min verboseLimit (verbosity flags + 1) = min verboseLimit (min verboseLimit (verbosity flags) + 1) := by
      omega
    simp [Flags.said, record, loudness, format?, config?, saturated]
  | letters more =>
    have saturated : min verboseLimit (verbosity flags + (more + 1)) =
        min verboseLimit (min verboseLimit (verbosity flags) + (more + 1)) := by
      omega
    simp [Flags.said, record, loudness, format?, config?, saturated]

end Written

theorem Once.front {flags : List Written} {last : Written} (once : Once (flags ++ [last])) : Once flags where
  strict := Nat.le_trans (by simp) once.strict
  format := Nat.le_trans (by simp) once.format
  config := Nat.le_trans (by simp) once.config

namespace Scan

theorem Comes.not_awaiting (comes : scan.Comes flags words) (flag : Valued) : scan.held ≠ some (.awaiting flag) := by
  intro held
  rw [Comes, settle, held] at comes
  cases comes

theorem take_word (comes : scan.Comes flags words) (plain : Plain text) :
    ∃ next, scan.take .style text = .ok next ∧ next.Comes flags (words ++ [text]) := by
  have taken : scan.take .style text = scan.word .style text := by
    simp only [take, Argument.ofText_plain plain]
    split
    next flag held => exact absurd held (comes.not_awaiting flag)
    next => rfl
  rw [taken, word_eq, comes]
  exact ⟨_, rfl, comes_settled _ _⟩

end Scan

/-- Only styling takes words, and wherever they stand among the flags it keeps their order. -/
theorem take_items {items : List Item} (once : Once (Item.flags items)) (allowed : place = .style ∨ Item.words items = []) :
    ∃ next, (items.flatMap Item.arguments).foldlM (Scan.take place) {} = .ok next ∧
      next.Comes (Flags.said (Item.flags items)) (Item.words items) := by
  induction items using List.reverseRecOn with
  | nil => exact ⟨{}, rfl, rfl⟩
  | append_singleton items item ih =>
    rw [List.flatMap_append, List.flatMap_singleton, List.foldlM_append]
    cases item with
    | flag given =>
      have last : Item.flags (items ++ [.flag given]) = Item.flags items ++ [given] := by simp [Item.flags, Item.flag?]
      have same : Item.words (items ++ [.flag given]) = Item.words items := by simp [Item.words, Item.word?]
      rw [last] at once ⊢
      rw [same] at allowed ⊢
      obtain ⟨scan, taken, comes⟩ := ih once.front allowed
      rw [taken, Written.said_concat once]
      exact Written.take_arguments comes (Written.fresh_of_once once)
    | word text plain =>
      have same : Item.flags (items ++ [.word text plain]) = Item.flags items := by simp [Item.flags, Item.flag?]
      have last : Item.words (items ++ [.word text plain]) = Item.words items ++ [text] := by simp [Item.words, Item.word?]
      rw [same] at once ⊢
      rw [last] at allowed ⊢
      obtain rfl : place = .style := allowed.resolve_right (by simp)
      obtain ⟨scan, taken, comes⟩ := ih once (.inl rfl)
      obtain ⟨next, more, settled⟩ := Scan.take_word comes plain
      rw [taken]
      exact ⟨next, (congrArg (· >>= pure) more : _), settled⟩

theorem before_awaiting {argument : Text} {arguments : List Text} {flag : Valued} (shape : Argument.ofText argument = .word text)
    (held : scan.held = some (.awaiting flag)) :
    before scan (argument :: arguments) = before { scan with held := some (.given flag text) } arguments := by
  simp only [before, shape, held]

/-- Before the command, arguments that are neither commands nor dashes are taken as behind it. -/
theorem before_of_taken {arguments rest : List Text} {next : Scan}
    (taken : arguments.foldlM (Scan.take .top) scan = .ok next) : before scan (arguments ++ rest) = before next rest := by
  induction arguments generalizing scan with
  | nil =>
    cases taken
    rfl
  | cons argument arguments ih =>
    rw [List.foldlM_cons] at taken
    obtain ⟨middle, first, taken⟩ := ok_of_bind taken
    have later := ih taken
    rw [List.cons_append]
    cases shape : Argument.ofText argument with
    | terminator =>
      simp only [Scan.take, shape] at first
      cases first
    | long text =>
      simp only [Scan.take, shape] at first
      simp only [before, shape, first]
      exact later
    | letters text =>
      simp only [Scan.take, shape] at first
      simp only [before, shape, first]
      exact later
    | word text =>
      simp only [Scan.take, shape] at first
      split at first
      next flag held =>
        cases first
        rw [before_awaiting shape held]
        exact later
      next => cases first

theorem behind_of_taken {arguments : List Text} {next : Scan}
    (taken : arguments.foldlM (Scan.take place) scan = .ok next) : behind place scan arguments = next.settle := by
  have plain : "--".toList ∉ arguments := by
    induction arguments generalizing scan with
    | nil => exact List.not_mem_nil
    | cons argument arguments ih =>
      rw [List.foldlM_cons] at taken
      obtain ⟨middle, first, taken⟩ := ok_of_bind taken
      rw [List.mem_cons, not_or]
      refine ⟨?_, ih taken⟩
      rintro rfl
      cases first
  have alone : behind place scan (arguments ++ []) = _ := behind_append plain scan []
  rw [List.append_nil, taken] at alone
  exact alone

theorem before_command {name : Text} {arguments : List Text} (comes : scan.Comes flags words) (plain : Plain name)
    (known : place? name = some place) : before scan (name :: arguments) = finish scan place arguments := by
  simp only [before, Argument.ofText_plain plain, known]
  split
  next flag held => exact absurd held (comes.not_awaiting flag)
  next => rfl

theorem take_flags {flags : List Written} (once : Once flags) :
    ∃ next, (flags.flatMap Written.arguments).foldlM (Scan.take place) {} = .ok next ∧ next.Comes (Flags.said flags) [] := by
  have same : Item.flags (flags.map .flag) = flags := by
    rw [Item.flags, List.filterMap_map]
    exact List.filterMap_some
  have wordless : Item.words (flags.map .flag) = [] := by
    rw [Item.words, List.filterMap_map]
    exact List.filterMap_eq_nil_iff.mpr fun _ _ => rfl
  have taken := @take_items place _ (same.symm ▸ once) (.inr wordless)
  rw [same, wordless, List.flatMap_map] at taken
  exact taken

/-- Each place comes to what is said in it, and the two are laid over each other. -/
theorem ofArguments_layered {before : List Written} {after : List Item} {name : Text} (once : Once before)
    (onceBehind : Once (Item.flags after)) (plain : Plain name) (known : place? name = some place)
    (allowed : place = .style ∨ Item.words after = []) :
    ofArguments (before.flatMap Written.arguments ++ name :: after.flatMap Item.arguments) =
      .ok (layered (if place = .markup then .markup else .style (Item.words after) false)
        (Flags.said before) (Flags.said (Item.flags after))) := by
  obtain ⟨outer, taken, settled⟩ := @take_flags .top _ once
  obtain ⟨inner, behind, done⟩ := take_items onceBehind allowed
  rw [ofArguments, before_of_taken taken, before_command settled plain known, finish, behind_of_taken behind, done, settled]
  rfl

private theorem layered_verbosity (first second : Nat) :
    (if min verboseLimit second = 0 then min verboseLimit first else min verboseLimit second) =
      min (if 0 < second then second else first) verboseLimit := by
  rcases Nat.eq_zero_or_pos second with rfl | some
  · exact Nat.min_comm _ _
  · have limit : 0 < verboseLimit := by decide
    rw [if_neg (by omega), if_pos some, Nat.min_comm]

theorem layered_said (command : Command) (before after : List Written) :
    layered command (Flags.said before) (Flags.said after) = {
      command
      config := (after.findSome? Written.config?).or (before.findSome? Written.config?)
      strict := decide (.strict ∈ before ∨ .strict ∈ after)
      format := (after.findSome? Written.format?).or (before.findSome? Written.format?)
      verbose := min (if 0 < verbosity after then verbosity after else verbosity before) verboseLimit } := by
  simp only [layered, Flags.said, layered_verbosity, List.contains_eq_mem, Bool.decide_or, HOrElse.hOrElse, OrElse.orElse,
    Option.orElse_eq_or]

/-- Flags before the command and behind it, in any order and between any words. Nothing but the place of a flag counts: behind
the command it outranks the same flag before it, the words stay as they are, and settings yield to flags. -/
theorem flags_are_layered {before : List Written} {after : List Item} (once : Once before)
    (onceBehind : Once (Item.flags after)) :
    let line (name : String) : List Text :=
      before.flatMap Written.arguments ++ name.toList :: after.flatMap Item.arguments
    let behind := Item.flags after
    let count := if 0 < verbosity behind then verbosity behind else verbosity before
    let invocation (command : Command) : Invocation := {
      command
      config := (behind.findSome? Written.config?).or (before.findSome? Written.config?)
      strict := decide (.strict ∈ before ∨ .strict ∈ behind)
      format := (behind.findSome? Written.format?).or (before.findSome? Written.format?)
      verbose := min count 255 }
    ofArguments (line "translate") = .ok (invocation (.style (Item.words after) false)) ∧
    (Item.words after = [] → ofArguments (line "rewrite") = .ok (invocation .markup)) ∧
    ∀ (command : Command) (base : Settings),
      let settings := (invocation command).settings base
      settings.options.strict = (decide (.strict ∈ before ∨ .strict ∈ behind) || base.strict) ∧
      settings.options.format =
        ((behind.findSome? Written.format?).or (before.findSome? Written.format?)).getD base.format ∧
      (count = 0 → (invocation command).logFilter settings = base.logLevel.getD "warn".toList) ∧
      (count = 1 → (invocation command).logFilter settings = "debug".toList) ∧
      (2 ≤ count → (invocation command).logFilter settings = "trace".toList) := by
  intro line behind count invocation
  refine ⟨?_, fun wordless => ?_, fun command base => ⟨rfl, rfl, fun silent => ?_, fun once => ?_, fun loud => ?_⟩⟩
  · have read := ofArguments_layered once onceBehind (show Plain "translate".toList by simp [Plain]) rfl (.inl rfl)
    rw [layered_said] at read
    exact read
  · have read := ofArguments_layered once onceBehind (show Plain "rewrite".toList by simp [Plain]) rfl (.inr wordless)
    rw [layered_said] at read
    exact read
  · have none : (invocation command).verbose = 0 := by simp only [invocation, silent, Nat.zero_min]
    rw [logFilter, none]
    rfl
  · have one : (invocation command).verbose = 1 := by simp only [invocation, once]; rfl
    rw [logFilter, one]
    rfl
  · obtain ⟨more, level⟩ : ∃ more, (invocation command).verbose = more + 2 :=
      Nat.exists_eq_add_of_le' (by simp only [invocation]; omega)
    rw [logFilter, level]
    rfl

/-- A path and a word that look like commands, and an empty word. Each of the places says something about verbosity, format and
the settings. -/
theorem flags_are_layered_around_words :
    let before : List Text := ["-vv", "--strict", "--format=jsx", "--config=translate"].map String.toList
    let after : List Text := ["p-1", "--config", "rewrite", "", "--verbose", "rewrite", "--format", "object"].map String.toList
    ofArguments (before ++ "translate".toList :: after) = .ok {
      command := .style (["p-1", "", "rewrite"].map String.toList) false
      config := some "rewrite".toList
      strict := true
      format := some .object
      verbose := 1 } ∧
    ofArguments (before ++ "rewrite".toList :: ["-v".toList]) = .ok {
      command := .markup
      config := some "translate".toList
      strict := true
      format := some .jsx
      verbose := 1 } := by
  intro before after
  let outer : List Written := [.letters 1, .strict, .format .jsx true, .config "translate".toList true (by decide) (by simp [Plain])]
  let inner : List Item := [.word "p-1".toList (by simp [Plain]),
    .flag (.config "rewrite".toList false (by decide) (by simp [Plain])), .word [] (by simp [Plain]), .flag .verbose,
    .word "rewrite".toList (by simp [Plain]), .flag (.format .object false)]
  have once : Once outer := ⟨by decide, by decide, by decide⟩
  have onceBehind : Once (Item.flags inner) := ⟨by decide, by decide, by decide⟩
  have onceLetter : Once (Item.flags [.flag (.letters 0)]) := ⟨by decide, by decide, by decide⟩
  obtain ⟨styled, -, -⟩ := flags_are_layered once onceBehind
  obtain ⟨-, rewritten, -⟩ := flags_are_layered once onceLetter
  exact ⟨styled, rewritten rfl⟩

end Invocation
end InlineStyle
