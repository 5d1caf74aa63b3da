import InlineStyle.Proofs.LogIndependence
import Mathlib.Data.List.Forall2

/-! Warnings of a run that is not strict: each skipped word is warned of in the order of the text. A report styles the text
once more, so it says all of them twice. -/

namespace InlineStyle

def Record.warning (fault : InvalidValue) : Record := .styling (.skipped fault)

theorem Record.line_warning (fault : InvalidValue) :
    (warning fault).line = "WARN ".toList ++ Text.bare ("Skipping token: ".toList ++ fault.message) :=
  List.append_nil _

/-- The line of the record says of the word why it is skipped. -/
def Record.WarnsOf (token : Text) (entry : Record) : Prop :=
  ∃ text, ErrorText token text ∧ entry.line = "WARN ".toList ++ Text.bare ("Skipping token: ".toList ++ text)

theorem Record.warnsOf_warning {token : Text} {fault : InvalidValue} (faulty : fault? token = some fault) :
    WarnsOf token (warning fault) :=
  ⟨_, errorText_of_fault? faulty, line_warning fault⟩

theorem Record.warnsOf_words (words : List Text) :
    List.Forall₂ WarnsOf (words.filter fun token => (fault? token).isSome) ((words.filterMap fault?).map warning) := by
  induction words with
  | nil => exact .nil
  | cons token words ih =>
    cases faulty : fault? token with
    | none => simpa [faulty] using ih
    | some fault => simpa [faulty] using And.intro (warnsOf_warning faulty) ih

def Filter.ShowsWarnings (filter : Filter) : Prop := ∀ fault, filter.admits (.warning fault) = true

theorem Filter.showsWarnings_of_level {least : Level} (shown : Level.warn.rank ≤ least.rank) :
    ShowsWarnings [{ threshold := some least }] := fun _ => decide_eq_true shown

namespace Diagnostic

def warned? : Diagnostic → Option InvalidValue
  | .record (.styling (.skipped fault)) => some fault
  | _ => none

/-- There are no other records of this level. -/
theorem warned?_eq (diagnostic : Diagnostic) :
    (diagnostic.record?.filter (·.level = .warn)) = diagnostic.warned?.map Record.warning := by
  cases diagnostic with
  | note text => rfl
  | record entry =>
    cases entry with
    | styling event => cases event <;> rfl
    | loaded _ | finished _ => rfl

theorem isShown_of_warned? {filter : Filter} (shows : filter.ShowsWarnings) {diagnostic : Diagnostic} {fault : InvalidValue}
    (warns : diagnostic.warned? = some fault) : diagnostic.isShown filter = true := by
  cases diagnostic with
  | note text => rfl
  | record entry =>
    cases entry with
    | styling event =>
      cases event with
      | skipped fault => exact shows fault
      | unclaimed _ | unknown _ _ | applied _ _ | attributeKept _ | attributesDone _ => cases warns
    | loaded _ | finished _ => cases warns

theorem warned?_notes (notes : List Text) : (notes.map note).filterMap warned? = [] := by
  rw [List.filterMap_map]
  exact List.filterMap_eq_nil_iff.mpr fun _ _ => rfl

end Diagnostic

theorem Event.warned?_ofWord (token : Text) : Diagnostic.warned? (.record (.styling (.ofWord token))) = fault? token := by
  rcases resolved : resolve token with _ | ⟨family, fault | effect⟩
  · simp only [Event.ofWord, fault?, resolved, Diagnostic.warned?]
  · simp only [Event.ofWord, fault?, resolved, Diagnostic.warned?]
  · cases effect <;> simp only [Event.ofWord, fault?, resolved, Diagnostic.warned?]

namespace Logged

variable {ε α β : Type}

def warned (computation : Logged Diagnostic ε α) : List InvalidValue := computation.events.filterMap Diagnostic.warned?

theorem warned_bind {first : Logged Diagnostic ε α} {result : α} (made : first.outcome = .ok result)
    (next : α → Logged Diagnostic ε β) : (first >>= next).warned = first.warned ++ (next result).warned := by
  rw [warned, events_bind, made, List.filterMap_append]
  rfl

end Logged

namespace Command

variable {options : Options}

/-- The words of a text are styled with one event each, whatever becomes of them. -/
private theorem warned_styling (words : List Text) :
    ((words.map Event.ofWord).map fun event => Diagnostic.record (.styling event)).filterMap Diagnostic.warned? =
      words.filterMap fault? := by
  have same : (Diagnostic.warned? ∘ fun event => .record (.styling event)) ∘ Event.ofWord = fault? :=
    funext Event.warned?_ofWord
  rw [List.filterMap_map, List.filterMap_map, same]

theorem warned_written (lenient : options.strict = false) (source : Text) :
    (written options source).warned = source.words.filterMap fault? := by
  have made : ((options.lenientLiteral source).widen.within fun event => Diagnostic.record (.styling event) :
      Logged Diagnostic InvalidValue Text).outcome = .ok (options.lenientLiteral source).result := rfl
  rw [written, lenient, if_neg Bool.false_ne_true, Logged.warned_bind made, Logged.warned, Logged.within, Logged.widen,
    Options.events_lenientLiteral, warned_styling]
  exact List.append_nil _

theorem warned_reporting (lenient : options.strict = false) (source : Text) :
    (reporting options source).warned = source.words.filterMap fault? := by
  have made : ((options.styling source).within fun event => Diagnostic.record (.styling event)).outcome =
      .ok (Styling.lenient source).result := Options.styling_of_lenient lenient
  rw [reporting, Logged.warned_bind made, Logged.forM_note, Logged.warned, Logged.warned, Diagnostic.warned?_notes,
    Logged.within, Options.events_styling_of_lenient lenient, warned_styling]
  exact List.append_nil _

/-- A report styles the text for its own sake. -/
theorem warned_work (lenient : options.strict = false) (words : List Text) (report : Bool) (input : List UInt8) :
    ((style words report).work options input).warned =
      let faults := (source words input).words.filterMap fault?
      if report then faults ++ faults else faults := by
  cases report with
  | false => exact warned_written lenient (source words input)
  | true =>
    have made : (reporting options (source words input)).outcome = .ok () := by
      rw [reporting_outcome, Options.stopping?, lenient]
      rfl
    rw [work_report, Logged.warned_bind made, warned_reporting lenient, warned_written lenient]
    rfl

end Command

namespace Transcript

def warnings (transcript : Transcript) : List Record := transcript.log.filter (·.level = .warn)

theorem warnings_eq (transcript : Transcript) :
    transcript.warnings = (transcript.diagnostics.filterMap Diagnostic.warned?).map Record.warning := by
  rw [warnings, log, List.filter_filterMap, List.map_filterMap]
  congr 1
  funext diagnostic
  exact diagnostic.warned?_eq

end Transcript

namespace Run

/-- A run warns of what its work warns of, if the filter lets it. -/
theorem warnings_work {invocation : Invocation} {base : Settings} {environment : Option Text}
    (shows : (filter environment invocation (invocation.settings base)).1.ShowsWarnings) (input : List UInt8) :
    (work invocation base environment input).warnings =
      (invocation.command.work (invocation.settings base).options input).warned.map Record.warning := by
  have unloaded : Diagnostic.warned? (.record (.loaded (invocation.settings base))) = none := rfl
  rw [Transcript.warnings_eq, filterMap_work invocation environment input unloaded fun _ _ warns =>
    Diagnostic.isShown_of_warned? shows warns, Diagnostic.warned?_notes, List.nil_append]
  cases (invocation.command.work (invocation.settings base).options input).outcome with
  | ok output => exact congrArg (List.map Record.warning) (List.append_nil _)
  | error fault => exact congrArg (List.map Record.warning) (List.append_nil _)

/-- Warnings are shown where nothing is said of the log. -/
theorem showsWarnings_by_default {invocation : Invocation} {settings : Settings} (quiet : invocation.verbose = 0)
    (unset : settings.logLevel = none) : (filter none invocation settings).1.ShowsWarnings := by
  have text : invocation.logFilter settings = "warn".toList := by
    simp only [Invocation.logFilter, quiet, unset, Option.getD_none]
  have level : Filter.ofText "warn".toList = [{ threshold := some .warn }] := by decide +kernel
  simp only [filter, Option.bind_none, text, level]
  exact Filter.showsWarnings_of_level (Nat.le_refl _)

end Run

/-- A run that is not strict warns of each word that it skips, in the order of the text. With a report it does so twice,
for it styles the text once for the report and once for its output. -/
theorem warnings_of_run {surroundings : Surroundings} {invocation : Invocation} {base : Settings} {words : List Text}
    {report : Bool} (parsed : Invocation.ofArguments surroundings.arguments = .ok invocation)
    (styles : invocation.command = .style words report)
    (loads : Settings.Loads surroundings.file invocation.config base)
    (lenient : (invocation.strict || base.strict) = false)
    (shows : (Run.filter surroundings.filter invocation (invocation.settings base)).1.ShowsWarnings) :
    let tokens := (invocation.command.text surroundings.input).words
    let faulty := tokens.filter fun token => (fault? token).isSome
    let skipped := tokens.filterMap fault?
    let warnings := (run surroundings).log.filter (·.level = .warn)
    let warned := if report then skipped ++ skipped else skipped
    warnings = warned.map Record.warning ∧
      warnings.map Record.line =
        warned.map (fun fault => "WARN ".toList ++ Text.bare ("Skipping token: ".toList ++ fault.message)) ∧
      List.Forall₂ Record.WarnsOf (if report then faulty ++ faulty else faulty) warnings := by
  intro tokens faulty skipped warnings warned
  have taken : tokens = (Command.source words surroundings.input).words :=
    congrArg Text.words (Command.text_of_style styles surroundings.input)
  have logged : warnings = warned.map Record.warning := by
    have work := Run.warnings_work shows surroundings.input
    rw [← run_eq_work parsed loads, styles, Command.warned_work lenient, ← taken] at work
    exact work
  refine ⟨logged, ?_, ?_⟩
  · rw [logged, List.map_map]
    exact List.map_congr_left fun fault _ => Record.line_warning fault
  · rw [logged]
    have once : List.Forall₂ Record.WarnsOf faulty (skipped.map Record.warning) := Record.warnsOf_words tokens
    cases report with
    | false => exact once
    | true =>
      rw [show warned = skipped ++ skipped from rfl, List.map_append]
      exact List.rel_append once once

/-- Two words at fault as arguments with a report, and on standard input without one. -/
theorem warnings_of_two_faulty_words :
    let source : Text := "text-[] p-1\ntext-[x]".toList
    let faults := ["text-[]".toList, "text-[x]".toList].filterMap fault?
    let lines := [
      "WARN Skipping token: Invalid value in token 'text-[]': expected `text-[<N>px]`".toList,
      "WARN Skipping token: Invalid value in token 'text-[x]': expected `text-[<N>px]`".toList]
    let warnings (arguments : List Text) (input : List UInt8) : List Record :=
      (run { arguments, filter := none, file := fun _ => none, input }).log.filter (·.level = .warn)
    let reported := warnings ["translate".toList, "--report".toList, source] []
    let plain := warnings ["translate".toList] (Text.Utf8.encode source)
    (reported = (faults ++ faults).map Record.warning ∧ reported.map Record.line = lines ++ lines) ∧
      plain = faults.map Record.warning ∧ plain.map Record.line = lines := by
  intro source faults lines warnings reported plain
  have words : source.words.filterMap fault? = faults := by decide +kernel
  constructor
  · let surroundings : Surroundings := ⟨["translate".toList, "--report".toList, source], none, fun _ => none, []⟩
    have parsed : Invocation.ofArguments surroundings.arguments =
        .ok { command := .style [source] true, config := none, strict := false, format := none, verbose := 0 } := by
      decide +kernel
    have given : (Command.style [source] true).text surroundings.input = source := by decide +kernel
    obtain ⟨warned, told, -⟩ := warnings_of_run parsed rfl .unnamed rfl (Run.showsWarnings_by_default rfl rfl)
    rw [given, words] at warned told
    exact ⟨warned, told.trans (by decide +kernel)⟩
  · let surroundings : Surroundings := ⟨["translate".toList], none, fun _ => none, Text.Utf8.encode source⟩
    have parsed : Invocation.ofArguments surroundings.arguments =
        .ok { command := .style [] false, config := none, strict := false, format := none, verbose := 0 } := by
      decide +kernel
    have given : (Command.style [] false).text surroundings.input = source := by decide +kernel
    obtain ⟨warned, told, -⟩ := warnings_of_run parsed rfl .unnamed rfl (Run.showsWarnings_by_default rfl rfl)
    rw [given, words] at warned told
    exact ⟨warned, told.trans (by decide +kernel)⟩

/-- A report makes two warnings of one word. -/
theorem warned_twice_of_one_word :
    let word : Text := "text-[]".toList
    let fault : InvalidValue := { token := word, cause := .sizeShape }
    let reported : Transcript :=
      run { arguments := ["translate".toList, "--report".toList, word], filter := none, file := fun _ => none, input := [] }
    word.words = [word] ∧ fault? word = some fault ∧
      reported.log.filter (·.level = .warn) = [.warning fault, .warning fault] := by
  decide +kernel

end InlineStyle
