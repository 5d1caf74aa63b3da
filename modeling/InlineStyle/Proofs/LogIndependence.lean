import InlineStyle.Proofs.RunOutcome

/-! What a run logs has no part in what it does. Verbosity, the log level of the settings and the filter of the environment
leave its ending, its output and its notes as they are, and a level in the environment only picks from the log of the
most detailed level. -/

namespace InlineStyle

namespace Threshold

def name : Threshold → Text
  | none => "off".toList
  | some level => level.name.map Char.toLower

theorem letters_name (threshold : Threshold) : Letters threshold.name := by
  have level : LevelName threshold.name := by
    rcases threshold with _ | level
    · decide
    · cases level <;> decide
  exact level.letters

theorem named?_name (threshold : Threshold) : named? threshold.name = some threshold := by
  rcases threshold with _ | level
  · rfl
  · cases level <;> rfl

theorem admits_trace (level : Level) : admits (some .trace) level = true := by
  cases level <;> rfl

end Threshold

namespace Filter

theorem ofText?_name (threshold : Threshold) : ofText? threshold.name = some [{ threshold }] := by
  have letters := threshold.letters_name
  have directive : (Directive.ofText threshold.name).toOption = some { threshold } := by
    rw [Directive.ofText_letters letters, threshold.named?_name]
    rfl
  rw [ofText?, parts_letters letters, List.mapM_cons, directive]
  rfl

end Filter

namespace Transcript

def log (transcript : Transcript) : List Record := transcript.diagnostics.filterMap Diagnostic.record?

def quieted (threshold : Threshold) (transcript : Transcript) : Transcript :=
  { transcript with diagnostics := transcript.diagnostics.filter (Diagnostic.isShown [{ threshold }]) }

/-- The two runs come to the same, whatever they log. -/
structure SameResults (left right : Transcript) : Prop where
  ending : left.ending = right.ending
  output : left.output = right.output
  notes : left.notes = right.notes

theorem Follows.sameResults {left right : Transcript} {worked : Logged Diagnostic InvalidValue Text}
    (follows : left.Follows worked) (others : right.Follows worked) : left.SameResults right :=
  ⟨follows.ending.trans others.ending.symm, follows.output.trans others.output.symm, follows.notes.trans others.notes.symm⟩

theorem notes_quieted (threshold : Threshold) (transcript : Transcript) :
    (transcript.quieted threshold).notes = transcript.notes :=
  Run.filterMap_shown (fun _ _ noted => Diagnostic.isShown_of_note? noted) _

theorem log_quieted (threshold : Threshold) (transcript : Transcript) :
    (transcript.quieted threshold).log = transcript.log.filter fun record => threshold.admits record.level := by
  rw [log, log, quieted, List.filterMap_filter, List.filter_filterMap]
  congr 1
  funext diagnostic
  cases diagnostic with
  | note text => rfl
  | record entry =>
    have shown : Diagnostic.isShown [{ threshold }] (.record entry) = threshold.admits entry.level := rfl
    rw [shown, Diagnostic.record?, Option.filter_some]

theorem quieted_of_shown {threshold : Threshold} {transcript : Transcript}
    (shown : ∀ diagnostic ∈ transcript.diagnostics, diagnostic.isShown [{ threshold }] = true) :
    transcript.quieted threshold = transcript := by
  rw [quieted, List.filter_eq_self.mpr shown]

end Transcript

namespace Run

theorem filter_name (threshold : Threshold) (invocation : Invocation) (settings : Settings) :
    filter (some threshold.name) invocation settings = ([{ threshold }], []) := by
  simp only [filter, Option.bind_some, Filter.ofText?_name]

theorem shown_trace (diagnostic : Diagnostic) : diagnostic.isShown [{ threshold := some .trace }] = true := by
  cases diagnostic with
  | note text => rfl
  | record entry => exact Threshold.admits_trace entry.level

theorem work_name (threshold : Threshold) (invocation : Invocation) (base : Settings) (input : List UInt8) :
    work invocation base (some threshold.name) input =
      (work invocation base (some (Threshold.name (some .trace))) input).quieted threshold := by
  rw [work, work, filter_name, filter_name]
  have everything (diagnostics : List Diagnostic) :
      diagnostics.filter (Diagnostic.isShown [{ threshold := some .trace }]) = diagnostics :=
    List.filter_eq_self.mpr fun diagnostic _ => shown_trace diagnostic
  simp only [everything, List.map_nil, List.nil_append]
  cases (invocation.command.work (invocation.settings base).options input).outcome with
  | ok output => rfl
  | error fault =>
    simp only [Transcript.quieted, List.filter_append]
    rfl

theorem refused_quieted (threshold : Threshold) (refusal : Refusal) : (refused refusal).quieted threshold = refused refusal := by
  apply Transcript.quieted_of_shown
  cases refusal <;> simp [refused, failed, Diagnostic.isShown]

end Run

/-- A level in the environment hides records of the most detailed log, and nothing else. -/
theorem run_name (surroundings : Surroundings) (threshold : Threshold) :
    run { surroundings with filter := some threshold.name } =
      (run { surroundings with filter := some (Threshold.name (some .trace)) }).quieted threshold := by
  simp only [run]
  cases Invocation.ofArguments surroundings.arguments with
  | error refusal => exact (Run.refused_quieted threshold refusal).symm
  | ok invocation =>
    simp only
    cases Settings.load surroundings.file invocation.config with
    | ok base => exact Run.work_name threshold invocation base surroundings.input
    | error failure => rfl

/-- What a run is asked to do, by its arguments and its settings together. -/
inductive Surroundings.Asks (surroundings : Surroundings) : Command → Options → Prop where
  | settled {invocation : Invocation} {base : Settings}
      (parsed : Invocation.ofArguments surroundings.arguments = .ok invocation)
      (loads : Settings.Loads surroundings.file invocation.config base) (named : ∀ level ∈ base.logLevel, LevelName level) :
      Asks surroundings invocation.command
        { strict := invocation.strict || base.strict, format := invocation.format.getD base.format }

theorem Surroundings.Asks.follows {surroundings : Surroundings} {command : Command} {options : Options}
    (asks : surroundings.Asks command options) : (run surroundings).Follows (command.work options surroundings.input) := by
  cases asks with
  | @settled invocation base parsed loads named =>
    rw [run_eq_work parsed loads]
    exact Run.work_follows named invocation surroundings.filter surroundings.input

/-- Runs that are asked the same and read the same input come to the same, whatever their verbosity, the log level of their
settings and the filter of their environment. A level in the environment shows the records that are at least as severe. -/
theorem logging_never_interferes :
    (∀ {left right : Surroundings} {command : Command} {options : Options}, left.Asks command options →
      right.Asks command options → left.input = right.input → (run left).SameResults (run right)) ∧
    ∀ (surroundings : Surroundings) (threshold : Threshold),
      let quiet := run { surroundings with filter := some threshold.name }
      let loud := run { surroundings with filter := some "trace".toList }
      quiet.SameResults loud ∧
        quiet.log = loud.log.filter fun record => threshold.any fun least => record.level.rank ≤ least.rank := by
  constructor
  · intro left right command options asks others same
    have follows := others.follows
    rw [← same] at follows
    exact asks.follows.sameResults follows
  · intro surroundings threshold quiet loud
    have hidden : quiet = loud.quieted threshold := run_name surroundings threshold
    have severe (record : Record) : threshold.admits record.level =
        threshold.any fun least => record.level.rank ≤ least.rank := by
      cases threshold <;> rfl
    rw [hidden]
    refine ⟨⟨rfl, rfl, loud.notes_quieted threshold⟩, ?_⟩
    simp only [Transcript.log_quieted, severe]

/-- A strict flag with much said about it, and strict settings with a level of their own that the environment overrules. -/
theorem results_of_quiet_file_and_loud_flags :
    let words := ["translate", "--report", "p-1", "wide", "text-[]"].map String.toList
    let left : Surroundings := {
      arguments := "-vv".toList :: "--strict".toList :: words
      filter := none
      file := fun _ => none
      input := [] }
    let right : Surroundings := {
      arguments := "--config".toList :: "c".toList :: words
      filter := some "info".toList
      file := fun _ => some (Text.Utf8.encode "strict = true\nlog_level = 'off'".toList)
      input := [] }
    (run left).SameResults (run right) ∧
      (run { left with filter := some "warn".toList }).log =
        (run { left with filter := some "trace".toList }).log.filter fun record => record.level.rank ≤ Level.warn.rank := by
  intro words left right
  let command : Command := .style (["p-1", "wide", "text-[]"].map String.toList) true
  have asks : left.Asks command { strict := true, format := .object } := by
    have parsed : Invocation.ofArguments left.arguments =
        .ok { command, config := none, strict := true, format := none, verbose := 2 } := by decide +kernel
    exact .settled parsed .unnamed (by decide)
  have others : right.Asks command { strict := true, format := .object } := by
    have parsed : Invocation.ofArguments right.arguments =
        .ok { command, config := some "c".toList, strict := false, format := none, verbose := 0 } := by decide +kernel
    have loads : Settings.Loads right.file (some "c".toList) { strict := true, logLevel := some "off".toList } :=
      .of_text rfl (by decide +kernel)
    exact .settled parsed loads (by decide)
  obtain ⟨alike, picked⟩ := logging_never_interferes
  exact ⟨alike asks others rfl, (picked left (some .warn)).2⟩

end InlineStyle
