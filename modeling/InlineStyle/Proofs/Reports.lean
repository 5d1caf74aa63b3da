import InlineStyle.Proofs.LenientStyling
import InlineStyle.Proofs.ReportFlag
import InlineStyle.Proofs.RunOutcome

/-! A report of the words that a style does not use. It comes from a styling of its own, and neither the output nor the ending
of the run depends on it. -/

namespace InlineStyle

variable {base : Settings} {words : List Text} {report : Bool}

theorem Styling.notes_lenient (input : Text) :
    (lenient input).result.notes =
      (input.words.filter (fate · = .ignored)).map ("ignored: ".toList ++ ·) ++
        (input.words.filter (fate · = .unresolved)).map ("unresolved: ".toList ++ ·) := by
  rw [lenient_result]
  rfl

/-- Every word that leaves no property leaves a line. -/
theorem Styling.notes_lenient_eq_nil_iff (input : Text) :
    (lenient input).result.notes = [] ↔ ∀ token ∈ input.words, writes token ≠ [] := by
  have silent (styling : Styling) : styling.notes = [] ↔ styling.isComplete = true := by
    simp [notes, isComplete]
  rw [silent, (lenient_answers input).complete]
  simp only [ne_eq, writes_eq_nil_iff, Classical.not_not]

/-- What a run shows that styles a text: the text decides how it ends, and a report is shown if it ends well. -/
theorem Run.shows_style (named : ∀ level ∈ base.logLevel, LevelName level) {invocation : Invocation}
    (styles : invocation.command = .style words report) (environment : Option Text) (input : List UInt8) :
    let source := Command.source words input
    let options := (invocation.settings base).options
    (work invocation base environment input).Shows (options.stopping? source.words)
      ((({ options with strict := false }).lenientLiteral source).result ++ ['\n'])
      (if report then (Styling.lenient source).result.notes else []) := by
  intro source options
  obtain ⟨output, makes, shows⟩ := work_shows named invocation environment input
  rw [styles] at makes shows
  cases makes
  rw [Command.words, Command.reported, Command.text_style] at shows
  exact shows

/-- A report can be asked for wherever a text is styled, and the run ends as it does without one and has the same output.
If it ends well there is one line for each word that no family claims and then one for each other word without a property, so
there are no lines only if every word has left a property. If it stops at a fault, no line of the report is shown. -/
theorem report_only_adds {surroundings : Surroundings} {invocation : Invocation}
    (parsed : Invocation.ofArguments surroundings.arguments = .ok invocation)
    (styles : invocation.command = .style words false)
    (loads : Settings.Loads surroundings.file invocation.config base)
    (named : ∀ level ∈ base.logLevel, LevelName level) :
    let tokens := (invocation.command.text surroundings.input).words
    let strict := invocation.strict || base.strict
    let plain := run surroundings
    (∃ arguments, Invocation.ReportAdded surroundings.arguments arguments) ∧
    ∀ arguments, Invocation.ReportAdded surroundings.arguments arguments →
      let reported := run { surroundings with arguments }
      reported.ending.exitCode = plain.ending.exitCode ∧
      reported.output = plain.output ∧
      (reported.ending.exitCode = 0 →
        plain.notes = [] ∧
        reported.notes = (tokens.filter (fate · = .ignored)).map ("ignored: ".toList ++ ·) ++
          (tokens.filter (fate · = .unresolved)).map ("unresolved: ".toList ++ ·) ∧
        (reported.notes = [] ↔ ∀ token ∈ tokens, writes token ≠ []) ∧
        (strict = true → ∀ token ∈ tokens, fault? token = none)) ∧
      (reported.ending.exitCode ≠ 0 →
        strict = true ∧ ∃ fault text, FirstFault tokens fault ∧ ErrorText fault.token text ∧
          reported.notes = ["error: ".toList ++ text] ∧ plain.notes = reported.notes) := by
  intro tokens strict plain
  have taken : tokens = (Command.source words surroundings.input).words :=
    congrArg Text.words (Command.text_of_style styles surroundings.input)
  rw [taken]
  refine ⟨Invocation.exists_reportAdded parsed styles, fun arguments added => ?_⟩
  intro reported
  have plainly : plain = Run.work invocation base surroundings.filter surroundings.input := run_eq_work parsed loads
  have reporting : reported =
      Run.work { invocation with command := .style words true } base surroundings.filter surroundings.input :=
    @run_eq_work { surroundings with arguments } _ _ (added.parsed parsed styles) loads
  have asked : ({ invocation with command := .style words true } : Invocation).command = .style words true := rfl
  obtain ⟨ending, output, notes⟩ := Run.shows_style named styles surroundings.filter surroundings.input
  obtain ⟨endingReported, outputReported, notesReported⟩ :=
    Run.shows_style named asked surroundings.filter surroundings.input
  rw [← plainly] at ending output notes
  rw [← reporting] at endingReported outputReported notesReported
  -- The first fault of the text stops both runs or neither of them.
  have sameEnding : reported.ending = plain.ending := endingReported.trans ending.symm
  refine ⟨congrArg Ending.exitCode sameEnding, outputReported.trans output.symm, ?_⟩
  rw [sameEnding]
  cases stopped : (invocation.settings base).options.stopping? (Command.source words surroundings.input).words with
  | none =>
    rw [stopped, Option.elim_none] at ending notes
    rw [if_neg Bool.false_ne_true] at notes
    have lines : reported.notes = (Styling.lenient (Command.source words surroundings.input)).result.notes :=
      notesReported.trans (congrArg (Option.elim · _ _) stopped)
    rw [ending, lines]
    exact ⟨fun _ => ⟨notes, Styling.notes_lenient _, Styling.notes_lenient_eq_nil_iff _,
      Options.stopping?_eq_none_iff.mp stopped⟩, fun ill => absurd rfl ill⟩
  | some fault =>
    obtain ⟨strictly, first⟩ := Options.stopping?_eq_some_iff.mp stopped
    rw [stopped, Option.elim_some] at ending notes
    have message : reported.notes = ["error: ".toList ++ fault.message] :=
      notesReported.trans (congrArg (Option.elim · _ _) stopped)
    rw [ending]
    exact ⟨fun well => (nomatch well), fun _ => ⟨strictly, fault, _, first, first.errorText, message, notes.trans message.symm⟩⟩

/-- The flag between two words, both unused. Without the strict flag there is a line for each of them, and with it neither line,
because the second word is at fault. -/
theorem report_only_adds_between_words :
    let front (flags : List String) : List Text := (flags ++ ["translate", "wide"]).map String.toList
    let back : List Text := ["text-[]".toList]
    let ran (arguments : List Text) : Transcript := run { arguments, filter := none, file := fun _ => none, input := [] }
    let lenient := ran (front [] ++ "--report".toList :: back)
    let strict := ran (front ["--strict"] ++ "--report".toList :: back)
    (lenient.ending.exitCode = 0 ∧ lenient.output = (ran (front [] ++ back)).output ∧
      lenient.notes = ["ignored: wide".toList, "unresolved: text-[]".toList]) ∧
    strict.ending.exitCode ≠ 0 ∧ strict.notes = (ran (front ["--strict"] ++ back)).notes ∧
      strict.notes = ["error: Invalid value in token 'text-[]': expected `text-[<N>px]`".toList] := by
  intro front back ran lenient strict
  let surroundings (arguments : List Text) : Surroundings := { arguments, filter := none, file := fun _ => none, input := [] }
  let words : List Text := ["wide", "text-[]"].map String.toList
  let asked (strict report : Bool) : Invocation :=
    { command := .style words report, config := none, strict, format := none, verbose := 0 }
  have parsed (strict : Bool) : Invocation.ofArguments (front (if strict then ["--strict"] else []) ++ back) =
      .ok (asked strict false) := by
    cases strict <;> decide +kernel
  have reported (strict : Bool) :
      Invocation.ofArguments (front (if strict then ["--strict"] else []) ++ "--report".toList :: back) =
        .ok (asked strict true) := by
    cases strict <;> decide +kernel
  constructor
  · obtain ⟨-, adds⟩ := @report_only_adds {} words (surroundings (front [] ++ back)) _ (parsed false) rfl .unnamed
      (by decide)
    obtain ⟨-, output, well, ill⟩ := adds _ (.among rfl (reported false) rfl)
    have finished : lenient.ending.exitCode = 0 := Classical.byContradiction fun failed => nomatch (ill failed).1
    exact ⟨finished, output, (well finished).2.1.trans (by decide +kernel)⟩
  · obtain ⟨-, adds⟩ := @report_only_adds {} words (surroundings (front ["--strict"] ++ back)) _ (parsed true) rfl .unnamed
      (by decide)
    obtain ⟨-, -, well, ill⟩ := adds _ (.among rfl (reported true) rfl)
    have stopped : strict.ending.exitCode ≠ 0 := by
      intro finished
      have sound : fault? "text-[]".toList = none := (well finished).2.2.2 rfl _ (by decide +kernel)
      revert sound
      decide +kernel
    obtain ⟨-, fault, text, first, told, notes, same⟩ := ill stopped
    have known := told.of_firstFault first (show _ = some ⟨"text-[]".toList, .sizeShape⟩ by decide +kernel)
    exact ⟨stopped, same.symm, notes.trans (by rw [known]; rfl)⟩

end InlineStyle
