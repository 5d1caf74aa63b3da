import InlineStyle.Proofs.FaultText
import InlineStyle.Proofs.LevelNames
import InlineStyle.Proofs.StrictRestyling
import InlineStyle.Proofs.Utf8RoundTrip
import InlineStyle.Run

/-! How a run ends. Either its settings cannot be used, or a strict run meets a word at fault, or the run writes what
the command makes of its text. Only the last one has output. -/

namespace InlineStyle

/-- The settings in the file of that path. Without a path they are the default ones. -/
inductive Settings.Loads (file : Text → Option (List UInt8)) : Option Text → Settings → Prop where
  | unnamed : Loads file none {}
  | read {path text : Text} {bytes : List UInt8} {settings : Settings} (present : file path = some bytes)
      (decoded : Text.Utf8.strict? bytes = some text) (valid : Settings.ofToml text = .ok settings) :
      Loads file (some path) settings

/-- The file of that path cannot be read, is no text or holds no settings. -/
inductive Settings.Unusable (file : Text → Option (List UInt8)) : Option Text → Prop where
  | missing {path : Text} (absent : file path = none) : Unusable file (some path)
  | notText {path : Text} {bytes : List UInt8} (present : file path = some bytes)
      (broken : Text.Utf8.strict? bytes = none) : Unusable file (some path)
  | invalid {path text : Text} {bytes : List UInt8} {problem : Settings.Problem} (present : file path = some bytes)
      (decoded : Text.Utf8.strict? bytes = some text) (refused : Settings.ofToml text = .error problem) :
      Unusable file (some path)

namespace Settings

variable {file : Text → Option (List UInt8)} {config : Option Text} {base : Settings}

theorem Loads.load_eq (loads : Loads file config base) : load file config = .ok base := by
  cases loads with
  | unnamed => rfl
  | read present decoded valid => simp only [load, present, decoded, valid, Except.mapError]

theorem Loads.of_text {path text : Text} (present : file path = some (Text.Utf8.encode text))
    (answered : (ofToml text).toOption = some base) : Loads file (some path) base := by
  refine .read present (Text.Utf8.strict?_encode text) ?_
  cases read : ofToml text with
  | error problem =>
    rw [read] at answered
    cases answered
  | ok settings =>
    rw [read] at answered
    exact congrArg Except.ok (Option.some.inj answered)

theorem Unusable.load_eq (unusable : Unusable file config) : ∃ failure, load file config = .error failure := by
  cases unusable with
  | missing absent => exact ⟨.missing, by simp only [load, absent]⟩
  | notText present broken => exact ⟨.notText, by simp only [load, present, broken]⟩
  | @invalid _ _ _ problem present decoded refused =>
    exact ⟨.invalid problem, by simp only [load, present, decoded, refused, Except.mapError]⟩

end Settings

theorem Diagnostic.isShown_of_note? {diagnostic : Diagnostic} {filter : Filter} {text : Text}
    (noted : diagnostic.note? = some text) : diagnostic.isShown filter = true := by
  cases diagnostic with
  | note text => rfl
  | record entry => cases noted

namespace Logged

variable {ε α β : Type}

def notes (computation : Logged Diagnostic ε α) : List Text := computation.events.filterMap Diagnostic.note?

theorem notes_bind (first : Logged Diagnostic ε α) (next : α → Logged Diagnostic ε β) :
    (first >>= next).notes = first.notes ++ match first.outcome with
      | .ok result => (next result).notes
      | .error _ => [] := by
  rw [notes, events_bind, List.filterMap_append]
  cases first.outcome <;> rfl

theorem notes_within {ω : Type} (record : ω → Record) (computation : Logged ω ε α) :
    (computation.within fun event => .record (record event)).notes = [] := by
  rw [notes, within, List.filterMap_map]
  exact List.filterMap_eq_nil_iff.mpr fun _ _ => rfl

theorem forM_note (notes : List Text) :
    (notes.forM fun note => (log (.note note) : Logged Diagnostic ε Unit)) = ⟨notes.map .note, .ok ()⟩ := by
  induction notes with
  | nil => rfl
  | cons note notes ih =>
    rw [List.forM, ih]
    rfl

theorem notes_forM_note (notes : List Text) :
    (notes.forM fun note => (log (.note note) : Logged Diagnostic ε Unit)).notes = notes := by
  rw [forM_note, Logged.notes, List.filterMap_map]
  exact List.filterMap_some

end Logged

namespace Command

/-- The text that a command is about: its words with a space between every two, or else the input as far as it is text. -/
def text (input : List UInt8) : Command → Text
  | .style [] _ | .markup => Text.Utf8.lossy input
  | .style words _ => [' '].intercalate words

theorem text_style (words : List Text) (report : Bool) (input : List UInt8) :
    (style words report).text input = source words input := by
  cases words <;> rfl

theorem text_of_style {command : Command} {words : List Text} {report : Bool} (styles : command = style words report)
    (input : List UInt8) : command.text input = source words input := by
  rw [styles, text_style]

def words (input : List UInt8) (command : Command) : List Text :=
  match command with
  | .style .. => (command.text input).words
  | .markup => (Markup.ofText (command.text input)).attributes.flatMap fun attr => attr.value.words

/-- What a command makes of its text if words at fault are skipped. -/
inductive Makes (format : Format) (input : List UInt8) : Command → Text → Prop where
  | style (words : List Text) (report : Bool) : Makes format input (.style words report)
      ((({ strict := false, format } : Options).lenientLiteral ((style words report).text input)).result ++ ['\n'])
  | markup {text : Text} {tally : Tally}
      (restyled : (({ strict := false, format } : Options).restyle (markup.text input)).outcome = .ok (text, tally)) :
      Makes format input .markup text

/-- The lines of a report, if one is asked for: first for the words that no family claims, then for the others that write nothing. -/
def reported (input : List UInt8) : Command → List Text
  | .style words report =>
    let styling := (Styling.lenient ((style words report).text input)).result
    if report then styling.ignored.map ("ignored: ".toList ++ ·) ++ styling.unresolved.map ("unresolved: ".toList ++ ·)
    else []
  | .markup => []

def written (options : Options) (source : Text) : Logged Diagnostic InvalidValue Text := do
  let literal ← (if options.strict then options.literal source
    else (options.lenientLiteral source).widen).within fun event => .record (.styling event)
  return literal ++ ['\n']

theorem written_outcome (options : Options) (source : Text) :
    (written options source).outcome =
      (options.stopping? source.words).elim (.ok ((options.lenientLiteral source).result ++ ['\n'])) .error := by
  rw [written, Logged.outcome_bind]
  cases strict : options.strict with
  | false =>
    rw [Options.stopping?, strict]
    rfl
  | true =>
    have literal := Options.literal_eq options source
    rw [if_pos rfl, Logged.within, literal]
    cases options.stopping? source.words <;> rfl

theorem notes_written (options : Options) (source : Text) : (written options source).notes = [] := by
  rw [written, Logged.notes_bind, Logged.notes_within]
  split <;> rfl

def reporting (options : Options) (source : Text) : Logged Diagnostic InvalidValue Unit := do
  let styling ← (options.styling source).within fun event => .record (.styling event)
  styling.notes.forM fun note => .log (.note note)

theorem work_report (options : Options) (input : List UInt8) (words : List Text) :
    (style words true).work options input =
      (reporting options (source words input) >>= fun _ => written options (source words input)) :=
  (bind_assoc ..).symm

theorem reporting_outcome (options : Options) (source : Text) :
    (reporting options source).outcome = (options.stopping? source.words).elim (.ok ()) .error := by
  rw [reporting, Logged.outcome_bind, Logged.within, Options.styling_outcome]
  cases options.stopping? source.words with
  | some fault => rfl
  | none => simp only [Option.elim_none, Except.bind, Logged.forM_note]

/-- A report says nothing about a text that stops the run. -/
theorem notes_reporting (options : Options) (source : Text) :
    (reporting options source).notes =
      (options.stopping? source.words).elim (Styling.lenient source).result.notes fun _ => [] := by
  rw [reporting, Logged.notes_bind, Logged.notes_within, Logged.within, Options.styling_outcome]
  cases options.stopping? source.words with
  | some fault => rfl
  | none => exact Logged.notes_forM_note _

theorem work_outcome (options : Options) (input : List UInt8) (command : Command) :
    ∃ output, Makes options.format input command output ∧
      (command.work options input).outcome = (options.stopping? (command.words input)).elim (.ok output) .error := by
  cases command with
  | style words report =>
    refine ⟨_, .style words report, ?_⟩
    have alone := written_outcome options (source words input)
    rw [Options.lenientLiteral_result] at alone ⊢
    rw [Command.words, text_style]
    cases report with
    | false => exact alone
    | true =>
      rw [work_report, Logged.outcome_bind, reporting_outcome, alone]
      cases options.stopping? (source words input).words <;> rfl
  | markup =>
    have lenient : (({ strict := false, format := options.format } : Options).restyle (markup.text input)).outcome =
        .ok (Markup.ofText (Text.Utf8.lossy input)).restyled := Options.restyle_eq _ _
    refine ⟨_, .markup lenient, ?_⟩
    rw [work, Logged.outcome_bind, Logged.within, Options.restyle_eq, words, text]
    cases options.stopping? _ <;> rfl

theorem notes_work (options : Options) (input : List UInt8) (command : Command) :
    (command.work options input).notes =
      (options.stopping? (command.words input)).elim (command.reported input) fun _ => [] := by
  cases command with
  | style words report =>
    cases report with
    | false =>
      have silent : ((style words false).work options input).notes = [] := notes_written options (source words input)
      rw [silent]
      cases options.stopping? _ <;> rfl
    | true =>
      rw [work_report, Logged.notes_bind, notes_reporting, reporting_outcome, Command.words, reported, if_pos rfl, text_style]
      cases options.stopping? (source words input).words with
      | some fault => rfl
      | none =>
        simp only [Option.elim_none, notes_written, List.append_nil]
        rfl
  | markup =>
    have silent : (markup.work options input).notes = [] := by
      rw [work, Logged.notes_bind, Logged.notes_within]
      split <;> rfl
    rw [silent]
    cases options.stopping? _ <;> rfl

end Command

namespace Transcript

def notes (transcript : Transcript) : List Text := transcript.diagnostics.filterMap Diagnostic.note?

/-- What a run comes to that goes as the work does. -/
structure Follows (transcript : Transcript) (worked : Logged Diagnostic InvalidValue Text) : Prop where
  ending : transcript.ending = match worked.outcome with
    | .ok _ => .finished
    | .error fault => .faulty fault
  output : transcript.output = match worked.outcome with
    | .ok output => output
    | .error _ => []
  notes : transcript.notes = worked.notes ++ match worked.outcome with
    | .ok _ => []
    | .error fault => ["error: ".toList ++ fault.message]

/-- A fault leaves nothing but its message. -/
structure Shows (transcript : Transcript) (stopped? : Option InvalidValue) (output : Text) (report : List Text) : Prop where
  ending : transcript.ending = stopped?.elim .finished .faulty
  output : transcript.output = stopped?.elim output fun _ => []
  notes : transcript.notes = stopped?.elim report fun fault => ["error: ".toList ++ fault.message]

end Transcript

namespace Run

variable {base : Settings}

/-- What is picked from some diagnostics is not hidden by a filter that shows all there is to pick. -/
theorem filterMap_shown {β : Type} {pick : Diagnostic → Option β} {filter : Filter}
    (shows : ∀ diagnostic found, pick diagnostic = some found → diagnostic.isShown filter = true)
    (diagnostics : List Diagnostic) :
    (diagnostics.filter (Diagnostic.isShown filter)).filterMap pick = diagnostics.filterMap pick := by
  rw [List.filterMap_filter]
  congr 1
  funext diagnostic
  cases picked : pick diagnostic with
  | none => exact ite_self none
  | some found => rw [if_pos (shows diagnostic found picked)]

theorem diagnostics_work (invocation : Invocation) (environment : Option Text) (input : List UInt8) :
    let settings := invocation.settings base
    let filtering := filter environment invocation settings
    let worked := invocation.command.work settings.options input
    (work invocation base environment input).diagnostics =
      filtering.2.map .note ++ (.record (.loaded settings) :: worked.events).filter (Diagnostic.isShown filtering.1) ++
        match worked.outcome with
        | .ok _ => []
        | .error fault => failed fault.message := by
  intro settings filtering worked
  have unfolded : work invocation base environment input = match worked.outcome with
      | .ok output => { output, diagnostics := _, ending := .finished }
      | .error fault => { output := [], diagnostics := _ ++ failed fault.message, ending := .faulty fault } := rfl
  rw [unfolded]
  cases worked.outcome with
  | ok output => exact (List.append_nil _).symm
  | error fault => rfl

/-- What is picked from a run: from the complaints about its filter, from its work, and from the message of a fault. -/
theorem filterMap_work {β : Type} {pick : Diagnostic → Option β} (invocation : Invocation) (environment : Option Text)
    (input : List UInt8) (unloaded : pick (.record (.loaded (invocation.settings base))) = none)
    (shows : ∀ diagnostic found, pick diagnostic = some found →
      diagnostic.isShown (filter environment invocation (invocation.settings base)).1 = true) :
    let worked := invocation.command.work (invocation.settings base).options input
    (work invocation base environment input).diagnostics.filterMap pick =
      ((filter environment invocation (invocation.settings base)).2.map Diagnostic.note).filterMap pick ++
        (worked.events.filterMap pick ++ match worked.outcome with
          | .ok _ => []
          | .error fault => (failed fault.message).filterMap pick) := by
  intro worked
  rw [diagnostics_work, List.filterMap_append, List.filterMap_append, filterMap_shown shows,
    List.filterMap_cons_none unloaded, List.append_assoc]
  cases worked.outcome <;> rfl

theorem complaints_nil (named : ∀ level ∈ base.logLevel, LevelName level) (environment : Option Text)
    (invocation : Invocation) : (filter environment invocation (invocation.settings base)).2 = [] := by
  -- Verbosity gives a level itself, and so do settings that say nothing.
  have level : LevelName (invocation.logFilter (invocation.settings base)) := by
    rw [Invocation.logFilter]
    split
    · have given : (invocation.settings base).logLevel = base.logLevel := rfl
      rw [given]
      cases setting : base.logLevel with
      | none => decide
      | some level => exact named level setting
    · decide
    · decide
  rw [filter]
  split
  · rfl
  · exact Filter.complaints_letters level.letters

/-- The log of a run has no part in how it ends. -/
theorem work_follows (named : ∀ level ∈ base.logLevel, LevelName level) (invocation : Invocation)
    (environment : Option Text) (input : List UInt8) :
    (work invocation base environment input).Follows
      (invocation.command.work (invocation.settings base).options input) := by
  have unloaded : Diagnostic.note? (.record (.loaded (invocation.settings base))) = none := rfl
  have notes := filterMap_work invocation environment input unloaded fun _ _ noted => Diagnostic.isShown_of_note? noted
  rw [complaints_nil named] at notes
  rw [work] at notes ⊢
  generalize invocation.command.work (invocation.settings base).options input = worked at notes ⊢
  obtain ⟨events, fault | output⟩ := worked
  · exact ⟨rfl, rfl, notes⟩
  · exact ⟨rfl, rfl, notes⟩

theorem work_shows (named : ∀ level ∈ base.logLevel, LevelName level) (invocation : Invocation)
    (environment : Option Text) (input : List UInt8) :
    ∃ output, invocation.command.Makes (invocation.settings base).format input output ∧
      (work invocation base environment input).Shows
        ((invocation.settings base).options.stopping? (invocation.command.words input)) output
        (invocation.command.reported input) := by
  obtain ⟨output, makes, outcome⟩ :=
    Command.work_outcome (invocation.settings base).options input invocation.command
  have reports := Command.notes_work (invocation.settings base).options input invocation.command
  obtain ⟨ending, outputs, notes⟩ := work_follows named invocation environment input
  refine ⟨output, makes, ?_⟩
  cases stopped : (invocation.settings base).options.stopping? (invocation.command.words input) with
  | none =>
    simp only [stopped, Option.elim_none] at outcome reports
    rw [outcome] at ending outputs notes
    rw [reports, List.append_nil] at notes
    exact ⟨ending, outputs, notes⟩
  | some fault =>
    simp only [stopped, Option.elim_some] at outcome reports
    rw [outcome] at ending outputs notes
    rw [reports, List.nil_append] at notes
    exact ⟨ending, outputs, notes⟩

end Run

theorem run_eq_work {surroundings : Surroundings} {invocation : Invocation} {base : Settings}
    (parsed : Invocation.ofArguments surroundings.arguments = .ok invocation)
    (loads : Settings.Loads surroundings.file invocation.config base) :
    run surroundings = Run.work invocation base surroundings.filter surroundings.input := by
  simp only [run, parsed, loads.load_eq]

end InlineStyle
