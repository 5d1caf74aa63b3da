import InlineStyle.Filter
import InlineStyle.Invocation
import InlineStyle.Markup
import InlineStyle.Text.Utf8

/-! A whole run, from arguments, files and standard input to the exit code and what is written. -/

namespace InlineStyle

inductive SettingsFailure where
  | missing
  | notText
  | invalid (problem : Settings.Problem)
deriving Repr

def SettingsFailure.message (path : Text) : SettingsFailure → Text
  | .missing => "Failed to read config '".toList ++ path ++ "': the file cannot be read".toList
  | .notText => "Failed to read config '".toList ++ path ++ "': the file does not hold UTF-8".toList
  | .invalid problem => "Invalid config '".toList ++ path ++ "': ".toList ++ problem.message

/-- The settings in a file of the given bytes. Without a path the settings are the default ones. -/
def Settings.load (file : Text → Option (List UInt8)) : Option Text → Except SettingsFailure Settings
  | none => .ok {}
  | some path =>
    match file path with
    | none => .error .missing
    | some bytes =>
      match Text.Utf8.strict? bytes with
      | none => .error .notText
      | some text => (Settings.ofToml text).mapError .invalid

inductive Diagnostic where
  | note (text : Text)
  | record (record : Record)
deriving DecidableEq, Repr

namespace Diagnostic

def note? : Diagnostic → Option Text
  | .note text => some text
  | .record _ => none

def record? : Diagnostic → Option Record
  | .note _ => none
  | .record entry => some entry

/-- Notes are always shown. -/
def isShown (filter : Filter) : Diagnostic → Bool
  | .note _ => true
  | .record entry => filter.admits entry

end Diagnostic

inductive Ending where
  | finished
  /-- A strict run met a word at fault. -/
  | faulty (fault : InvalidValue)
  | refused (refusal : Refusal)
  | unsettled (path : Text) (failure : SettingsFailure)
deriving Repr

/-- Setup problems exit with 2 and refused input with 1. -/
def Ending.exitCode : Ending → Nat
  | .finished | .refused .help | .refused .version => 0
  | .faulty _ => 1
  | .refused _ | .unsettled .. => 2

structure Transcript where
  output : Text
  diagnostics : List Diagnostic
  ending : Ending
deriving Repr

structure Surroundings where
  arguments : List Text
  filter : Option Text
  file : Text → Option (List UInt8)
  input : List UInt8

/-- One line for each unused word: first those that no family claims, then those without effect. -/
def Styling.notes (styling : Styling) : List Text :=
  styling.ignored.map ("ignored: ".toList ++ ·) ++ styling.unresolved.map ("unresolved: ".toList ++ ·)

/-- The text that words make: themselves with spaces between, or the input if there are none. -/
def Command.source (words : List Text) (input : List UInt8) : Text :=
  if words.isEmpty then Text.Utf8.lossy input else [' '].intercalate words

def Command.readsInput : Command → Bool
  | .style words _ => words.isEmpty
  | .markup => true

/-- The output of a command. A report styles the text once more, before the output. -/
def Command.work (options : Options) (input : List UInt8) : Command → Logged Diagnostic InvalidValue Text
  | .style words report => do
    let source := Command.source words input
    if report then
      let styling ← (options.styling source).within fun event => .record (.styling event)
      styling.notes.forM fun note => .log (.note note)
    let literal ← (if options.strict then options.literal source
      else (options.lenientLiteral source).widen).within fun event => .record (.styling event)
    return literal ++ ['\n']
  | .markup => do
    let (text, tally) ← (options.restyle (Text.Utf8.lossy input)).within fun event => .record (.styling event)
    .log (.record (.finished tally))
    return text

namespace Run

def version : Text := "utility-style 0.1.0\n".toList

def help : Text :=
  "Translate utility class tokens into React Native inline style literals

Usage: utility-style [OPTIONS] <COMMAND>

Commands:
  translate  Translate a token string. Reads standard input when no tokens are given
  rewrite    Rewrite `className=\"...\"` attributes read from standard input
  help       Print this message or the help of the given subcommand(s)

Options:
      --config <CONFIG>  TOML config file
      --strict           Fail on malformed values such as `text-[abcpx]`
      --format <FORMAT>  Output wrapping (overrides the config file) [possible values: object, jsx]
  -v, --verbose...       Increase log verbosity (-v debug, -vv trace)
  -h, --help             Print help
  -V, --version          Print version
".toList

def failed (reason : Text) : List Diagnostic := [.note ("error: ".toList ++ reason)]

def refused (refusal : Refusal) : Transcript :=
  let answer (output : Text) (diagnostics : List Diagnostic) : Transcript :=
    { output, diagnostics, ending := .refused refusal }
  match refusal with
  | .help => answer help []
  | .version => answer version []
  | .nothingGiven => answer [] [.note help]
  | .missingCommand => answer [] (failed "a command is required".toList)
  | .unknownCommand => answer [] (failed "there is no such command".toList)
  | .unknownArgument => answer [] (failed "there is no such argument here".toList)
  | .badValue => answer [] (failed "a flag has a bad value or none".toList)
  | .repeatedFlag => answer [] (failed "a flag cannot be used more than once".toList)
  | .unwantedValue => answer [] (failed "a flag takes no value".toList)

def unsettled (path : Text) (failure : SettingsFailure) : Transcript where
  output := []
  diagnostics := failed (failure.message path)
  ending := .unsettled path failure

/-- The log filter of a run, with complaints about it. A filter in the environment decides alone if it can
be read. Otherwise verbosity and settings give a filter, of which what cannot be read is left out. -/
def filter (environment : Option Text) (invocation : Invocation) (settings : Settings) : Filter × List Text :=
  match environment.bind Filter.ofText? with
  | some filter => (filter, [])
  | none =>
    let text := invocation.logFilter settings
    (Filter.ofText text, Filter.complaints text)

def work (invocation : Invocation) (base : Settings) (environment : Option Text) (input : List UInt8) :
    Transcript :=
  let settings := invocation.settings base
  let (filter, complaints) := filter environment invocation settings
  let worked := invocation.command.work settings.options input
  let shown := (.record (.loaded settings) :: worked.events).filter (Diagnostic.isShown filter)
  let diagnostics := complaints.map .note ++ shown
  match worked.outcome with
  | .ok output => { output, diagnostics, ending := .finished }
  | .error fault =>
    { output := [], diagnostics := diagnostics ++ failed fault.message, ending := .faulty fault }

end Run

def run (surroundings : Surroundings) : Transcript :=
  match Invocation.ofArguments surroundings.arguments with
  | .error refusal => Run.refused refusal
  | .ok invocation =>
    match Settings.load surroundings.file invocation.config with
    | .ok base => Run.work invocation base surroundings.filter surroundings.input
    | .error failure => Run.unsettled (invocation.config.getD []) failure

end InlineStyle
