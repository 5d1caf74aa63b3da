import InlineStyle.Settings

/-! Command lines. A command line is read in two places, before the command and behind it, and each
place has flags of its own. A value for a flag is held back until the next flag or word shows that it
is complete, so a fault that is found sooner hides a bad value.

The conventions are those of the argument parser clap 4. A long flag is known by its whole name and has its
value behind an equals sign or in the next argument that looks like no flag. Letters share a dash. All flags but
the verbose one may be given once in each place, and two dashes end the flags. Arguments are assumed to be text.
Of a refusal there is its kind and no wording of the parser's. -/

namespace InlineStyle

inductive Command where
  /-- Styles the words, or standard input if there are none. A report lists the unused words. -/
  | style (words : List Text) (report : Bool)
  /-- Replaces the class attributes of standard input. -/
  | markup
deriving DecidableEq, Repr

/-- Why a command line gives no command to run. -/
inductive Refusal where
  | unknownArgument
  | unknownCommand
  | badValue
  | repeatedFlag
  | unwantedValue
  | missingCommand
  | nothingGiven
  | help
  | version
deriving DecidableEq, Repr

structure Invocation where
  command : Command
  config : Option Text
  strict : Bool
  format : Option Format
  verbose : Nat
deriving DecidableEq, Repr

namespace Invocation

/-- Where an argument stands: before the command or behind one of them. -/
inductive Place where
  | top
  | style
  | markup
deriving DecidableEq, Repr

inductive Valued where
  | config
  | format
deriving DecidableEq, Repr

inductive Flag where
  | valued (flag : Valued)
  | strict
  | verbose
  | report
  | help
  | version
deriving DecidableEq, Repr

structure Flags where
  config : Option Text := none
  strict : Bool := false
  format : Option Format := none
  verbose : Nat := 0
  report : Bool := false
deriving DecidableEq, Repr

/-- A flag whose value is still to come, or has come and is not checked yet. -/
inductive Held where
  | awaiting (flag : Valued)
  | given (flag : Valued) (value : Text)
deriving DecidableEq, Repr

structure Scan where
  flags : Flags := {}
  held : Option Held := none
  words : List Text := []
deriving DecidableEq, Repr

inductive Argument where
  /-- Two dashes, which end the flags. -/
  | terminator
  | long (text : Text)
  | letters (text : Text)
  | word (text : Text)

def Argument.ofText : Text → Argument
  | ['-', '-'] => .terminator
  | '-' :: '-' :: text => .long text
  | '-' :: c :: text => .letters (c :: text)
  | text => .word text

/-- The most that repeated verbose flags count. -/
def verboseLimit : Nat := 255

def longFlag? (place : Place) (name : Text) : Option Flag :=
  if name = "config".toList then some (.valued .config)
  else if name = "format".toList then some (.valued .format)
  else if name = "strict".toList then some .strict
  else if name = "verbose".toList then some .verbose
  else if name = "help".toList then some .help
  else if name = "report".toList ∧ place = .style then some .report
  else if name = "version".toList ∧ place = .top then some .version
  else none

def letterFlag? (place : Place) (letter : Char) : Option Flag :=
  if letter = 'v' then some .verbose
  else if letter = 'h' then some .help
  else if letter = 'V' ∧ place = .top then some .version
  else none

def Flags.assign (flags : Flags) (value : Text) : Valued → Except Refusal Flags
  | .config =>
    if flags.config.isSome then .error .repeatedFlag
    else if value.isEmpty then .error .badValue
    else .ok { flags with config := some value }
  | .format =>
    if flags.format.isSome then .error .repeatedFlag
    else
      match Settings.formatNamed? value with
      | none => .error .badValue
      | some format => .ok { flags with format := some format }

namespace Scan

def settle (scan : Scan) : Except Refusal Scan :=
  match scan.held with
  | none => .ok scan
  | some (.awaiting _) => .error .badValue
  | some (.given flag value) => do
    return { scan with flags := ← scan.flags.assign value flag, held := none }

def raise (scan : Scan) (flag : Flag) : Except Refusal Scan := do
  let scan ← scan.settle
  match flag with
  | .valued flag => return { scan with held := some (.awaiting flag) }
  | .strict =>
    if scan.flags.strict then .error .repeatedFlag
    else return { scan with flags.strict := true }
  | .verbose => return { scan with flags.verbose := min verboseLimit (scan.flags.verbose + 1) }
  | .report =>
    if scan.flags.report then .error .repeatedFlag
    else return { scan with flags.report := true }
  | .help => .error .help
  | .version => .error .version

/-- Takes a long flag, with the value behind its first equals sign if there is one. -/
def long (scan : Scan) (place : Place) (text : Text) : Except Refusal Scan :=
  match longFlag? place (text.takeWhile (· != '=')), (text.dropWhile (· != '=')).tail? with
  | none, _ => .error .unknownArgument
  | some flag, none => scan.raise flag
  | some (.valued flag), some value => do
    let scan ← scan.settle
    return { scan with flags := ← scan.flags.assign value flag }
  | some _, some _ => .error .unwantedValue

def letters (scan : Scan) (place : Place) (text : Text) : Except Refusal Scan :=
  text.foldlM (fun scan letter =>
    match letterFlag? place letter with
    | none => .error .unknownArgument
    | some flag => scan.raise flag) scan

/-- Takes a word that is no flag's value. Behind the command only styling takes words. -/
def word (scan : Scan) (place : Place) (text : Text) : Except Refusal Scan :=
  if place = .style then do
    let scan ← scan.settle
    return { scan with words := scan.words ++ [text] }
  else .error .unknownArgument

end Scan

def behind (place : Place) (scan : Scan) : List Text → Except Refusal Scan
  | [] => scan.settle
  | argument :: arguments =>
    match Argument.ofText argument with
    | .terminator => do
      let scan ← arguments.foldlM (fun scan text => scan.word place text) scan
      scan.settle
    | .long text => do behind place (← scan.long place text) arguments
    | .letters text => do behind place (← scan.letters place text) arguments
    | .word text =>
      match scan.held with
      | some (.awaiting flag) => behind place { scan with held := some (.given flag text) } arguments
      | _ => do behind place (← scan.word place text) arguments

def place? (name : Text) : Option Place :=
  if name = "translate".toList then some .style
  else if name = "rewrite".toList then some .markup
  else none

def isCommand (name : Text) : Bool := (place? name).isSome || name == "help".toList

/-- A flag behind the command outranks the same flag before it. -/
def layered (command : Command) (before after : Flags) : Invocation where
  command
  config := after.config <|> before.config
  strict := before.strict || after.strict
  format := after.format <|> before.format
  verbose := if after.verbose = 0 then before.verbose else after.verbose

def finish (scan : Scan) (place : Place) (arguments : List Text) : Except Refusal Invocation := do
  let inner ← behind place {} arguments
  let outer ← scan.settle
  let command := if place = .markup then .markup else .style inner.words inner.flags.report
  return layered command outer.flags inner.flags

/-- What a command line without a command comes to. -/
def withoutCommand (scan : Scan) : Except Refusal Invocation := do
  let scan ← scan.settle
  .error (if scan.flags = {} then .nothingGiven else .missingCommand)

def before (scan : Scan) : List Text → Except Refusal Invocation
  | [] => withoutCommand scan
  | argument :: arguments =>
    match Argument.ofText argument with
    | .terminator =>
      match arguments with
      | [] => withoutCommand scan
      | name :: _ => .error (if isCommand name then .unknownArgument else .unknownCommand)
    | .long text => do before (← scan.long .top text) arguments
    | .letters text => do before (← scan.letters .top text) arguments
    | .word text =>
      match scan.held with
      | some (.awaiting flag) => before { scan with held := some (.given flag text) } arguments
      | _ =>
        match place? text with
        | some place => finish scan place arguments
        | none =>
          if text = "help".toList then
            match arguments with
            | [] => .error .help
            | [name] => .error (if isCommand name then .help else .unknownCommand)
            | _ => .error .unknownCommand
          else .error .unknownCommand

def ofArguments (arguments : List Text) : Except Refusal Invocation := before {} arguments

/-- The settings of a run: a flag outranks the file. -/
def settings (invocation : Invocation) (base : Settings) : Settings :=
  { base with
    strict := invocation.strict || base.strict
    format := invocation.format.getD base.format }

/-- The log filter of a run where the environment sets none. -/
def logFilter (invocation : Invocation) (settings : Settings) : Text :=
  match invocation.verbose with
  | 0 => settings.logLevel.getD "warn".toList
  | 1 => "debug".toList
  | _ => "trace".toList

end Invocation
end InlineStyle
