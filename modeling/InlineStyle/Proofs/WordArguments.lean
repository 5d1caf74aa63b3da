import InlineStyle.Proofs.CommandLine
import InlineStyle.Proofs.Utf8RoundTrip
import InlineStyle.Proofs.Words
import InlineStyle.Run

/-! Words for styling can be given as arguments behind two dashes or on standard input. Either way the same words make
the same run, however they are grouped into arguments and whatever blanks stand between them. -/

namespace InlineStyle

namespace Text

inductive Joined : List Text → Text → Prop where
  | one (text : Text) : Joined [text] text
  | more {gap joined : Text} {texts : List Text} (text : Text) (blank : Blank gap) (rest : Joined texts joined) :
      Joined (text :: texts) (text ++ gap ++ joined)

theorem Joined.words {texts : List Text} {joined : Text} (joins : Joined texts joined) :
    joined.words = texts.flatMap Text.words := by
  induction joins with
  | one text => rw [List.flatMap_singleton]
  | more text blank _ ih => rw [words_append_blank blank, ih, List.flatMap_cons]

theorem joined_spaces {texts : List Text} (given : texts ≠ []) : Joined texts ([' '].intercalate texts) := by
  induction texts with
  | nil => exact absurd rfl given
  | cons text texts ih =>
    cases texts with
    | nil => simpa [List.intercalate] using Joined.one text
    | cons next texts =>
      have space : Blank [' '] := by decide
      have rest := Joined.more text space (ih (by simp))
      simpa [List.intercalate] using rest

end Text

variable {left right : Text} {words others : List Text} {input more : List UInt8} {report : Bool}

theorem Styling.run_congr {ε : Type} (invalid : InvalidValue → Logged Event ε Unit) (same : left.words = right.words) :
    run invalid left = run invalid right := by
  rw [run, run, same]

namespace Options

variable (options : Options)

theorem styling_congr (same : left.words = right.words) : options.styling left = options.styling right := by
  simp only [styling, Styling.strict, Styling.lenient, Styling.run_congr _ same]

theorem literal_congr (same : left.words = right.words) : options.literal left = options.literal right := by
  simp only [literal, style, styling_congr options same]

theorem lenientLiteral_congr (same : left.words = right.words) :
    options.lenientLiteral left = options.lenientLiteral right := by
  simp only [lenientLiteral, Styling.lenient, Styling.run_congr _ same]

end Options

namespace Command

/-- Styling depends on the words of its text alone. -/
theorem work_congr (same : (source words input).words = (source others more).words) (options : Options) :
    (style words report).work options input = (style others report).work options more := by
  simp only [work, Options.styling_congr _ same, Options.literal_congr _ same, Options.lenientLiteral_congr _ same]

theorem words_source (given : words ≠ []) (input : List UInt8) : (source words input).words = words.flatMap Text.words := by
  rw [source, List.isEmpty_eq_false_iff.mpr given]
  exact (Text.joined_spaces given).words

theorem words_source_encode {joined : Text} : (source [] (Text.Utf8.encode joined)).words = joined.words := by
  have read : source [] (Text.Utf8.encode joined) = joined := Text.Utf8.lossy_encode joined
  rw [read]

end Command

/-- Runs that differ in nothing but how their commands come by the same work. -/
theorem run_congr {arguments otherArguments : List Text} {invocation : Invocation} {command otherCommand : Command}
    (parsed : Invocation.ofArguments arguments = .ok { invocation with command })
    (otherParsed : Invocation.ofArguments otherArguments = .ok { invocation with command := otherCommand })
    (same : ∀ options, command.work options input = otherCommand.work options more)
    (filter : Option Text) (file : Text → Option (List UInt8)) :
    run { arguments, filter, file, input } = run { arguments := otherArguments, filter, file, input := more } := by
  simp only [run, parsed, otherParsed]
  cases Settings.load file invocation.config with
  | error failure => rfl
  | ok base => simp only [Run.work, Run.filter, Invocation.settings, Invocation.logFilter, same]

/-- Words behind two dashes make the run that the same words on standard input make, with any blanks between them, and
standard input then plays no part. So nothing depends on how words are grouped into arguments. -/
theorem run_of_words {flags : List Text} {invocation : Invocation}
    (parsed : Invocation.ofArguments flags = .ok invocation) (styles : invocation.command = .style [] report)
    (plain : "--".toList ∉ flags) (given : words ≠ []) (filter : Option Text) (file : Text → Option (List UInt8)) :
    let styled (words : List Text) (input : List UInt8) : Transcript :=
      run { arguments := flags ++ "--".toList :: words, filter, file, input }
    (∀ input joined, Text.Joined words joined →
      styled words input = run { arguments := flags, filter, file, input := Text.Utf8.encode joined }) ∧
    ∀ others, others ≠ [] → others.flatMap Text.words = words.flatMap Text.words →
      ∀ input more, styled others more = styled words input := by
  intro styled
  have alone : Invocation.ofArguments flags = .ok { invocation with command := .style [] report } := by
    rw [parsed, ← styles]
  have behind (words : List Text) : Invocation.ofArguments (flags ++ "--".toList :: words) =
      .ok { invocation with command := .style words report } := Invocation.before_terminator plain parsed styles words
  constructor
  · intro input joined joins
    have same : (Command.source words input).words = (Command.source [] (Text.Utf8.encode joined)).words := by
      rw [Command.words_source given, Command.words_source_encode, joins.words]
    exact run_congr (behind words) alone (Command.work_congr same) filter file
  · intro others some regrouped input more
    have same : (Command.source others more).words = (Command.source words input).words := by
      rw [Command.words_source some, Command.words_source given, regrouped]
    exact run_congr (behind others) (behind words) (Command.work_congr same) filter file

/-- Words that look like flags or are empty, the same ones on standard input, and the same ones grouped otherwise. -/
theorem run_of_words_like_flags :
    let flags := ["-v", "translate", "--format", "jsx", "--report"].map String.toList
    let run (arguments : List Text) (input : List UInt8) : Transcript :=
      run { arguments, filter := none, file := fun _ => none, input }
    let spaced := Text.Utf8.encode ("p-4  --strict".toList ++ ['\u2003'] ++ ("".toList ++ ['\n', ' '] ++ "--".toList))
    let words := run (flags ++ ["--", "p-4  --strict", "", "--"].map String.toList) [0xff]
    (words = run flags spaced ∧ run (flags ++ ["--", "p-4", "--strict -- "].map String.toList) [] = words) ∧
      words.ending.exitCode = 0 ∧ words.output = "\x7b\x7b padding: 16 \x7d\x7d\n".toList ∧
      words.diagnostics.filterMap Diagnostic.note? = ["ignored: --strict".toList, "ignored: --".toList] := by
  intro flags run spaced words
  have parsed : Invocation.ofArguments flags =
      .ok { command := .style [] true, config := none, strict := false, format := some .jsx, verbose := 1 } := rfl
  have plain : "--".toList ∉ flags := by decide
  have given : ["p-4  --strict", "", "--"].map String.toList ≠ [] := by decide
  obtain ⟨fromInput, regrouped⟩ := run_of_words parsed rfl plain given none fun _ => none
  have joins : Text.Joined (["p-4  --strict", "", "--"].map String.toList)
      ("p-4  --strict".toList ++ ['\u2003'] ++ ("".toList ++ ['\n', ' '] ++ "--".toList)) :=
    .more _ (by decide) (.more _ (by decide) (.one _))
  have others : run (flags ++ ["--", "p-4", "--strict -- "].map String.toList) [] = words :=
    regrouped _ (by decide) (by decide +kernel) [0xff] []
  have same : words = run flags spaced := fromInput [0xff] _ joins
  exact ⟨⟨same, others⟩, by decide +kernel⟩

end InlineStyle
