import InlineStyle.Invocation

/-! Command lines are taken argument by argument, each of which changes what was read before it. Two dashes change
nothing but that all arguments behind them are words. -/

namespace InlineStyle
namespace Invocation

namespace Scan

def add (scan : Scan) (words : List Text) : Scan := { scan with words := scan.words ++ words }

theorem held_of_settle {scan settled : Scan} (done : scan.settle = .ok settled) : settled.held = none := by
  obtain ⟨flags, held, words⟩ := scan
  cases held with
  | none =>
    cases done
    rfl
  | some held =>
    cases held with
    | awaiting flag => cases done
    | given flag value =>
      simp only [settle] at done
      cases assigned : flags.assign value flag with
      | error refusal =>
        rw [assigned] at done
        cases done
      | ok flags =>
        rw [assigned] at done
        cases done
        rfl

theorem word_eq (scan : Scan) (text : Text) : scan.word .style text = scan.settle.map (·.add [text]) := by
  rw [word, if_pos rfl]
  cases scan.settle <;> rfl

/-- Behind the dashes every argument is a word, also one that looks like a flag. -/
theorem foldlM_word (scan : Scan) (words : List Text) :
    (words.foldlM (fun (scan : Scan) text => scan.word .style text) scan >>= settle) = scan.settle.map (·.add words) := by
  induction words generalizing scan with
  | nil =>
    have unchanged : ∀ scan : Scan, scan.add [] = scan := fun scan => by simp [add]
    rw [List.foldlM_nil, pure_bind, funext unchanged]
    cases scan.settle <;> rfl
  | cons text words ih =>
    rw [List.foldlM_cons, word_eq]
    cases settled : scan.settle with
    | error refusal => rfl
    | ok next =>
      have quiet : (next.add [text]).settle = .ok (next.add [text]) := by
        have held : (next.add [text]).held = none := (held_of_settle settled : next.held = none)
        rw [settle, held]
      have rest := ih (next.add [text])
      rw [quiet] at rest
      refine Eq.trans rest ?_
      simp [Except.map, add]

/-- What an argument does that is neither a command nor two dashes. -/
def take (place : Place) (scan : Scan) (argument : Text) : Except Refusal Scan :=
  match Argument.ofText argument with
  | .terminator => .error .unknownArgument
  | .long text => scan.long place text
  | .letters text => scan.letters place text
  | .word text =>
    match scan.held with
    | some (.awaiting flag) => .ok { scan with held := some (.given flag text) }
    | _ => scan.word place text

end Scan

variable {flags words arguments : List Text} {argument : Text} {invocation : Invocation} {place : Place} {report : Bool}

private theorem ne_terminator (other : argument ≠ "--".toList) : Argument.ofText argument ≠ .terminator := by
  intro ends
  simp only [Argument.ofText] at ends
  split at ends
  · exact other rfl
  all_goals cases ends

theorem behind_cons (other : argument ≠ "--".toList) (scan : Scan) :
    behind place scan (argument :: arguments) = scan.take place argument >>= fun next => behind place next arguments := by
  rw [behind, Scan.take]
  cases shape : Argument.ofText argument with
  | terminator => exact absurd shape (ne_terminator other)
  | long text => rfl
  | letters text => rfl
  | word text =>
    rcases scan.held with _ | (flag | ⟨flag, value⟩) <;> rfl

theorem behind_append (plain : "--".toList ∉ flags) (scan : Scan) (arguments : List Text) :
    behind place scan (flags ++ arguments) =
      flags.foldlM (Scan.take place) scan >>= fun next => behind place next arguments := by
  induction flags generalizing scan with
  | nil => rfl
  | cons flag flags ih =>
    rw [List.mem_cons, not_or] at plain
    rw [List.cons_append, behind_cons (Ne.symm plain.1), List.foldlM_cons, bind_assoc]
    exact congrArg _ (funext fun next => ih plain.2 next)

theorem behind_terminator (plain : "--".toList ∉ flags) (scan : Scan) (words : List Text) :
    behind .style scan (flags ++ "--".toList :: words) = (behind .style scan flags).map (·.add words) := by
  have alone : behind .style scan (flags ++ []) = _ := behind_append plain scan []
  rw [List.append_nil] at alone
  rw [alone, behind_append plain]
  cases flags.foldlM (Scan.take .style) scan with
  | error refusal => rfl
  | ok next => exact next.foldlM_word words

theorem ok_of_bind {α β : Type} {first : Except Refusal α} {next : α → Except Refusal β} {result : β}
    (finished : first >>= next = .ok result) : ∃ value, first = .ok value ∧ next value = .ok result := by
  cases first with
  | error refusal => cases finished
  | ok value => exact ⟨value, rfl, finished⟩

theorem finish_terminator (plain : "--".toList ∉ flags) {scan : Scan} (finished : finish scan .style flags = .ok invocation)
    (styles : invocation.command = .style [] report) (words : List Text) :
    finish scan .style (flags ++ "--".toList :: words) = .ok { invocation with command := .style words report } := by
  obtain ⟨inner, inside, finished⟩ := ok_of_bind finished
  obtain ⟨outer, outside, finished⟩ := ok_of_bind finished
  cases finished
  obtain ⟨wordless, rfl⟩ := Command.style.inj styles
  have given : (inner.add words).words = words := by simp [Scan.add, wordless]
  rw [finish, behind_terminator plain, inside, outside]
  exact congrArg (fun words => Except.ok (layered (.style words inner.flags.report) outer.flags inner.flags)) given

theorem command_of_markup {scan : Scan} (finished : finish scan .markup flags = .ok invocation) :
    invocation.command = .markup := by
  obtain ⟨inner, -, finished⟩ := ok_of_bind finished
  obtain ⟨outer, -, finished⟩ := ok_of_bind finished
  cases finished
  rfl

private theorem place?_ne_top (text : Text) : place? text ≠ some .top := by
  rw [place?]
  split
  · simp
  · split <;> simp

theorem withoutCommand_ne_ok (scan : Scan) : withoutCommand scan ≠ .ok invocation := by
  rw [withoutCommand]
  cases scan.settle <;> nofun

/-- The first argument of a line that makes sense is either read whatever follows it, or it is the command. -/
theorem before_cons {scan : Scan} (parsed : before scan (argument :: arguments) = .ok invocation) :
    (∃ next, ∀ rest, before scan (argument :: rest) = before next rest) ∨
      ∃ place, place ≠ .top ∧ ∀ rest, before scan (argument :: rest) = finish scan place rest := by
  cases shape : Argument.ofText argument with
  | terminator =>
    simp only [before, shape] at parsed
    split at parsed
    · exact absurd parsed (withoutCommand_ne_ok scan)
    · cases parsed
  | long text =>
    simp only [before, shape] at parsed ⊢
    obtain ⟨next, raised, -⟩ := ok_of_bind parsed
    rw [raised]
    exact .inl ⟨next, fun _ => rfl⟩
  | letters text =>
    simp only [before, shape] at parsed ⊢
    obtain ⟨next, raised, -⟩ := ok_of_bind parsed
    rw [raised]
    exact .inl ⟨next, fun _ => rfl⟩
  | word text =>
    simp only [before, shape] at parsed ⊢
    split at parsed
    next flag held => exact .inl ⟨_, fun _ => rfl⟩
    next =>
      cases found : place? text with
      | some place => exact .inr ⟨place, fun top => place?_ne_top text (found.trans (congrArg some top)), fun _ => rfl⟩
      | none =>
        simp only [found] at parsed
        split at parsed
        · split at parsed <;> cases parsed
        · cases parsed

/-- The same where the command is to style. -/
theorem before_cons_style {scan : Scan} {words : List Text} (parsed : before scan (argument :: arguments) = .ok invocation)
    (styles : invocation.command = .style words report) :
    (∃ next, ∀ rest, before scan (argument :: rest) = before next rest) ∨
      ∀ rest, before scan (argument :: rest) = finish scan .style rest := by
  refine (before_cons parsed).imp_right fun ⟨place, below, commands⟩ => ?_
  cases place with
  | top => exact absurd rfl below
  | style => exact commands
  | markup =>
    rw [commands] at parsed
    cases (command_of_markup parsed).symm.trans styles

theorem before_terminator (plain : "--".toList ∉ flags) {scan : Scan} (parsed : before scan flags = .ok invocation)
    (styles : invocation.command = .style [] report) (words : List Text) :
    before scan (flags ++ "--".toList :: words) = .ok { invocation with command := .style words report } := by
  induction flags generalizing scan with
  | nil => exact absurd parsed (withoutCommand_ne_ok scan)
  | cons argument flags ih =>
    rw [List.mem_cons, not_or] at plain
    rw [List.cons_append]
    rcases before_cons_style parsed styles with ⟨next, reads⟩ | commands
    · rw [reads] at parsed ⊢
      exact ih plain.2 parsed
    · rw [commands] at parsed ⊢
      exact finish_terminator plain.2 parsed styles words

end Invocation
end InlineStyle
