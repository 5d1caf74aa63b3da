import InlineStyle.Proofs.CommandLine

/-! The report flag among the arguments of a command line. Wherever it can be added, the line comes to what it came to without
the flag, with a report. -/

namespace InlineStyle
namespace Invocation

variable {argument : Text} {front back words others : List Text} {invocation reported : Invocation}

def Flags.reporting (flags : Flags) : Flags := { flags with report := true }

theorem Flags.assign_reporting (flags : Flags) (value : Text) (flag : Valued) :
    flags.reporting.assign value flag = (flags.assign value flag).map reporting := by
  obtain ⟨config, strict, format, verbose, report⟩ := flags
  cases flag with
  | config => cases config <;> cases value <;> rfl
  | format =>
    simp only [assign, reporting]
    cases format with
    | some format => rfl
    | none => cases Settings.formatNamed? value <;> rfl

namespace Scan

variable {scan settled next : Scan}

def reporting (scan : Scan) : Scan := { scan with flags := scan.flags.reporting }

theorem reporting_of_report (reports : scan.flags.report = true) : scan.reporting = scan := by
  obtain ⟨⟨config, strict, format, verbose, report⟩, held, words⟩ := scan
  cases reports
  rfl

/-- A step that reads arguments without minding the report flag. -/
def Commutes (step : Scan → Except Refusal Scan) : Prop := ∀ scan, step scan.reporting = (step scan).map reporting

theorem Commutes.bind {first rest : Scan → Except Refusal Scan} (commutes : Commutes first) (others : Commutes rest) :
    Commutes fun scan => first scan >>= rest := by
  intro scan
  have reported : first scan.reporting = (first scan).map reporting := commutes scan
  simp only [reported]
  cases first scan with
  | error refusal => rfl
  | ok next => exact others next

/-- Such a step leaves a report that was asked for. -/
theorem Commutes.report {step : Scan → Except Refusal Scan} (commutes : Commutes step) (done : step scan = .ok next)
    (reports : scan.flags.report = true) : next.flags.report = true := by
  have again : step scan.reporting = (step scan).map reporting := commutes scan
  rw [reporting_of_report reports, done] at again
  rw [Except.ok.inj again]
  rfl

theorem commutes_error (refusal : Refusal) : Commutes fun _ => .error refusal := fun _ => rfl

theorem commutes_assign (value : Text) (flag : Valued) :
    Commutes fun scan => return { scan with flags := ← scan.flags.assign value flag } := by
  intro scan
  have assigned := scan.flags.assign_reporting value flag
  simp only [reporting, assigned]
  cases scan.flags.assign value flag <;> rfl

theorem commutes_settle : Commutes settle := by
  rintro ⟨flags, held, words⟩
  rcases held with _ | (flag | ⟨flag, value⟩)
  · rfl
  · rfl
  · simp only [settle, reporting, Flags.assign_reporting]
    cases flags.assign value flag <;> rfl

theorem commutes_raise {flag : Flag} (other : flag ≠ .report) : Commutes fun scan => scan.raise flag := by
  refine commutes_settle.bind fun scan => ?_
  obtain ⟨⟨config, strict, format, verbose, report⟩, held, words⟩ := scan
  cases flag with
  | strict => cases strict <;> rfl
  | report => exact absurd rfl other
  | valued _ | verbose | help | version => rfl

theorem commutes_foldlM {ι : Type} {step : Scan → ι → Except Refusal Scan}
    (steps : ∀ item, Commutes fun scan => step scan item) (items : List ι) : Commutes fun scan => items.foldlM step scan := by
  induction items with
  | nil => exact fun _ => rfl
  | cons item items ih => exact (steps item).bind ih

theorem letterFlag?_ne_report (letter : Char) : letterFlag? .style letter ≠ some .report := by
  rw [letterFlag?]
  split
  · nofun
  · split
    · nofun
    · simp

theorem commutes_letters (text : Text) : Commutes fun scan => scan.letters .style text := by
  refine commutes_foldlM (fun letter => ?_) text
  cases known : letterFlag? .style letter with
  | none => exact commutes_error _
  | some flag =>
    refine commutes_raise ?_
    rintro rfl
    exact letterFlag?_ne_report letter known

theorem eq_of_longFlag? {name : Text} (known : longFlag? .style name = some .report) : name = "report".toList := by
  simp only [longFlag?] at known
  iterate 5
    split at known
    · cases known
  split at known
  · next named => exact named.1
  · split at known <;> cases known

theorem commutes_long {text : Text} (other : text ≠ "report".toList) : Commutes fun scan => scan.long .style text := by
  have parts : text.takeWhile (· != '=') ++ text.dropWhile (· != '=') = text := List.takeWhile_append_dropWhile
  -- A value behind the flag's name is never taken for a report.
  simp only [long]
  generalize text.takeWhile (· != '=') = name at parts ⊢
  generalize text.dropWhile (· != '=') = rest at parts ⊢
  cases known : longFlag? .style name with
  | none => exact commutes_error _
  | some flag =>
    cases rest with
    | nil =>
      rw [List.append_nil] at parts
      refine commutes_raise ?_
      rintro rfl
      exact other (parts ▸ eq_of_longFlag? known)
    | cons _ value =>
      cases flag with
      | valued flag => exact commutes_settle.bind (commutes_assign value flag)
      | strict | verbose | report | help | version => exact commutes_error _

theorem commutes_word (text : Text) : Commutes fun scan => scan.word .style text :=
  commutes_settle.bind fun _ => rfl

/-- Every argument but the flag itself does the same with a report as without one. -/
theorem commutes_take (other : argument ≠ "--report".toList) : Commutes fun scan => scan.take .style argument := by
  intro scan
  simp only [take]
  cases shape : Argument.ofText argument with
  | terminator => rfl
  | long text =>
    refine commutes_long ?_ scan
    rintro rfl
    simp only [Argument.ofText] at shape
    split at shape <;> cases shape
    exact other rfl
  | letters text => exact commutes_letters text scan
  | word text =>
    obtain ⟨flags, held, words⟩ := scan
    rcases held with _ | (flag | ⟨flag, value⟩)
    · exact commutes_word text _
    · rfl
    · exact commutes_word text _

theorem raise_report (scan : Scan) :
    scan.raise .report = scan.settle >>= fun settled =>
      if settled.flags.report then .error .repeatedFlag else .ok settled.reporting := rfl

/-- The flag is not given twice. -/
theorem of_raise_report (raised : scan.raise .report = .ok next) :
    ∃ settled, scan.settle = .ok settled ∧ settled.flags.report = false ∧ next = settled.reporting := by
  rw [raise_report] at raised
  obtain ⟨settled, done, raised⟩ := ok_of_bind raised
  cases reports : settled.flags.report with
  | true =>
    rw [if_pos reports] at raised
    cases raised
  | false =>
    rw [reports, if_neg Bool.false_ne_true] at raised
    exact ⟨settled, done, reports, (Except.ok.inj raised).symm⟩

theorem take_report (scan : Scan) : scan.take .style "--report".toList = scan.raise .report := rfl

theorem report_of_take (taken : scan.take .style argument = .ok next) (reports : scan.flags.report = true) :
    next.flags.report = true := by
  by_cases flag : argument = "--report".toList
  · subst flag
    obtain ⟨settled, -, -, rfl⟩ := of_raise_report taken
    rfl
  · exact (commutes_take flag).report taken reports

section Settled

variable (done : scan.settle = .ok settled)
include done

theorem settle_settled : settled.settle = .ok settled := by
  rw [settle, held_of_settle done]

theorem raise_settled (flag : Flag) : settled.raise flag = scan.raise flag := by
  rw [raise, raise, done, settle_settled done]

/-- A value that is complete can as well be checked before the next argument as with it. -/
theorem take_settled (argument : Text) : settled.take .style argument = scan.take .style argument := by
  simp only [take]
  cases shape : Argument.ofText argument with
  | terminator => rfl
  | long text => simp only [long, raise_settled done, done, settle_settled done]
  | letters text =>
    cases text with
    | nil =>
      simp only [Argument.ofText] at shape
      split at shape <;> cases shape
    | cons letter text => simp only [letters, List.foldlM_cons, raise_settled done]
  | word text =>
    have ready : settled.word .style text = scan.word .style text := by
      rw [word_eq, word_eq, done, settle_settled done]
    rw [held_of_settle done]
    rcases held : scan.held with _ | (flag | ⟨flag, value⟩)
    · exact ready
    · rw [settle, held] at done
      cases done
    · exact ready

end Settled

end Scan

theorem behind_dashes (scan : Scan) (arguments : List Text) :
    behind .style scan ("--".toList :: arguments) = scan.settle.map (·.add arguments) :=
  scan.foldlM_word arguments

theorem behind_settled {scan settled : Scan} (done : scan.settle = .ok settled) (arguments : List Text) :
    behind .style settled arguments = behind .style scan arguments := by
  cases arguments with
  | nil => exact (Scan.settle_settled done).trans done.symm
  | cons argument arguments =>
    by_cases ends : argument = "--".toList
    · subst ends
      rw [behind_dashes, behind_dashes, Scan.settle_settled done, done]
    · rw [behind_cons ends, behind_cons ends, Scan.take_settled done]

theorem commutes_dashes (arguments : List Text) : Scan.Commutes fun scan => behind .style scan ("--".toList :: arguments) := by
  simp only [behind_dashes]
  exact Scan.commutes_settle.bind fun _ => rfl

theorem report_of_behind {scan inner : Scan} (read : behind .style scan back = .ok inner)
    (reports : scan.flags.report = true) : inner.flags.report = true := by
  induction back generalizing scan with
  | nil => exact Scan.commutes_settle.report read reports
  | cons argument back ih =>
    by_cases ends : argument = "--".toList
    · subst ends
      exact (commutes_dashes back).report read reports
    · rw [behind_cons ends] at read
      obtain ⟨next, taken, read⟩ := ok_of_bind read
      exact ih read (Scan.report_of_take taken reports)

/-- Where the arguments ask for no report, one that was asked for before them changes nothing but that there is one. -/
theorem behind_reporting {scan inner : Scan} (read : behind .style scan back = .ok inner)
    (silent : inner.flags.report = false) : behind .style scan.reporting back = .ok inner.reporting := by
  induction back generalizing scan with
  | nil => exact (Scan.commutes_settle scan).trans (congrArg _ read)
  | cons argument back ih =>
    by_cases ends : argument = "--".toList
    · subst ends
      exact (commutes_dashes back scan).trans (congrArg _ read)
    · rw [behind_cons ends] at read ⊢
      obtain ⟨next, taken, read⟩ := ok_of_bind read
      have other : argument ≠ "--report".toList := by
        rintro rfl
        obtain ⟨settled, -, -, rfl⟩ := Scan.of_raise_report taken
        cases silent.symm.trans (report_of_behind read rfl)
      have same : scan.reporting.take .style argument = .ok next.reporting :=
        (Scan.commutes_take other scan).trans (congrArg _ taken)
      rw [same]
      exact ih read

/-- The flag among arguments that ask for no other report. Up to the flag both lines are read alike, and it leaves nothing but
itself to the arguments behind it. -/
theorem behind_report {scan plain flagged : Scan} (read : behind .style scan (front ++ back) = .ok plain)
    (silent : plain.flags.report = false) (added : behind .style scan (front ++ "--report".toList :: back) = .ok flagged)
    (reports : flagged.flags.report = true) : flagged = plain.reporting := by
  induction front generalizing scan with
  | nil =>
    rw [List.nil_append] at read added
    rw [behind_cons (by decide), Scan.take_report] at added
    obtain ⟨next, raised, added⟩ := ok_of_bind added
    obtain ⟨settled, done, -, rfl⟩ := Scan.of_raise_report raised
    rw [← behind_settled done] at read
    exact Except.ok.inj (added.symm.trans (behind_reporting read silent))
  | cons argument front ih =>
    rw [List.cons_append] at read added
    by_cases ends : argument = "--".toList
    · -- Behind the dashes the flag is a word.
      subst ends
      rw [behind_dashes] at read added
      obtain ⟨settled, done, rfl⟩ := Logged.map_eq_ok_iff.mp read
      obtain ⟨same, again, rfl⟩ := Logged.map_eq_ok_iff.mp added
      cases done.symm.trans again
      cases silent.symm.trans reports
    · rw [behind_cons ends] at read added
      obtain ⟨next, taken, read⟩ := ok_of_bind read
      obtain ⟨same, again, added⟩ := ok_of_bind added
      cases taken.symm.trans again
      exact ih read added

theorem finish_report {scan : Scan} (finished : finish scan .style (front ++ back) = .ok invocation)
    (styles : invocation.command = .style words false)
    (added : finish scan .style (front ++ "--report".toList :: back) = .ok reported)
    (asked : reported.command = .style others true) : reported = { invocation with command := .style words true } := by
  obtain ⟨inner, inside, finished⟩ := ok_of_bind finished
  obtain ⟨outer, outside, finished⟩ := ok_of_bind finished
  obtain ⟨flagged, among, added⟩ := ok_of_bind added
  obtain ⟨same, again, added⟩ := ok_of_bind added
  cases outside.symm.trans again
  cases finished
  cases added
  obtain ⟨rfl, silent⟩ := Command.style.inj styles
  obtain ⟨-, reports⟩ := Command.style.inj asked
  rw [behind_report inside silent among reports]
  rfl

theorem finish_report_first {scan : Scan} {arguments : List Text} (finished : finish scan .style arguments = .ok invocation)
    (styles : invocation.command = .style words false) :
    finish scan .style ("--report".toList :: arguments) = .ok { invocation with command := .style words true } := by
  obtain ⟨inner, inside, finished⟩ := ok_of_bind finished
  obtain ⟨outer, outside, finished⟩ := ok_of_bind finished
  cases finished
  obtain ⟨rfl, silent⟩ := Command.style.inj styles
  have flagged : behind .style {} ("--report".toList :: arguments) = .ok inner.reporting :=
    (behind_cons (by decide) {}).trans (behind_reporting inside silent)
  rw [finish, flagged, outside]
  rfl

theorem before_report {scan : Scan} (parsed : before scan (front ++ back) = .ok invocation)
    (styles : invocation.command = .style words false)
    (added : before scan (front ++ "--report".toList :: back) = .ok reported)
    (asked : reported.command = .style others true) : reported = { invocation with command := .style words true } := by
  induction front generalizing scan with
  | nil =>
    -- Before the command there is no such flag.
    have unknown : before scan ("--report".toList :: back) = .error .unknownArgument := rfl
    cases unknown.symm.trans added
  | cons argument front ih =>
    rw [List.cons_append] at parsed added
    rcases before_cons_style parsed styles with ⟨next, reads⟩ | commands
    · rw [reads] at parsed added
      exact ih parsed added
    · rw [commands] at parsed added
      exact finish_report parsed styles added asked

/-- Right behind the command there is always room for the flag. -/
theorem exists_before_report {scan : Scan} {arguments : List Text} (parsed : before scan arguments = .ok invocation)
    (styles : invocation.command = .style words false) :
    ∃ front back, arguments = front ++ back ∧
      before scan (front ++ "--report".toList :: back) = .ok { invocation with command := .style words true } := by
  induction arguments generalizing scan with
  | nil => exact absurd parsed (withoutCommand_ne_ok scan)
  | cons argument arguments ih =>
    rcases before_cons_style parsed styles with ⟨next, reads⟩ | commands
    · rw [reads] at parsed
      obtain ⟨front, back, rfl, added⟩ := ih parsed
      exact ⟨argument :: front, back, rfl, (reads _).trans added⟩
    · rw [commands] at parsed
      exact ⟨[argument], arguments, rfl, (commands _).trans (finish_report_first parsed styles)⟩

/-- A line with the report flag added to it, before, behind or between its arguments. There it has to be read as the flag: in other
places it is a word or makes no sense. -/
inductive ReportAdded (arguments : List Text) : List Text → Prop where
  | among {front back words : List Text} {reporting : Invocation} (split : arguments = front ++ back)
      (parsed : ofArguments (front ++ "--report".toList :: back) = .ok reporting)
      (asked : reporting.command = .style words true) : ReportAdded arguments (front ++ "--report".toList :: back)

theorem ReportAdded.parsed {arguments added : List Text} (report : ReportAdded arguments added)
    (parsed : ofArguments arguments = .ok invocation) (styles : invocation.command = .style words false) :
    ofArguments added = .ok { invocation with command := .style words true } := by
  cases report with
  | among split among asked =>
    subst split
    rw [before_report parsed styles among asked] at among
    exact among

theorem exists_reportAdded {arguments : List Text} (parsed : ofArguments arguments = .ok invocation)
    (styles : invocation.command = .style words false) : ∃ added, ReportAdded arguments added := by
  obtain ⟨front, back, split, added⟩ := exists_before_report parsed styles
  exact ⟨_, .among split added rfl⟩

end Invocation
end InlineStyle
