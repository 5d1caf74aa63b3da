import InlineStyle.Proofs.FaultText
import InlineStyle.Proofs.Words
import Mathlib.Data.List.Forall2

/-! The log of a styling. Every word has its one event, in the order of the text, which tells what becomes of the word. A strict
styling logs nothing from the first word at fault on. -/

namespace InlineStyle

namespace Event

structure Shows (event : Event) (level : Level) (message : Text) (fields : List (Text × Field)) : Prop where
  level : event.level = level
  message : event.message = message
  fields : event.fields = fields

/-- The event says of the word what is made of it. -/
inductive Tells (token : Text) (event : Event) : Prop where
  | unclaimed (unowned : resolve token = none)
      (shows : event.Shows .debug "no rule for token".toList [("token".toList, .words token)])
  | unknown {family : Family} (silent : resolve token = some (family, .ok .nothing))
      (shows : event.Shows .debug "unknown suffix".toList
        [("token".toList, .words token), ("category".toList, .plain family.name)])
  | applied {family : Family} {effect : Effect} (resolved : resolve token = some (family, .ok effect))
      (writes : effect ≠ .nothing)
      (shows : event.Shows .trace "applying rule".toList
        [("token".toList, .words token), ("category".toList, .plain family.name)])
  | skipped {family : Family} {fault : InvalidValue} {text : Text} (faulty : resolve token = some (family, .error fault))
      (error : ErrorText token text) (shows : event.Shows .warn ("Skipping token: ".toList ++ text) [])

def token? (event : Event) : Option Text :=
  match event.fields.lookup "token".toList with
  | some (.words token) => some token
  | _ => none

/-- The word that an event names as skipped. Its message goes on behind the word with a quote, a colon and a blank. -/
def skipped? (event : Event) : Option Text := do
  let named ← Text.after? "Skipping token: Invalid value in token '".toList event.message
  Text.before? "':".toList (named.takeWhile fun c => !Text.isBlank c)

/-- The word of an event that says that no family claims it. -/
def unclaimed? (event : Event) : Option Text :=
  if event.message = "no rule for token".toList then event.token? else none

/-- The word of an event that says that a family claims it and that it writes nothing. -/
def unresolved? (event : Event) : Option Text :=
  if event.level = .warn then event.skipped?
  else if event.message = "unknown suffix".toList then event.token?
  else none

theorem tells_ofWord (token : Text) : Tells token (ofWord token) := by
  rcases resolved : resolve token with _ | ⟨family, fault | effect⟩
  · simp only [ofWord, resolved]
    exact .unclaimed resolved ⟨rfl, rfl, rfl⟩
  · simp only [ofWord, resolved]
    exact .skipped resolved (errorText_of_fault? (fault?_eq_some_iff.mpr ⟨family, resolved⟩)) ⟨rfl, rfl, rfl⟩
  · cases effect with
    | nothing =>
      simp only [ofWord, resolved]
      exact .unknown resolved ⟨rfl, rfl, rfl⟩
    | set property value =>
      simp only [ofWord, resolved]
      exact .applied resolved (by simp) ⟨rfl, rfl, rfl⟩
    | merge fields =>
      simp only [ofWord, resolved]
      exact .applied resolved (by simp) ⟨rfl, rfl, rfl⟩

theorem tells_words (words : List Text) : List.Forall₂ Tells words (words.map ofWord) :=
  List.forall₂_map_right_iff.mpr (List.forall₂_same.mpr fun token _ => tells_ofWord token)

theorem Tells.level_ne_warn {token : Text} {event : Event} (tells : Tells token event) (sound : fault? token = none) :
    event.level ≠ .warn := by
  cases tells with
  | unclaimed _ shows | unknown _ shows | applied _ _ shows =>
    rw [shows.level]
    simp
  | skipped faulty _ _ =>
    rw [fault?_eq_some_iff.mpr ⟨_, faulty⟩] at sound
    cases sound

/-- A word can be read off its warning, since no word holds a blank. -/
theorem Shows.skipped?_eq {token text : Text} {event : Event} {fields : List (Text × Field)}
    (shows : event.Shows .warn ("Skipping token: ".toList ++ text) fields) (error : ErrorText token text)
    (solid : ∀ c ∈ token, Text.isBlank c = false) : event.skipped? = some token := by
  obtain ⟨reason, -, rfl⟩ := error
  have message : event.message =
      "Skipping token: Invalid value in token '".toList ++ ((token ++ "':".toList) ++ ' ' :: reason) := by
    simp [shows.message]
  have quote : ∀ c ∈ "':".toList, (!Text.isBlank c) = true := Text.forall_of_all (by decide)
  have passes : ∀ c ∈ token ++ "':".toList, (!Text.isBlank c) = true := by
    intro c member
    rcases List.mem_append.mp member with inside | behind
    · simp [solid c inside]
    · exact quote c behind
  have named : ((token ++ "':".toList) ++ ' ' :: reason).takeWhile (fun c => !Text.isBlank c) = token ++ "':".toList := by
    rw [List.takeWhile_append_of_pos passes, List.takeWhile_cons_of_neg (by decide), List.append_nil]
  rw [Event.skipped?, Text.after?_eq_some_iff.mpr message, Option.bind_eq_bind, Option.bind_some, named]
  exact Text.before?_eq_some_iff.mpr rfl

theorem Tells.unclaimed?_eq {token : Text} {event : Event} (tells : Tells token event) :
    event.unclaimed? = Option.guard (fate · = .ignored) token := by
  cases tells with
  | unclaimed unowned shows => simp [Event.unclaimed?, token?, shows.message, shows.fields, fate, unowned, Option.guard]
  | unknown silent shows => simp [Event.unclaimed?, shows.message, fate, silent, Option.guard]
  | applied resolved writes shows =>
    simp [Event.unclaimed?, shows.message, fate_of_writes resolved writes, Option.guard]
  | skipped faulty _ shows => simp [Event.unclaimed?, shows.message, fate, faulty, Option.guard]

theorem Tells.unresolved?_eq {token : Text} {event : Event} (tells : Tells token event)
    (solid : ∀ c ∈ token, Text.isBlank c = false) : event.unresolved? = Option.guard (fate · = .unresolved) token := by
  cases tells with
  | unclaimed unowned shows => simp [Event.unresolved?, shows.level, shows.message, fate, unowned, Option.guard]
  | unknown silent shows =>
    simp [Event.unresolved?, token?, shows.level, shows.message, shows.fields, fate, silent, Option.guard]
  | applied resolved writes shows =>
    simp [Event.unresolved?, shows.level, shows.message, fate_of_writes resolved writes, Option.guard]
  | skipped faulty error shows =>
    rw [Event.unresolved?, if_pos shows.level, shows.skipped?_eq error solid]
    simp [fate, faulty, Option.guard]

end Event

def soundWords (words : List Text) : List Text := words.takeWhile fun token => (fault? token).isNone

section SoundWords

variable {before after : List Text} {token : Text} {fault : InvalidValue}

theorem soundWords_append (sound : ∀ token ∈ before, fault? token = none) (after : List Text) :
    soundWords (before ++ after) = before ++ soundWords after :=
  List.takeWhile_append_of_pos (by simpa using sound)

theorem soundWords_of_fault (faulty : fault? token = some fault) (after : List Text) : soundWords (token :: after) = [] :=
  List.takeWhile_cons_of_neg (by simp [faulty])

theorem soundWords_of_sound (sound : ∀ token ∈ before, fault? token = none) : soundWords before = before := by
  have all : soundWords (before ++ []) = before ++ [] := soundWords_append sound []
  rwa [List.append_nil] at all

theorem fault?_of_mem_soundWords (member : token ∈ soundWords before) : fault? token = none := by
  simpa using List.all_eq_true.mp List.all_takeWhile token member

end SoundWords

variable {input : Text} {options : Options} {styling : Styling}

theorem Styling.events_strict (input : Text) : (strict input).events = (soundWords input.words).map Event.ofWord := by
  rcases firstFault_or_sound input.words with ⟨fault, before, token, after, split, faulty, -, sound⟩ | sound
  · rw [strict_eq_of_fault split sound faulty, split, soundWords_append sound, soundWords_of_fault faulty, List.append_nil]
  · rw [strict_eq_of_sound sound, soundWords_of_sound sound]

namespace Options

theorem events_style (options : Options) (input : Text) : (options.style input).events = (options.styling input).events :=
  Logged.events_bind_pure _ _

theorem events_literal (options : Options) (input : Text) :
    (options.literal input).events = (options.styling input).events :=
  (Logged.events_bind_pure _ _).trans (events_style options input)

theorem events_of_lenient (lenient : options.strict = false) :
    (options.literal input).events = input.words.map Event.ofWord := by
  rw [events_literal, events_styling_of_lenient lenient]

theorem events_of_strict (strict : options.strict = true) :
    (options.literal input).events = (soundWords input.words).map Event.ofWord := by
  rw [events_literal, styling_of_strict strict, Styling.events_strict]

/-- A styling that comes to its end has told of every word. -/
theorem events_of_ok (made : (options.styling input).outcome = .ok styling) :
    (options.literal input).events = input.words.map Event.ofWord := by
  cases strict : options.strict with
  | false => exact events_of_lenient strict
  | true =>
    rw [styling_of_strict strict] at made
    rw [events_of_strict strict, soundWords_of_sound (Styling.strict_outcome_eq_ok_iff.mp made).1]

end Options

theorem filterMap_ofWord {pick : Event → Option Text} {become : Fate} {words : List Text}
    (picks : ∀ token ∈ words, pick (.ofWord token) = Option.guard (fate · = become) token) :
    (words.map Event.ofWord).filterMap pick = words.filter (fate · = become) := by
  rw [List.filterMap_map, ← List.filterMap_eq_filter]
  exact List.filterMap_congr picks

/-- The log of a lenient styling tells of every word of the text, one event for each and in their order. Under strict options
it is the same up to the first word at fault, and nothing behind that, so it never warns. Where there is a styling, its lists are
those of the words that the log calls unclaimed, and of those that it calls unknown or skipped. -/
theorem log_tells_of_words (format : Format) (input : Text) :
    let lenient : Options := { strict := false, format }
    let strict : Options := { strict := true, format }
    List.Forall₂ Event.Tells input.words (lenient.literal input).events ∧
    List.Forall₂ Event.Tells (input.words.takeWhile fun token => (fault? token).isNone) (strict.literal input).events ∧
    (strict.literal input).events <+: (lenient.literal input).events ∧
    (∀ event ∈ (strict.literal input).events, event.level ≠ .warn) ∧
    ∀ (options : Options) (styling : Styling), (options.styling input).outcome = .ok styling →
      styling.ignored = (options.literal input).events.filterMap Event.unclaimed? ∧
      styling.unresolved = (options.literal input).events.filterMap Event.unresolved? := by
  intro lenient strict
  have told : (lenient.literal input).events = input.words.map Event.ofWord := Options.events_of_lenient rfl
  have stopped : (strict.literal input).events = (soundWords input.words).map Event.ofWord := Options.events_of_strict rfl
  rw [told, stopped]
  refine ⟨Event.tells_words _, Event.tells_words _, (List.takeWhile_prefix _).map _, ?_, fun options styling made => ?_⟩
  · intro event member
    obtain ⟨token, sound, rfl⟩ := List.mem_map.mp member
    exact (Event.tells_ofWord token).level_ne_warn (fault?_of_mem_soundWords sound)
  · rw [Options.events_of_ok made, filterMap_ofWord fun token _ => (Event.tells_ofWord token).unclaimed?_eq,
      filterMap_ofWord fun token member => (Event.tells_ofWord token).unresolved?_eq (Text.isBlank_of_mem_words member),
      ← Options.styling_of_ok made, Styling.lenient_result]
    exact ⟨rfl, rfl⟩

/-- Words of all four kinds without strict options, and those in front of the faulty one with them. -/
theorem log_tells_of_every_kind :
    let input : Text := "wide rounded-x p-1 text-[] p-2".toList
    let lenient : Options := { strict := false, format := .object }
    let strict : Options := { strict := true, format := .object }
    let told (events : List Event) : List (Level × Text × List (Text × Field)) :=
      events.map fun event => (event.level, event.message, event.fields)
    let token (word : String) : Text × Field := ("token".toList, .words word.toList)
    let category (name : String) : Text × Field := ("category".toList, .plain name.toList)
    let front := [
      (.debug, "no rule for token".toList, [token "wide"]),
      (.debug, "unknown suffix".toList, [token "rounded-x", category "BorderRadius"]),
      (.trace, "applying rule".toList, [token "p-1", category "Padding"])]
    let styling := (Styling.lenient input).result
    (lenient.styling input).outcome = .ok styling ∧
      styling.ignored = (lenient.literal input).events.filterMap Event.unclaimed? ∧
      styling.unresolved = (lenient.literal input).events.filterMap Event.unresolved? ∧
      (lenient.literal input).events.filterMap Event.unresolved? = ["rounded-x".toList, "text-[]".toList] ∧
      told (strict.literal input).events = front ∧
      told (lenient.literal input).events = front ++ [
        (.warn, "Skipping token: Invalid value in token 'text-[]': expected `text-[<N>px]`".toList, []),
        (.trace, "applying rule".toList, [token "p-2", category "Padding"])] := by
  intro input lenient strict told token category front styling
  have made : (lenient.styling input).outcome = .ok styling := rfl
  obtain ⟨-, -, -, -, lists⟩ := log_tells_of_words .object input
  obtain ⟨ignored, unresolved⟩ := lists lenient styling made
  exact ⟨made, ignored, unresolved, by decide +kernel, by decide +kernel, by decide +kernel⟩

end InlineStyle
