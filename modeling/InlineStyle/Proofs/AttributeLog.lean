import InlineStyle.Proofs.EventLog
import InlineStyle.Proofs.StrictRestyling

/-! The log of a restyling. It tells of the attributes in their order, each by the words of its value and by one event more if
it is kept, and ends with the counts. A fault ends it within an attribute. -/

namespace InlineStyle

namespace Event

def keeping : Text := "keeping className with no translatable tokens".toList

def counting : Text := "rewrote className attributes".toList

theorem counting_ne_keeping : counting ≠ keeping := by decide

theorem message_ofWord (token : Text) : (ofWord token).message ≠ keeping ∧ (ofWord token).message ≠ counting := by
  have first : (ofWord token).message.head? ∈ ['n', 'S', 'u', 'a'].map some := by
    rcases resolved : resolve token with _ | ⟨family, fault | effect⟩
    · simp only [ofWord, resolved]
      exact .head _
    · simp only [ofWord, resolved]
      exact .tail _ (.head _)
    · cases effect <;> simp only [ofWord, resolved]
      · exact .tail _ (.tail _ (.head _))
      · exact .tail _ (.tail _ (.tail _ (.head _)))
      · exact .tail _ (.tail _ (.tail _ (.head _)))
  constructor
  · intro same
    rw [same] at first
    exact absurd first (by decide)
  · intro same
    rw [same] at first
    exact absurd first (by decide)

end Event

/-- Styling a text logs nothing but what there is to say of its words. -/
theorem Options.ofWord_of_mem_events {options : Options} {input : Text} {event : Event}
    (member : event ∈ (options.literal input).events) : ∃ token, Event.ofWord token = event := by
  cases strict : options.strict with
  | false =>
    rw [events_of_lenient strict] at member
    obtain ⟨token, -, same⟩ := List.mem_map.mp member
    exact ⟨token, same⟩
  | true =>
    rw [events_of_strict strict] at member
    obtain ⟨token, -, same⟩ := List.mem_map.mp member
    exact ⟨token, same⟩

namespace Attribute

variable {options : Options} {attr : Attribute} {style : Style} {log : List Event}

/-- What is logged of an attribute that is passed: what styling its value logs, and behind that one event if it is kept. -/
inductive Logs (options : Options) (attr : Attribute) : List Event → Prop where
  | replaced (writes : attr.Writes) : attr.Logs options (options.literal attr.value).events
  | kept {event : Event} (idle : ¬ attr.Writes) (shows : event.Shows .debug Event.keeping [("tokens".toList, .words attr.value)]) :
      attr.Logs options ((options.literal attr.value).events ++ [event])

theorem logs_of_ok (made : (options.style attr.value).outcome = .ok style) : attr.Logs options (attr.replacement options).events := by
  have empty := isEmpty_iff_not_writes made
  rw [replacement, Logged.events_bind, made, options.events_style, ← options.events_literal]
  by_cases writes : attr.Writes
  · have filled : ¬ style.isEmpty = true := fun idle => empty.mp idle writes
    simp only [if_neg filled, pure, List.append_nil]
    exact .replaced writes
  · simp only [if_pos (empty.mpr writes)]
    exact .kept writes ⟨rfl, rfl, rfl⟩

theorem error_of_style {fault : InvalidValue} (stopped : (options.style attr.value).outcome = .error fault) :
    (attr.replacement options).outcome = .error fault := by
  rw [replacement, Logged.outcome_bind, stopped]
  rfl

theorem events_of_error {fault : InvalidValue} (stopped : (options.style attr.value).outcome = .error fault) :
    (attr.replacement options).events = (options.literal attr.value).events := by
  rw [replacement, Logged.events_bind, stopped, options.events_style, ← options.events_literal]
  exact List.append_nil _

theorem Logs.count_keeping (logs : attr.Logs options log) :
    log.countP (·.message = Event.keeping) = if attr.Writes then 0 else 1 := by
  have words : (options.literal attr.value).events.countP (·.message = Event.keeping) = 0 := by
    rw [List.countP_eq_zero]
    intro event member
    obtain ⟨token, rfl⟩ := Options.ofWord_of_mem_events member
    simpa using (Event.message_ofWord token).1
  cases logs with
  | replaced writes => rw [words, if_pos writes]
  | kept idle shows => rw [List.countP_append, words, if_neg idle, List.countP_singleton, shows.message, decide_eq_true rfl, if_pos rfl]

theorem Logs.message_ne_counting (logs : attr.Logs options log) : ∀ event ∈ log, event.message ≠ Event.counting := by
  have words : ∀ event ∈ (options.literal attr.value).events, event.message ≠ Event.counting := by
    intro event member
    obtain ⟨token, rfl⟩ := Options.ofWord_of_mem_events member
    exact (Event.message_ofWord token).2
  cases logs with
  | replaced writes => exact words
  | kept idle shows =>
    intro event member
    rcases List.mem_append.mp member with inside | last
    · exact words event inside
    · rw [List.mem_singleton.mp last, shows.message]
      decide

end Attribute

variable {options : Options} {source : Text} {attributes : List Attribute} {logs : List (List Event)}

theorem count_keeping_flatten (told : List.Forall₂ (Attribute.Logs options) attributes logs) :
    logs.flatten.countP (·.message = Event.keeping) = attributes.countP fun attr => ¬ attr.Writes := by
  induction told with
  | nil => rfl
  | @cons attr log attributes logs head _ ih =>
    rw [List.flatten_cons, List.countP_append, head.count_keeping, ih, List.countP_cons, Nat.add_comm]
    by_cases writes : attr.Writes <;> simp [writes]

theorem message_ne_counting_flatten (told : List.Forall₂ (Attribute.Logs options) attributes logs) :
    ∀ event ∈ logs.flatten, event.message ≠ Event.counting := by
  induction told with
  | nil => simp
  | cons head _ ih =>
    intro event member
    rw [List.flatten_cons] at member
    rcases List.mem_append.mp member with here | later
    · exact head.message_ne_counting event here
    · exact ih event later

namespace Options

theorem stopping?_of_style (options : Options) (attr : Attribute) :
    options.stopping? attr.value.words = none ↔ ∃ style, (options.style attr.value).outcome = .ok style := by
  rw [style_eq]
  cases options.stopping? attr.value.words <;> simp

/-- Attributes without a fault are told of, whatever comes behind them. -/
theorem exists_logs {front : List Attribute} (sound : ∀ attr ∈ front, options.stopping? attr.value.words = none) (rest : List Attribute) :
    ∃ logs, List.Forall₂ (Attribute.Logs options) front logs ∧
      ((front ++ rest).mapM fun (attr : Attribute) => attr.replacement options).events =
        logs.flatten ++ (rest.mapM fun (attr : Attribute) => attr.replacement options).events := by
  have made : ∀ attr ∈ front, ∃ style, (options.style attr.value).outcome = .ok style :=
    fun attr member => (options.stopping?_of_style attr).mp (sound attr member)
  refine ⟨front.map fun attr => (attr.replacement options).events, ?_, ?_⟩
  · rw [List.forall₂_map_right_iff, List.forall₂_same]
    intro attr member
    obtain ⟨style, styled⟩ := made attr member
    exact Attribute.logs_of_ok styled
  · apply Logged.events_mapM_append
    intro attr member
    obtain ⟨style, styled⟩ := made attr member
    exact ⟨_, Attribute.replacement_of_ok styled⟩

/-- The counts follow what is logged of the attributes, if there are counts. -/
theorem events_restyle (options : Options) (source : Text) :
    (options.restyle source).events =
      ((Markup.ofText source).attributes.mapM fun (attr : Attribute) => attr.replacement options).events ++
        match (options.restyle source).outcome with
        | .ok (_, tally) => [.attributesDone tally]
        | .error _ => [] := by
  have listed : ((Markup.ofText source).attributes.mapM fun (attr : Attribute) => attr.replacement options) =
      (Markup.ofText source).parts.mapM fun (part : Text × Attribute) => part.2.replacement options := List.mapM_map
  rw [restyle_outcome, restyle, Logged.events_bind, listed]
  cases ((Markup.ofText source).parts.mapM fun (part : Text × Attribute) => part.2.replacement options).outcome <;> rfl

theorem events_of_finished {out : Text} {tally : Tally} (finished : (options.restyle source).outcome = .ok (out, tally)) :
    ∃ logs, List.Forall₂ (Attribute.Logs options) (Markup.ofText source).attributes logs ∧
      (options.restyle source).events = logs.flatten ++ [.attributesDone tally] := by
  have sound := (elim_eq_ok_iff.mp ((restyle_eq options source).symm.trans finished)).1
  rw [stopping?_flatMap, List.findSome?_eq_none_iff] at sound
  obtain ⟨logs, told, shown⟩ := exists_logs sound []
  refine ⟨logs, told, ?_⟩
  rw [List.append_nil] at shown
  rw [events_restyle, finished, shown]
  exact congrArg (· ++ [Event.attributesDone tally]) (List.append_nil _)

/-- Nothing is logged behind the attribute at fault. -/
theorem events_of_stopped {fault : InvalidValue} {before after : List Attribute} {attr : Attribute}
    (stopped : (options.restyle source).outcome = .error fault)
    (split : (Markup.ofText source).attributes = before ++ attr :: after)
    (passed : ∀ earlier ∈ before, options.stopping? earlier.value.words = none)
    (faulty : options.stopping? attr.value.words = some fault) :
    ∃ logs, List.Forall₂ (Attribute.Logs options) before logs ∧
      (options.restyle source).events = logs.flatten ++ (options.literal attr.value).events := by
  obtain ⟨logs, told, shown⟩ := exists_logs passed (attr :: after)
  have failed : (options.style attr.value).outcome = .error fault := by rw [style_eq, faulty, Option.elim_some]
  refine ⟨logs, told, ?_⟩
  rw [events_restyle, stopped, split, shown, Logged.events_mapM_of_error (Attribute.error_of_style failed),
    Attribute.events_of_error failed]
  exact List.append_nil _

/-- A restyling that comes to its end tells of every attribute, and then of the counts, in which the kept attributes are those
that it has told of. One that fails tells of the attributes in front of the first one at fault and of the words in front of the
first one at fault in there, and of nothing else. -/
theorem log_tells_of_attributes (options : Options) (source : Text) :
    ∃ markup : Markup, (∀ other : Markup, other.Cut source ↔ other = markup) ∧
      (∀ out tally, (options.restyle source).outcome = .ok (out, tally) →
        ∃ logs last, List.Forall₂ (Attribute.Logs options) markup.attributes logs ∧
          (options.restyle source).events = logs.flatten ++ [last] ∧
          last.Shows .debug Event.counting
            [("rewritten".toList, .plain (numeral tally.replaced)), ("kept".toList, .plain (numeral tally.kept))] ∧
          markup.restyled = (out, tally) ∧
          (∀ event ∈ logs.flatten, event.message ≠ Event.counting) ∧
          (options.restyle source).events.countP (·.message = Event.keeping) = tally.kept) ∧
      ∀ fault, (options.restyle source).outcome = .error fault →
        ∃ before attr after words token rest logs told,
          markup.attributes = before ++ attr :: after ∧ (∀ earlier ∈ before, ∀ word ∈ earlier.value.words, fault? word = none) ∧
          attr.value.words = words ++ token :: rest ∧ (∀ word ∈ words, fault? word = none) ∧ fault? token = some fault ∧
          List.Forall₂ (Attribute.Logs options) before logs ∧ List.Forall₂ Event.Tells words told ∧
          (options.restyle source).events = logs.flatten ++ told ∧
          (∀ event ∈ (options.restyle source).events, event.message ≠ Event.counting) ∧
          ∀ event ∈ told, event.message ≠ Event.keeping := by
  refine ⟨.ofText source, fun other => Markup.cut_iff, ?_, ?_⟩
  · intro out tally finished
    obtain ⟨logs, told, events⟩ := events_of_finished finished
    have restyled := (elim_eq_ok_iff.mp ((restyle_eq options source).symm.trans finished)).2
    have kept : (Markup.ofText source).attributes.countP (fun attr => ¬ attr.Writes) = tally.kept :=
      congrArg (fun result : Text × Tally => result.2.kept) restyled
    have last : ∀ event ∈ [Event.attributesDone tally], ¬ decide (event.message = Event.keeping) = true := by
      intro event member same
      rw [List.mem_singleton.mp member] at same
      exact Event.counting_ne_keeping (of_decide_eq_true same)
    refine ⟨logs, .attributesDone tally, told, events, ⟨rfl, rfl, rfl⟩, restyled, message_ne_counting_flatten told, ?_⟩
    rw [events, List.countP_append, count_keeping_flatten told, kept, List.countP_eq_zero.mpr last, Nat.add_zero]
  · intro fault stopped
    have restyled := (restyle_eq options source).symm.trans stopped
    rw [elim_eq_error_iff, stopping?_flatMap, List.findSome?_eq_some_iff] at restyled
    obtain ⟨before, attr, after, split, faulty, sound⟩ := restyled
    obtain ⟨strict, words, token, rest, inside, found, -, earlier⟩ := stopping?_eq_some_iff.mp faulty
    obtain ⟨logs, told, events⟩ := events_of_stopped stopped split sound faulty
    rw [events_of_strict strict, inside, soundWords_append earlier, soundWords_of_fault found, List.append_nil] at events
    refine ⟨before, attr, after, words, token, rest, logs, words.map Event.ofWord, split, ?_, inside, earlier, found, told,
      Event.tells_words words, events, ?_, ?_⟩
    · exact fun passed member => stopping?_eq_none_iff.mp (sound passed member) strict
    · intro event member
      rw [events] at member
      rcases List.mem_append.mp member with front | back
      · exact message_ne_counting_flatten told event front
      · obtain ⟨word, -, rfl⟩ := List.mem_map.mp back
        exact (Event.message_ofWord word).2
    · intro event member
      obtain ⟨word, -, rfl⟩ := List.mem_map.mp member
      exact (Event.message_ofWord word).1

/-- A kept attribute and one with a faulty word inside, which ends a strict log. -/
theorem log_tells_of_kept_and_faulty :
    let source : Text := "<a className='wide'/><b className=\"p-1 text-[] p-2\"/>".toList
    let lenient : Options := { strict := false, format := .object }
    let strict : Options := { strict := true, format := .object }
    let out : Text := "<a className='wide'/><b style=\x7b\x7b padding: 8 \x7d\x7d/>".toList
    (lenient.restyle source).outcome = .ok (out, ⟨1, 1⟩) ∧
      (lenient.restyle source).events.countP (·.message = Event.keeping) = 1 ∧
      (strict.restyle source).outcome = .error ⟨"text-[]".toList, .sizeShape⟩ ∧
      ∀ event ∈ (strict.restyle source).events, event.message ≠ Event.counting := by
  intro source lenient strict out
  have finished : (lenient.restyle source).outcome = .ok (out, ⟨1, 1⟩) := by decide +kernel
  have stopped : (strict.restyle source).outcome = .error ⟨"text-[]".toList, .sizeShape⟩ := by decide +kernel
  obtain ⟨_, -, passed, -⟩ := log_tells_of_attributes lenient source
  obtain ⟨_, -, -, failed⟩ := log_tells_of_attributes strict source
  obtain ⟨_, _, -, -, -, -, -, counted⟩ := passed out ⟨1, 1⟩ finished
  obtain ⟨_, _, _, _, _, _, _, _, -, -, -, -, -, -, -, -, uncounted, -⟩ := failed _ stopped
  exact ⟨finished, counted, stopped, uncounted⟩

end Options

end InlineStyle
