import InlineStyle.Proofs.StyleWrites
import InlineStyle.Styling

/-! A styling takes its words one by one. What a word does depends on the word alone, and both ways to treat
words at fault go through the same steps as long as there is no such word. -/

namespace InlineStyle

/-- What becomes of a word when words at fault are skipped. -/
inductive Fate where
  | ignored
  | unresolved
  | applied
deriving DecidableEq, Repr

def fate (token : Text) : Fate :=
  match resolve token with
  | none => .ignored
  | some (_, .ok .nothing) | some (_, .error _) => .unresolved
  | some (_, .ok (.set ..)) | some (_, .ok (.merge _)) => .applied

def fault? (token : Text) : Option InvalidValue :=
  match resolve token with
  | some (_, .error fault) => some fault
  | _ => none

def Effect.fields : Effect → List (Property × Value)
  | .nothing => []
  | .set property value => [(property, value)]
  | .merge fields => fields

def writes (token : Text) : List (Property × Value) :=
  match resolve token with
  | some (_, .ok effect) => effect.fields
  | _ => []

/-- What is logged for a word when words at fault are skipped. -/
def Event.ofWord (token : Text) : Event :=
  match resolve token with
  | none => .unclaimed token
  | some (family, .ok .nothing) => .unknown token family
  | some (family, .ok _) => .applied token family
  | some (_, .error fault) => .skipped fault

theorem fault?_eq_some_iff {token : Text} {fault : InvalidValue} :
    fault? token = some fault ↔ ∃ family, resolve token = some (family, .error fault) := by
  rcases resolved : resolve token with _ | ⟨family, fault | effect⟩ <;> simp [fault?, resolved]

theorem fate_of_writes {token : Text} {family : Family} {effect : Effect} (resolved : resolve token = some (family, .ok effect))
    (writes : effect ≠ .nothing) : fate token = .applied := by
  cases effect with
  | nothing => exact absurd rfl writes
  | set property value => simp only [fate, resolved]
  | merge fields => simp only [fate, resolved]

namespace Styling

def take (styling : Styling) (token : Text) : Styling :=
  match fate token with
  | .ignored => styling.ignore token
  | .unresolved => styling.leave token
  | .applied => { styling with style := styling.style.merge (writes token) }

variable {ε : Type} {input token : Text} {fault : InvalidValue}

theorem advance_skip (styling : Styling) (token : Text) :
    (advance (fun fault => .log (.skipped fault)) styling token : Logged Event ε Styling) =
      ⟨[.ofWord token], .ok (styling.take token)⟩ := by
  rcases resolved : resolve token with _ | ⟨family, fault | effect⟩
  · simp only [advance, resolved, take, fate, Event.ofWord]; rfl
  · simp only [advance, resolved, take, fate, Event.ofWord]; rfl
  · cases effect <;> simp only [advance, resolved, take, fate, Event.ofWord, writes, Effect.fields] <;> rfl

theorem advance_stop (styling : Styling) (token : Text) :
    advance .stop styling token =
      match fault? token with
      | none => ⟨[.ofWord token], .ok (styling.take token)⟩
      | some fault => ⟨[], .error fault⟩ := by
  rcases resolved : resolve token with _ | ⟨family, fault | effect⟩
  · simp only [advance, resolved, take, fate, Event.ofWord, fault?]; rfl
  · simp only [advance, resolved, fault?]; rfl
  · cases effect <;> simp only [advance, resolved, take, fate, Event.ofWord, writes, Effect.fields, fault?] <;> rfl

theorem lenient_eq (input : Text) :
    lenient input = ⟨input.words.map Event.ofWord, .ok (input.words.foldl take {})⟩ :=
  Logged.foldlM_of_ok (fun styling token _ => advance_skip styling token) {}

theorem strict_eq_of_sound (sound : ∀ token ∈ input.words, fault? token = none) :
    strict input = ⟨input.words.map Event.ofWord, .ok (input.words.foldl take {})⟩ := by
  apply Logged.foldlM_of_ok
  intro styling token member
  rw [advance_stop, sound token member]

/-- A strict styling ends at the first word at fault, and only the words before it are logged. -/
theorem strict_eq_of_fault {before after : List Text} (split : input.words = before ++ token :: after)
    (sound : ∀ earlier ∈ before, fault? earlier = none) (faulty : fault? token = some fault) :
    strict input = ⟨before.map Event.ofWord, .error fault⟩ := by
  have start : before.foldlM (advance .stop) {} = ⟨before.map Event.ofWord, .ok (before.foldl take {})⟩ := by
    apply Logged.foldlM_of_ok
    intro styling earlier member
    rw [advance_stop, sound earlier member]
  have stopped : ((token :: after).foldlM (advance .stop) (before.foldl take {})) = ⟨[], .error fault⟩ := by
    rw [List.foldlM_cons, advance_stop, faulty]
    rfl
  rw [strict, run, split, List.foldlM_append, start]
  simp only [Bind.bind, stopped, List.append_nil]

theorem writes_of_fate {token : Text} (idle : fate token ≠ .applied) : writes token = [] := by
  rcases resolved : resolve token with _ | ⟨family, fault | effect⟩
  · simp only [writes, resolved]
  · simp only [writes, resolved]
  · cases effect <;> simp_all [writes, fate, Effect.fields]

theorem foldl_take (styling : Styling) (words : List Text) :
    words.foldl take styling =
      { style := styling.style.merge (words.flatMap writes)
        ignored := styling.ignored ++ words.filter (fate · = .ignored)
        unresolved := styling.unresolved ++ words.filter (fate · = .unresolved) } := by
  induction words generalizing styling with
  | nil => simp
  | cons token words ih =>
    rw [List.foldl_cons, ih, List.flatMap_cons, Style.merge_append]
    cases become : fate token with
    | ignored => simp [take, become, ignore, writes_of_fate]
    | unresolved => simp [take, become, leave, writes_of_fate]
    | applied => simp [take, become]

theorem lenient_result (input : Text) :
    (lenient input).result =
      { style := ({} : Style).merge (input.words.flatMap writes)
        ignored := input.words.filter (fate · = .ignored)
        unresolved := input.words.filter (fate · = .unresolved) } := by
  simp only [Logged.result, lenient_eq, foldl_take, List.nil_append]

end Styling
end InlineStyle
