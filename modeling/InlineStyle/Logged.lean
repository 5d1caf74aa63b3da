/-! Computations that log. What was logged before an error stays logged. -/

namespace InlineStyle

/-- Logs events of type `ω` and ends in a result or stops at an error. -/
structure Logged (ω ε α : Type) where
  events : List ω
  outcome : Except ε α

namespace Logged

variable {ω ω' ε α : Type}

def log (event : ω) : Logged ω ε Unit := ⟨[event], .ok ()⟩

def stop (error : ε) : Logged ω ε α := ⟨[], .error error⟩

instance : Monad (Logged ω ε) where
  pure result := ⟨[], .ok result⟩
  bind first next :=
    match first.outcome with
    | .error error => ⟨first.events, .error error⟩
    | .ok result =>
      let second := next result
      ⟨first.events ++ second.events, second.outcome⟩

instance : LawfulMonad (Logged ω ε) :=
  LawfulMonad.mk' _
    (by rintro α ⟨events, _ | _⟩ <;> simp [Functor.map])
    (by intros; simp [Bind.bind, pure])
    (by
      rintro α β γ ⟨events, _ | result⟩ f g
      · rfl
      · simp only [Bind.bind]
        cases f result with
        | mk _ outcome => cases outcome <;> simp)

/-- The result of a computation that cannot stop. -/
def result (computation : Logged ω Empty α) : α :=
  match computation.outcome with
  | .ok result => result

/-- A computation that cannot stop, among those that can. -/
def widen (computation : Logged ω Empty α) : Logged ω ε α := ⟨computation.events, .ok computation.result⟩

/-- The computation with its events as part of another log. -/
def within (embed : ω → ω') (computation : Logged ω ε α) : Logged ω' ε α :=
  ⟨computation.events.map embed, computation.outcome⟩

@[simp] theorem outcome_pure (result : α) : (pure result : Logged ω ε α).outcome = .ok result := rfl

theorem outcome_bind {β : Type} (first : Logged ω ε α) (next : α → Logged ω ε β) :
    (first >>= next).outcome = first.outcome.bind fun result => (next result).outcome := by
  obtain ⟨events, _ | result⟩ := first <;> rfl

theorem events_bind {β : Type} (first : Logged ω ε α) (next : α → Logged ω ε β) :
    (first >>= next).events = first.events ++ match first.outcome with
      | .ok result => (next result).events
      | .error _ => [] := by
  obtain ⟨events, _ | result⟩ := first
  · exact (List.append_nil _).symm
  · rfl

theorem outcome_bind_eq_ok_iff {β : Type} {first : Logged ω ε α} {next : α → Logged ω ε β} {result : β} :
    (first >>= next).outcome = .ok result ↔
      ∃ value, first.outcome = .ok value ∧ (next value).outcome = .ok result := by
  rw [outcome_bind]
  cases first.outcome <;> simp [Except.bind]

theorem map_eq_ok_iff {β : Type} {outcome : Except ε α} {change : α → β} {result : β} :
    outcome.map change = .ok result ↔ ∃ value, outcome = .ok value ∧ change value = result := by
  cases outcome <;> simp [Except.map]

/-- A fold whose steps all succeed logs what each of them logs. -/
theorem foldlM_of_ok {σ τ : Type} {step : σ → τ → Logged ω ε σ} {event : τ → ω} {next : σ → τ → σ} {items : List τ}
    (steps : ∀ state, ∀ item ∈ items, step state item = ⟨[event item], .ok (next state item)⟩) (start : σ) :
    items.foldlM step start = ⟨items.map event, .ok (items.foldl next start)⟩ := by
  induction items generalizing start with
  | nil => rfl
  | cons item items ih =>
    have rest := ih (fun state other member => steps state other (by simp [member])) (next start item)
    rw [List.foldlM_cons, steps start item (by simp)]
    simp only [Bind.bind, rest, List.map_cons, List.foldl_cons, List.singleton_append]

theorem outcome_mapM_of_ok {σ τ : Type} {step : σ → Logged ω ε τ} {value : σ → τ} {items : List σ}
    (steps : ∀ item ∈ items, (step item).outcome = .ok (value item)) :
    (items.mapM step).outcome = .ok (items.map value) := by
  induction items with
  | nil => rfl
  | cons item items ih =>
    have first : (step item).outcome = .ok (value item) := steps item (by simp)
    have rest := ih fun other member => steps other (by simp [member])
    rw [List.mapM_cons, outcome_bind, first]
    simp only [Except.bind, outcome_bind, rest, outcome_pure, List.map_cons]

theorem ok_of_outcome_mapM {σ τ : Type} {step : σ → Logged ω ε τ} {items : List σ} {results : List τ}
    (finished : (items.mapM step).outcome = .ok results) : ∀ item ∈ items, ∃ result, (step item).outcome = .ok result := by
  induction items generalizing results with
  | nil => simp
  | cons head items ih =>
    rw [List.mapM_cons] at finished
    obtain ⟨result, first, finished⟩ := outcome_bind_eq_ok_iff.mp finished
    obtain ⟨others, rest, _⟩ := outcome_bind_eq_ok_iff.mp finished
    intro item member
    rcases List.mem_cons.mp member with rfl | member
    · exact ⟨result, first⟩
    · exact ih rest item member

theorem events_bind_pure {β : Type} (first : Logged ω ε α) (change : α → β) :
    (first >>= fun result => pure (change result)).events = first.events := by
  rw [events_bind]
  cases first.outcome <;> exact List.append_nil _

/-- Steps that succeed log all that they have to, and then the others follow. -/
theorem events_mapM_append {σ τ : Type} {step : σ → Logged ω ε τ} {front : List σ}
    (succeed : ∀ item ∈ front, ∃ result, (step item).outcome = .ok result) (rest : List σ) :
    ((front ++ rest).mapM step).events = (front.flatMap fun item => (step item).events) ++ (rest.mapM step).events := by
  induction front with
  | nil => rfl
  | cons item front ih =>
    obtain ⟨result, made⟩ := succeed item List.mem_cons_self
    have others := ih fun other member => succeed other (List.mem_cons_of_mem _ member)
    rw [List.cons_append, List.mapM_cons, events_bind, made, List.flatMap_cons, List.append_assoc, ← others]
    exact congrArg ((step item).events ++ ·) (events_bind_pure _ _)

/-- A step that fails is the last one to log. -/
theorem events_mapM_of_error {σ τ : Type} {step : σ → Logged ω ε τ} {item : σ} {error : ε}
    (stopped : (step item).outcome = .error error) (rest : List σ) :
    ((item :: rest).mapM step).events = (step item).events := by
  rw [List.mapM_cons, events_bind, stopped]
  exact List.append_nil _

end Logged
end InlineStyle
