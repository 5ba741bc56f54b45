import Mathlib.Tactic.Common

/-! Loops that take one event after another off a stream. -/

namespace EventLoop
variable {Event Fault Failure Local Answer : Type}

/-- What one turn does with its event, and with those after it: the loop goes round once more,
or it is left with an answer. -/
abbrev Body (Event Fault Failure Local Answer : Type) : Type :=
  Local → Event → List (Except Fault Event) → Except Failure ((Local ⊕ Answer) × List (Except Fault Event))

/-- So many turns at most. A stream may have a fault in place of an event, and may end. -/
def turns (ended : Failure) (broken : Fault → Failure) (body : Body Event Fault Failure Local Answer) :
    Nat → Local → List (Except Fault Event) → Except Failure (Answer × List (Except Fault Event))
  | 0, _, _ => .error ended
  | _ + 1, _, [] => .error ended
  | _ + 1, _, .error fault :: _ => .error (broken fault)
  | more + 1, s, .ok event :: rest =>
    match body s event rest with
    | .error failure => .error failure
    | .ok (.inl s, rest) => turns ended broken body more s rest
    | .ok (.inr answer, rest) => .ok (answer, rest)

/-- As many turns as there are events. -/
def loop (ended : Failure) (broken : Fault → Failure) (body : Body Event Fault Failure Local Answer) (s : Local)
    (events : List (Except Fault Event)) : Except Failure (Answer × List (Except Fault Event)) :=
  turns ended broken body (events.length + 1) s events

/-- What is left of the stream is no longer than it was. -/
def Consumes (read : List (Except Fault Event) → Except Failure (Answer × List (Except Fault Event))) : Prop :=
  ∀ events answer rest, read events = .ok (answer, rest) → rest.length ≤ events.length

theorem Consumes.bind {Next : Type}
    {read : List (Except Fault Event) → Except Failure (Answer × List (Except Fault Event))}
    {next : Answer × List (Except Fault Event) → Except Failure (Next × List (Except Fault Event))}
    (first : Consumes read)
    (later : ∀ answer, Consumes fun events => next (answer, events)) :
    Consumes fun events => read events >>= next := by
  intro events answer rest found
  dsimp only at found
  rcases here : read events with failure | ⟨middle, left_⟩
  · rw [here] at found
    cases found
  · rw [here] at found
    exact Nat.le_trans (later middle left_ answer rest found) (first events middle left_ here)

theorem Consumes.of_value {Value : Type} (value : Except Failure Value)
    {next : Value → List (Except Fault Event) → Except Failure (Answer × List (Except Fault Event))}
    (later : ∀ v, Consumes (next v)) : Consumes fun events => value >>= fun v => next v events := by
  intro events answer rest found
  rcases value with failure | v
  · cases found
  · exact later v events answer rest found

theorem Consumes.error (failure : Failure) :
    Consumes (fun _ => .error failure : List (Except Fault Event) →
      Except Failure (Answer × List (Except Fault Event))) := by
  intro events answer rest found
  cases found

theorem Consumes.ok (answer : Answer) :
    Consumes (fun events => .ok (answer, events) : List (Except Fault Event) →
      Except Failure (Answer × List (Except Fault Event))) := by
  intro events other rest found
  exact Nat.le_of_eq (congrArg List.length (Prod.mk.inj (Except.ok.inj found)).2.symm)

section
variable {ended : Failure} {broken : Fault → Failure} {body : Body Event Fault Failure Local Answer} {bound : Nat}

theorem consumes_turns (consumes : ∀ s event, Consumes (body s event)) (more : Nat) (s : Local) :
    Consumes (turns ended broken body more s) := by
  induction more generalizing s with
  | zero =>
    intro events answer rest read
    cases read
  | succ more ih =>
    intro events answer rest read
    match events with
    | [] => cases read
    | .error fault :: later => cases read
    | .ok event :: later =>
      rw [turns] at read
      rw [List.length_cons]
      rcases turned : body s event later with failure | ⟨s' | answer', later'⟩
      · rw [turned] at read
        cases read
      · rw [turned] at read
        have here := consumes s event later _ _ turned
        have behind := ih s' later' answer rest read
        omega
      · rw [turned] at read
        cases read
        have here := consumes s event later _ _ turned
        omega

theorem consumes_loop (consumes : ∀ s event, Consumes (body s event)) (s : Local) :
    Consumes (loop ended broken body s) :=
  fun events => consumes_turns consumes _ s events

/-- What goes from turn to turn as a loop does, and on with its answer, comes to what that does
once the loop has answered. -/
theorem turns_bind {Result : Type} (run : Local → List (Except Fault Event) → Except Failure Result)
    (finish : Answer → List (Except Fault Event) → Except Failure Result) (nil : ∀ s, run s [] = .error ended)
    (fault : ∀ s fault rest, run s (.error fault :: rest) = .error (broken fault))
    (turn : ∀ s event rest, rest.length < bound → run s (.ok event :: rest) =
      (body s event rest).bind fun out => out.1.elim (run · out.2) (finish · out.2))
    (consumes : ∀ s event, Consumes (body s event)) (more : Nat) (s : Local) (events : List (Except Fault Event))
    (enough : events.length < more) (less : events.length ≤ bound) :
    run s events = (turns ended broken body more s events).bind fun out => finish out.1 out.2 := by
  induction more generalizing s events with
  | zero => omega
  | succ more ih =>
    match events with
    | [] => exact nil s
    | .error f :: rest => exact fault s f rest
    | .ok event :: rest =>
      rw [List.length_cons] at enough less
      rw [turn s event rest (by omega), turns]
      rcases turned : body s event rest with failure | ⟨s' | answer, rest'⟩
      · rfl
      · have shorter := consumes s event rest _ _ turned
        exact ih s' rest' (by omega) (by omega)
      · rfl

theorem loop_bind {Result : Type} (run : Local → List (Except Fault Event) → Except Failure Result)
    (finish : Answer → List (Except Fault Event) → Except Failure Result) (nil : ∀ s, run s [] = .error ended)
    (fault : ∀ s fault rest, run s (.error fault :: rest) = .error (broken fault))
    (turn : ∀ s event rest, rest.length < bound → run s (.ok event :: rest) =
      (body s event rest).bind fun out => out.1.elim (run · out.2) (finish · out.2))
    (consumes : ∀ s event, Consumes (body s event)) (s : Local) (events : List (Except Fault Event))
    (less : events.length ≤ bound) :
    run s events = (loop ended broken body s events).bind fun out => finish out.1 out.2 :=
  turns_bind run finish nil fault turn consumes _ s events (Nat.lt_succ_self _) less

end

end EventLoop
