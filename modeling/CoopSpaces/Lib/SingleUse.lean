import CoopSpaces.Lib.Seen

/-! Things that are opened for one use, and that a change may take. -/

/-- What changes open and what they take. Only what is open is taken, and it is open no longer; nothing
opens but by a change that opens it. -/
structure Tokens {State Write Reply : Type} (perform : State → Write → State × Reply) (Key : Type) where
  isOpen : State → Key → Bool
  opens : State → Write → List Key
  takes : State → Write → Option Key
  taken_open : ∀ {s change key}, takes s change = some key → isOpen s key = true
  taken_shut : ∀ {s change key}, takes s change = some key → isOpen (perform s change).1 key = false
  opened : ∀ {s change key}, isOpen (perform s change).1 key = true → isOpen s key = false → key ∈ opens s change

namespace Tokens
variable {State Write Reply Answer Request Key : Type} {service : Service State Write Reply Answer Request}
  (tokens : Tokens service.perform Key) (start : State)

/-- What was taken in a run, with the place of the request that took it, in order. -/
def taken (inputs : List (Service.Event Request)) : List (Nat × Key) :=
  (service.landings start inputs).filterMap fun entry => (tokens.takes entry.2.1 entry.2.2).map (entry.1, ·)

/-- What was opened. -/
def openings (inputs : List (Service.Event Request)) : List Key :=
  (service.landings start inputs).flatMap fun entry => tokens.opens entry.2.1 entry.2.2

variable {tokens start}

theorem mem_taken {inputs : List (Service.Event Request)} {index : Nat} {landed : State × Write} {key : Key}
    (member : landed ∈ Service.byIndex index (service.landings start inputs))
    (takes : tokens.takes landed.1 landed.2 = some key) : (index, key) ∈ tokens.taken start inputs := by
  refine List.mem_filterMap.mpr ⟨(index, landed), Service.mem_of_byIndex member, ?_⟩
  rw [takes]
  rfl

section Count
variable [DecidableEq Key]

/-- A change takes a key only where it opens it, or where it was open. -/
theorem tally (tokens : Tokens service.perform Key) (s : State) (change : Write) (key : Key) :
    (tokens.takes s change).toList.count key + (tokens.isOpen (service.perform s change).1 key).toNat ≤
      (tokens.opens s change).count key + (tokens.isOpen s key).toNat := by
  by_cases takes : tokens.takes s change = some key
  · have wasOpen := tokens.taken_open takes
    have shut := tokens.taken_shut takes
    rw [takes, wasOpen, shut]
    simp
  · have none_ : (tokens.takes s change).toList.count key = 0 := by
      refine List.count_eq_zero.mpr fun member => takes ?_
      exact Option.mem_toList.mp member
    rw [none_, Nat.zero_add]
    rcases isOpen : tokens.isOpen (service.perform s change).1 key with _ | _
    · exact Nat.zero_le _
    · rcases wasOpen : tokens.isOpen s key with _ | _
      · have opens := List.count_pos_iff.mpr (tokens.opened isOpen wasOpen)
        exact Nat.le_add_right_of_le opens
      · exact Nat.le_add_left _ _

variable (tokens start)

/-- A key is taken as often as it was opened at most. -/
theorem count_taken_le (inputs : List (Service.Event Request)) (key : Key) :
    ((tokens.taken start inputs).map (·.2)).count key +
        (tokens.isOpen ((service.machine start).run inputs).state key).toNat ≤
      (tokens.openings start inputs).count key + (tokens.isOpen start key).toNat := by
  refine Machine.run_invariant (service.machine start) (fun past pool =>
    ((tokens.taken start past).map (·.2)).count key + (tokens.isOpen pool.state key).toNat ≤
      (tokens.openings start past).count key + (tokens.isOpen start key).toNat) ?_ ?_ inputs
  · exact Nat.le_refl _
  · intro past event before
    have logs := Machine.history_snoc (service.machine start) service.landing past event
    have moves : (service.machine start).step = service.step := rfl
    simp only [taken, openings, Service.landings, logs, List.filterMap_append, List.flatMap_append, List.map_append,
      List.count_append, moves] at before ⊢
    rcases service.landing_cases ((service.machine start).run past) event with
      ⟨silent, same⟩ | ⟨index, change, logged, made, -⟩
    · rw [silent, same]
      exact before
    · have here := tally tokens ((service.machine start).run past).state change key
      have took : (([(index, ((service.machine start).run past).state, change)].filterMap fun entry =>
          (tokens.takes entry.2.1 entry.2.2).map (entry.1, ·)).map (·.2)) =
          (tokens.takes ((service.machine start).run past).state change).toList := by
        rcases takes : tokens.takes ((service.machine start).run past).state change with _ | other <;> simp [takes]
      have opened : ([(index, ((service.machine start).run past).state, change)].flatMap fun entry =>
          tokens.opens entry.2.1 entry.2.2) = tokens.opens ((service.machine start).run past).state change :=
        List.flatMap_singleton ..
      rw [logged, made, took, opened]
      omega

end Count

end Tokens
