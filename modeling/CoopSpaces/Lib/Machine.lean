import Mathlib.Data.List.Induction

/-- A law of single steps holds at every step of a run, each step judged with the
inputs before it. -/
def EveryStep {Input : Type} (law : List Input → Input → Prop) (inputs : List Input) : Prop :=
  ∀ past input later, inputs = past ++ input :: later → law past input

namespace EveryStep
variable {Input : Type} {law other : List Input → Input → Prop} {past : List Input} {input : Input}

theorem nil : EveryStep law [] := by
  intro past input later split
  simp at split

theorem snoc_iff : EveryStep law (past ++ [input]) ↔ EveryStep law past ∧ law past input := by
  constructor
  · intro every
    refine ⟨?_, every past input [] rfl⟩
    intro front next later split
    exact every front next (later ++ [input]) (by rw [split, List.append_assoc, List.cons_append])
  · rintro ⟨before, here⟩ front next later split
    rcases List.eq_nil_or_concat later with rfl | ⟨middle, final, rfl⟩
    · obtain ⟨rfl, same⟩ := List.append_inj' split rfl
      obtain rfl := List.singleton_inj.mp same
      exact here
    · rw [List.concat_eq_append, ← List.cons_append, ← List.append_assoc] at split
      obtain ⟨rfl, -⟩ := List.append_inj' split rfl
      exact before front next middle rfl

theorem congr (agree : ∀ past input, law past input ↔ other past input) {inputs : List Input} :
    EveryStep law inputs ↔ EveryStep other inputs := by
  simp only [EveryStep, agree]

theorem of_getElem {inputs : List Input} (each : ∀ n (bound : n < inputs.length), law (inputs.take n) inputs[n]) :
    EveryStep law inputs := by
  rintro past input later rfl
  have here := each past.length (by simp)
  rw [List.take_left] at here
  simpa using here

end EveryStep

/-- A deterministic machine: a start state, and one step that takes an input,
changes the state and answers. -/
structure Machine (State Input Output : Type) where
  start : State
  step : State → Input → State × Output

namespace Machine
variable {State Input Output : Type} (m : Machine State Input Output)

def runFrom (s : State) (inputs : List Input) : State :=
  inputs.foldl (fun s input => (m.step s input).1) s

def run (inputs : List Input) : State := m.runFrom m.start inputs

@[simp] theorem runFrom_nil (s : State) : m.runFrom s [] = s := rfl

@[simp] theorem runFrom_cons (s : State) (input : Input) (rest : List Input) :
    m.runFrom s (input :: rest) = m.runFrom (m.step s input).1 rest := rfl

theorem runFrom_append (s : State) (front back : List Input) :
    m.runFrom s (front ++ back) = m.runFrom (m.runFrom s front) back := by
  simp only [runFrom, List.foldl_append]

theorem run_append (front back : List Input) :
    m.run (front ++ back) = m.runFrom (m.run front) back := m.runFrom_append m.start front back

theorem run_snoc (past : List Input) (input : Input) :
    m.run (past ++ [input]) = (m.step (m.run past) input).1 := by
  rw [run_append, runFrom_cons, runFrom_nil]

/-- An invariant that may speak about the whole history of inputs: true at the
start and kept by every step, it holds after every run. -/
theorem run_invariant (Inv : List Input → State → Prop) (atStart : Inv [] m.start)
    (kept : ∀ past input, Inv past (m.run past) → Inv (past ++ [input]) (m.step (m.run past) input).1)
    (past : List Input) : Inv past (m.run past) := by
  induction past using List.reverseRecOn with
  | nil => exact atStart
  | append_singleton past input ih =>
    rw [run_snoc]
    exact kept past input ih

/-- The same from any state, for an invariant of the state alone, over a run
whose inputs all meet a condition. -/
theorem runFrom_invariant (Inv : State → Prop) (allowed : Input → Prop)
    (kept : ∀ s input, allowed input → Inv s → Inv (m.step s input).1)
    {s : State} (atStart : Inv s) {inputs : List Input} (meets : ∀ input ∈ inputs, allowed input) :
    Inv (m.runFrom s inputs) := by
  induction inputs generalizing s with
  | nil => exact atStart
  | cons input rest ih =>
    have first := kept s input (meets input (List.mem_cons_self ..)) atStart
    exact ih first (fun other member => meets other (List.mem_cons_of_mem _ member))

/-- When it is known of every step exactly when it keeps a good state good, the states of a
run are all good exactly when every step of it is of that kind. -/
theorem run_always_iff (Good : State → Prop) (law : State → Input → Prop) (atStart : Good m.start)
    (exact : ∀ past input, Good (m.run past) → (Good (m.step (m.run past) input).1 ↔ law (m.run past) input))
    (inputs : List Input) :
    (∀ past, past <+: inputs → Good (m.run past)) ↔
      EveryStep (fun past input => law (m.run past) input) inputs := by
  induction inputs using List.reverseRecOn with
  | nil =>
    refine ⟨fun _ => EveryStep.nil, fun _ past front => ?_⟩
    rw [List.prefix_nil.mp front]
    exact atStart
  | append_singleton past input ih =>
    rw [EveryStep.snoc_iff, ← ih]
    constructor
    · intro all
      have before := fun front shorter => all front (List.IsPrefix.trans shorter (List.prefix_append past [input]))
      have after := all (past ++ [input]) List.prefix_rfl
      rw [run_snoc] at after
      exact ⟨before, (exact past input (before past List.prefix_rfl)).mp after⟩
    · rintro ⟨before, here⟩ front shorter
      rcases List.prefix_concat_iff.mp shorter with rfl | earlier
      · rw [run_snoc]
        exact (exact past input (before past List.prefix_rfl)).mpr here
      · exact before front earlier

/-- What every step of the kind keeps is kept in every state of a run of such steps. It may
speak of the inputs so far. -/
theorem run_keeps_past (Good : List Input → State → Prop) {law : List Input → Input → Prop}
    (atStart : Good [] m.start)
    (kept : ∀ past input, Good past (m.run past) → law past input →
      Good (past ++ [input]) (m.step (m.run past) input).1)
    {inputs : List Input} (every : EveryStep law inputs) {past : List Input} (front : past <+: inputs) :
    Good past (m.run past) := by
  induction past using List.reverseRecOn with
  | nil => exact atStart
  | append_singleton past input ih =>
    obtain ⟨later, rfl⟩ := front
    have before : Good past (m.run past) := ih ⟨input :: later, List.append_cons past input later⟩
    have here : law past input := every past input later (List.append_cons past input later).symm
    rw [run_snoc]
    exact kept past input before here

theorem run_keeps (Good : State → Prop) {law : State → Input → Prop} (atStart : Good m.start)
    (kept : ∀ past input, Good (m.run past) → law (m.run past) input → Good (m.step (m.run past) input).1)
    {inputs : List Input} (every : EveryStep (fun past input => law (m.run past) input) inputs) {past : List Input}
    (front : past <+: inputs) : Good (m.run past) :=
  m.run_keeps_past (fun _ => Good) atStart kept every front

/-- Two machines in step. From related states every input keeps them related; at an
input the second does not hear it takes no step. -/
theorem runFrom_related {Other Answer : Type} (n : Machine Other Input Answer) (heard : Input → Bool)
    (Related : State → Other → Prop) (allowed : Input → Prop)
    (both : ∀ s t input, allowed input → heard input = true → Related s t →
      Related (m.step s input).1 (n.step t input).1)
    (alone : ∀ s t input, allowed input → heard input = false → Related s t → Related (m.step s input).1 t)
    {s : State} {t : Other} (atStart : Related s t) {inputs : List Input} (meets : ∀ input ∈ inputs, allowed input) :
    Related (m.runFrom s inputs) (n.runFrom t (inputs.filter heard)) := by
  induction inputs generalizing s t with
  | nil => exact atStart
  | cons input rest ih =>
    have here := meets input (List.mem_cons_self ..)
    have later := fun other member => meets other (List.mem_cons_of_mem _ member)
    by_cases hears : heard input = true
    · rw [List.filter_cons_of_pos hears]
      exact ih (both s t input here hears atStart) later
    · rw [List.filter_cons_of_neg hears]
      exact ih (alone s t input here (Bool.not_eq_true _ ▸ hears) atStart) later

/-- What a ghost observer sees of a run: `watch` is shown each step's state and
input, and what it notes down is kept in order. -/
def history {Note : Type} (watch : State → Input → List Note) (inputs : List Input) : List Note :=
  (go m.start inputs)
where
  go (s : State) : List Input → List Note
    | [] => []
    | input :: rest => watch s input ++ go (m.step s input).1 rest

theorem history_go_append {Note : Type} (watch : State → Input → List Note) (s : State)
    (front back : List Input) :
    history.go m watch s (front ++ back) =
      history.go m watch s front ++ history.go m watch (m.runFrom s front) back := by
  induction front generalizing s with
  | nil => rfl
  | cons input rest ih => simp only [List.cons_append, history.go, ih, runFrom_cons, List.append_assoc]

/-- Notes made of notes are the notes of the run, each made over. -/
theorem history_map {Note Other : Type} (watch : State → Input → List Note) (f : Note → Other) (inputs : List Input) :
    m.history (fun s input => (watch s input).map f) inputs = (m.history watch inputs).map f := by
  have from_ : ∀ (s : State), history.go m (fun s input => (watch s input).map f) s inputs =
      (history.go m watch s inputs).map f := by
    induction inputs with
    | nil => exact fun s => rfl
    | cons input rest ih =>
      intro s
      rw [history.go, history.go, List.map_append, ih]
  exact from_ m.start

theorem history_snoc {Note : Type} (watch : State → Input → List Note) (past : List Input)
    (input : Input) :
    m.history watch (past ++ [input]) = m.history watch past ++ watch (m.run past) input := by
  simp only [history, history_go_append, history.go, List.append_nil, run]

end Machine
