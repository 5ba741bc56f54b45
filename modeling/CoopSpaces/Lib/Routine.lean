import CoopSpaces.Lib.Machine
import Mathlib.Data.List.Perm.Basic

/-- A program over a shared state, cut where another may come in between. A read sees the
state as it then is; a write is one change, and answers. One that fails or is never taken
up again stays where it is. -/
inductive Routine (State Write Reply Answer : Type)
  | done (answer : Answer)
  | read (next : State → Routine State Write Reply Answer)
  | write (change : Write) (next : Reply → Routine State Write Reply Answer)

namespace Routine
variable {State Write Reply Answer Other : Type}

def bind (routine : Routine State Write Reply Answer) (f : Answer → Routine State Write Reply Other) :
    Routine State Write Reply Other :=
  match routine with
  | .done answer => f answer
  | .read next => .read fun s => (next s).bind f
  | .write change next => .write change fun reply => (next reply).bind f

instance : Monad (Routine State Write Reply) where
  pure := .done
  bind := bind

/-- A routine of one part of the state, over all of it. -/
def lift {Part Change : Type} (get : State → Part) (wrap : Change → Write) :
    Routine Part Change Reply Answer → Routine State Write Reply Answer
  | .done answer => .done answer
  | .read next => .read fun s => (next (get s)).lift get wrap
  | .write change next => .write (wrap change) fun reply => (next reply).lift get wrap

/-- The routine run to its end with nobody in between. -/
def solo (perform : State → Write → State × Reply) (routine : Routine State Write Reply Answer) (s : State) :
    State × Answer :=
  match routine with
  | .done answer => (s, answer)
  | .read next => (next s).solo perform s
  | .write change next => (next (perform s change).2).solo perform (perform s change).1

/-- What the routine comes to while the state stays as it is: its answer, or its first write. -/
def act (routine : Routine State Write Reply Answer) (s : State) : Answer ⊕ Write :=
  match routine with
  | .done answer => .inl answer
  | .read next => (next s).act s
  | .write change _ => .inr change

variable {perform : State → Write → State × Reply} {routine : Routine State Write Reply Answer} {s : State}

theorem act_bind (routine : Routine State Write Reply Answer) (f : Answer → Routine State Write Reply Other)
    (s : State) :
    (routine.bind f).act s = (routine.act s).elim (fun answer => (f answer).act s) .inr := by
  induction routine with
  | done answer => rfl
  | read next ih => exact ih s
  | write change next _ => rfl

/-- Lifted from a part of the state, it comes to what it comes to there. -/
theorem act_lift {Part Change : Type} (get : State → Part) (wrap : Change → Write)
    (routine : Routine Part Change Reply Answer)
    (s : State) : (routine.lift get wrap).act s = (routine.act (get s)).map id wrap := by
  induction routine with
  | done answer => rfl
  | read next ih => exact ih (get s)
  | write change next _ => rfl

theorem solo_of_act (perform : State → Write → State × Reply) {answer : Answer}
    (answers : routine.act s = .inl answer) : routine.solo perform s = (s, answer) := by
  induction routine with
  | done other => exact congrArg (Prod.mk s) (Sum.inl.inj answers)
  | read next ih => exact ih s answers
  | write change next _ => cases answers

variable {next : Reply → Routine State Write Reply Answer}

/-- A routine that writes first goes on from where the write lands. -/
theorem solo_of_write {change : Write} {t : State} {reply : Reply} (writes : routine = .write change next)
    (made : perform s change = (t, reply)) : routine.solo perform s = (next reply).solo perform t := by
  rw [writes, solo, made]

theorem solo_bind (perform : State → Write → State × Reply) (routine : Routine State Write Reply Answer)
    (f : Answer → Routine State Write Reply Other) (s : State) :
    (routine.bind f).solo perform s = (f (routine.solo perform s).2).solo perform (routine.solo perform s).1 := by
  induction routine generalizing s with
  | done answer => rfl
  | read next ih => exact ih s s
  | write change next ih => exact ih (perform s change).2 (perform s change).1

/-- The changes a routine makes with nobody in between, each with the state it lands on. -/
def soloWrites (perform : State → Write → State × Reply) (routine : Routine State Write Reply Answer) (s : State) :
    List (State × Write) :=
  match routine with
  | .done _ => []
  | .read next => (next s).soloWrites perform s
  | .write change next => (s, change) :: (next (perform s change).2).soloWrites perform (perform s change).1

theorem soloWrites_of_act (perform : State → Write → State × Reply) {answer : Answer}
    (answers : routine.act s = .inl answer) : routine.soloWrites perform s = [] := by
  induction routine with
  | done _ => rfl
  | read next ih => exact ih s answers
  | write _ _ _ => cases answers

theorem soloWrites_bind (perform : State → Write → State × Reply) (routine : Routine State Write Reply Answer)
    (f : Answer → Routine State Write Reply Other) (s : State) :
    (routine.bind f).soloWrites perform s = routine.soloWrites perform s ++
      (f (routine.solo perform s).2).soloWrites perform (routine.solo perform s).1 := by
  induction routine generalizing s with
  | done answer => rfl
  | read next ih => exact ih s s
  | write change next ih =>
    simp only [bind, soloWrites, solo, List.cons_append]
    rw [ih]

/-- No more than one change is made, and the answer follows it. -/
def WritesOnce : Routine State Write Reply Answer → Prop
  | .done _ => True
  | .read next => ∀ s, (next s).WritesOnce
  | .write _ next => ∀ reply, ∃ answer, next reply = .done answer

/-- The one change is what the routine comes to on the state it lands on. -/
theorem WritesOnce.act_of_soloWrites (once : routine.WritesOnce) {landed : State × Write}
    (member : landed ∈ routine.soloWrites perform s) : landed.1 = s ∧ routine.act s = .inr landed.2 := by
  induction routine with
  | done answer => cases member
  | read next ih => exact ih s (once s) member
  | write change next _ =>
    obtain ⟨answer, same⟩ := once (perform s change).2
    simp only [soloWrites, same, List.mem_singleton] at member
    subst member
    exact ⟨rfl, rfl⟩

theorem WritesOnce.solo_write {change : Write} (once : (write change next).WritesOnce) (s : State) :
    ((write change next).solo perform s).1 = (perform s change).1 := by
  obtain ⟨answer, same⟩ := once (perform s change).2
  simp only [solo, same]

theorem WritesOnce.soloWrites_write {change : Write} (once : (write change next).WritesOnce) (s : State) :
    (write change next).soloWrites perform s = [(s, change)] := by
  obtain ⟨answer, same⟩ := once (perform s change).2
  simp only [soloWrites, same]

/-- What each of those changes keeps is kept to the end. -/
theorem solo_of_soloWrites (Inv : State → Prop)
    (keeps : ∀ landed ∈ routine.soloWrites perform s, Inv landed.1 → Inv (perform landed.1 landed.2).1)
    (inv : Inv s) :
    Inv (routine.solo perform s).1 := by
  induction routine generalizing s with
  | done answer => exact inv
  | read next ih => exact ih s keeps inv
  | write change next ih =>
    have first : Inv (perform s change).1 := keeps (s, change) (List.mem_cons_self ..) inv
    exact ih _ (fun landed member => keeps landed (List.mem_cons_of_mem _ member)) first

/-- One step: a read or a write is taken, and the routine goes on from there. -/
def advance (perform : State → Write → State × Reply) (s : State) :
    Routine State Write Reply Answer → State × Routine State Write Reply Answer
  | .done answer => (s, .done answer)
  | .read next => (s, next s)
  | .write change next => ((perform s change).1, next (perform s change).2)

/-- The routine run alone for so many steps, and what is left of it: it may fail, or be given
up, after any. -/
def soloFor (perform : State → Write → State × Reply) :
    Nat → State → Routine State Write Reply Answer → State × Routine State Write Reply Answer
  | 0, s, routine => (s, routine)
  | steps + 1, s, routine => soloFor perform steps (routine.advance perform s).1 (routine.advance perform s).2

section SoloFor
variable {answer : Answer}

theorem soloFor_done (perform : State → Write → State × Reply) (steps : Nat) (s : State) (answer : Answer) :
    soloFor perform steps s (.done answer : Routine State Write Reply Answer) = (s, .done answer) := by
  induction steps with
  | zero => rfl
  | succ steps ih => exact ih

/-- One that comes to its answer makes no change on the way. -/
theorem soloFor_of_act (answers : routine.act s = .inl answer) (steps : Nat) :
    (soloFor perform steps s routine).1 = s := by
  induction routine generalizing steps with
  | done other => rw [soloFor_done]
  | read next ih =>
    cases steps with
    | zero => rfl
    | succ steps => exact ih s answers steps
  | write change next _ => cases answers

end SoloFor

/-- What a routine keeps to, whoever runs in between: relying on every state it reads being in
the invariant, it makes no change but the allowed ones and its answer is as promised. -/
def Meets (Inv : State → Prop) (allowed : Write → Prop) (promised : Answer → Prop) :
    Routine State Write Reply Answer → Prop
  | .done answer => promised answer
  | .read next => ∀ s, Inv s → (next s).Meets Inv allowed promised
  | .write change next => allowed change ∧ ∀ reply, (next reply).Meets Inv allowed promised

section Meets
variable {Inv : State → Prop} {allowed : Write → Prop} {promised : Answer → Prop} {kept : Other → Prop}

theorem Meets.bind {f : Answer → Routine State Write Reply Other} (first : routine.Meets Inv allowed promised)
    (rest : ∀ answer, promised answer → (f answer).Meets Inv allowed kept) :
    (routine.bind f).Meets Inv allowed kept := by
  induction routine with
  | done answer => exact rest answer first
  | read next ih => exact fun s inv => ih s (first s inv)
  | write change next ih => exact ⟨first.1, fun reply => ih reply (first.2 reply)⟩

theorem Meets.weaken {less : Answer → Prop} (meets : routine.Meets Inv allowed promised)
    (weaker : ∀ answer, promised answer → less answer) : routine.Meets Inv allowed less := by
  induction routine with
  | done answer => exact weaker answer meets
  | read next ih => exact fun s inv => ih s (meets s inv)
  | write change next ih => exact ⟨meets.1, fun reply => ih reply (meets.2 reply)⟩

theorem Meets.allowing {more : Write → Prop} (meets : routine.Meets Inv allowed promised)
    (wider : ∀ change, allowed change → more change) : routine.Meets Inv more promised := by
  induction routine with
  | done answer => exact meets
  | read next ih => exact fun s inv => ih s (meets s inv)
  | write change next ih => exact ⟨wider change meets.1, fun reply => ih reply (meets.2 reply)⟩

theorem Meets.allowed_of_act (meets : routine.Meets Inv allowed promised) (inv : Inv s) {change : Write}
    (acts : routine.act s = .inr change) : allowed change := by
  induction routine with
  | done answer => cases acts
  | read next ih => exact ih s (meets s inv) acts
  | write first next _ =>
    obtain rfl := Sum.inr.inj acts
    exact meets.1

theorem Meets.allowed_of_soloWrites (meets : routine.Meets (fun _ => True) allowed promised) {landed : State × Write}
    (member : landed ∈ routine.soloWrites perform s) : allowed landed.2 := by
  induction routine generalizing s with
  | done answer => cases member
  | read next ih => exact ih s (meets s trivial) member
  | write change next ih =>
    rcases List.mem_cons.mp member with rfl | later
    · exact meets.1
    · exact ih _ (meets.2 _) later

theorem Meets.of_forall (any : ∀ change, allowed change) (always : ∀ answer, promised answer)
    (routine : Routine State Write Reply Answer) : routine.Meets Inv allowed promised := by
  induction routine with
  | done answer => exact always answer
  | read next ih => exact fun s _ => ih s
  | write change next ih => exact ⟨any change, ih⟩

/-- A routine of one part makes the changes of that part only. -/
theorem meets_lift {Part Change : Type} (get : State → Part) (wrap : Change → Write)
    (routine : Routine Part Change Reply Answer) :
    (routine.lift get wrap).Meets (fun _ => True) (fun change => ∃ part, change = wrap part) fun _ => True := by
  induction routine with
  | done answer => trivial
  | read next ih => exact fun s _ => ih (get s)
  | write change next ih => exact ⟨⟨change, rfl⟩, ih⟩

/-- Allowed changes keep the invariant, so a routine that meets its promise keeps it to its end. -/
theorem Meets.solo (keeps : ∀ s change, Inv s → allowed change → Inv (perform s change).1)
    (meets : routine.Meets Inv allowed promised) (inv : Inv s) :
    Inv (routine.solo perform s).1 ∧ promised (routine.solo perform s).2 := by
  induction routine generalizing s with
  | done answer => exact ⟨inv, meets⟩
  | read next ih => exact ih s (meets s inv) inv
  | write change next ih => exact ih _ (meets.2 _) (keeps s change inv meets.1)

end Meets

/-- What a routine keeps to, taken up in some state, while the others only move the state along
`rely`: each of its changes is proper for the state it lands on. -/
def Relies (perform : State → Write → State × Reply) (rely : State → State → Prop) (proper : State → Write → Prop)
    (s : State) : Routine State Write Reply Answer → Prop
  | .done _ => True
  | .read next => ∀ t, rely s t → (next t).Relies perform rely proper t
  | .write change next =>
    ∀ t, rely s t → proper t change ∧ (next (perform t change).2).Relies perform rely proper (perform t change).1

section Relies
variable {perform : State → Write → State × Reply} {rely : State → State → Prop} {proper : State → Write → Prop}

theorem Relies.later (trans : ∀ a b c, rely a b → rely b c → rely a c) {t : State}
    (relies : routine.Relies perform rely proper s) (moved : rely s t) : routine.Relies perform rely proper t := by
  cases routine with
  | done answer => trivial
  | read next => exact fun u later => relies u (trans s t u moved later)
  | write change next => exact fun u later => relies u (trans s t u moved later)

/-- Changes that are proper wherever they land need nothing of the others. -/
theorem WritesOnce.relies_write {change : Write} {next : Reply → Routine State Write Reply Answer}
    (once : (write change next).WritesOnce) (ok : ∀ t, rely s t → proper t change) :
    (write change next).Relies perform rely proper s := by
  intro t moved
  obtain ⟨answer, same⟩ := once (perform t change).2
  rw [same]
  exact ⟨ok t moved, trivial⟩

theorem Meets.relies {allowed : Write → Prop} {promised : Answer → Prop}
    (proper_of_allowed : ∀ s change, allowed change → proper s change)
    (meets : routine.Meets (fun _ => True) allowed promised) (s : State) : routine.Relies perform rely proper s := by
  induction routine generalizing s with
  | done answer => trivial
  | read next ih => exact fun t _ => ih t (meets t trivial) t
  | write change next ih => exact fun t _ => ⟨proper_of_allowed t change meets.1, ih _ (meets.2 _) _⟩

theorem Relies.bind {f : Answer → Routine State Write Reply Other} (first : routine.Relies perform rely proper s)
    (rest : ∀ answer t, (f answer).Relies perform rely proper t) : (routine.bind f).Relies perform rely proper s := by
  induction routine generalizing s with
  | done answer => exact rest answer s
  | read next ih => exact fun t moved => ih t (first t moved)
  | write change next ih => exact fun t moved => ⟨(first t moved).1, ih _ (first t moved).2⟩

/-- The same where the second needs what is known at the start of the first and lasts. -/
theorem Relies.bind_knowing {known : State → Prop} (lasts : ∀ s t, rely s t → known s → known t)
    (kept : ∀ s change, known s → known (perform s change).1) {f : Answer → Routine State Write Reply Other}
    (first : routine.Relies perform rely proper s) (here : known s)
    (rest : ∀ answer t, known t → (f answer).Relies perform rely proper t) :
    (routine.bind f).Relies perform rely proper s := by
  induction routine generalizing s with
  | done answer => exact rest answer s here
  | read next ih => exact fun t moved => ih t (first t moved) (lasts s t moved here)
  | write change next ih =>
    intro t moved
    have there : known t := lasts s t moved here
    exact ⟨(first t moved).1, ih _ (first t moved).2 (kept t change there)⟩

/-- What is known at the start and lasts may be used of every change. -/
theorem Relies.knowing {known : State → Prop} {other : State → Write → Prop}
    (lasts : ∀ s t, rely s t → known s → known t) (kept : ∀ s change, known s → known (perform s change).1)
    (wider : ∀ t change, known t → proper t change → other t change) (relies : routine.Relies perform rely proper s)
    (here : known s) : routine.Relies perform rely other s := by
  induction routine generalizing s with
  | done answer => trivial
  | read next ih => exact fun t moved => ih t (relies t moved) (lasts s t moved here)
  | write change next ih =>
    intro t moved
    have there : known t := lasts s t moved here
    exact ⟨wider t change there (relies t moved).1, ih _ (relies t moved).2 (kept t change there)⟩

theorem Relies.proper_of_soloWrites (refl : ∀ s, rely s s) (relies : routine.Relies perform rely proper s)
    {landed : State × Write} (member : landed ∈ routine.soloWrites perform s) : proper landed.1 landed.2 := by
  induction routine generalizing s with
  | done answer => cases member
  | read next ih => exact ih s (relies s (refl s)) member
  | write change next ih =>
    have here := relies s (refl s)
    rcases List.mem_cons.mp member with rfl | later
    · exact here.1
    · exact ih _ here.2 later

end Relies

/-- The next change the routine makes is a due one. -/
def Owes (due : Write → Prop) : Routine State Write Reply Answer → Prop
  | .done _ => False
  | .read next => ∀ s, (next s).Owes due
  | .write change _ => due change

/-- What a change of the routine incurs is due with its next one. -/
def Repays {Debt : Type} (incurs : Write → Reply → Debt → Prop) (due : Debt → Write → Prop) :
    Routine State Write Reply Answer → Prop
  | .done _ => True
  | .read next => ∀ s, (next s).Repays incurs due
  | .write change next =>
    ∀ reply, (next reply).Repays incurs due ∧ ∀ debt, incurs change reply debt → (next reply).Owes (due debt)

section Repays
variable {Debt : Type} {incurs : Write → Reply → Debt → Prop} {due : Debt → Write → Prop}

theorem Owes.bind {due : Write → Prop} (owes : routine.Owes due) (f : Answer → Routine State Write Reply Other) :
    (routine.bind f).Owes due := by
  induction routine with
  | done answer => cases owes
  | read next ih => exact fun s => ih s (owes s)
  | write change next _ => exact owes

theorem Repays.bind {f : Answer → Routine State Write Reply Other} (first : routine.Repays incurs due)
    (rest : ∀ answer, (f answer).Repays incurs due) : (routine.bind f).Repays incurs due := by
  induction routine with
  | done answer => exact rest answer
  | read next ih => exact fun s => ih s (first s)
  | write change next ih =>
    intro reply
    obtain ⟨later, owes⟩ := first reply
    exact ⟨ih reply later, fun debt incurred => (owes debt incurred).bind f⟩

end Repays

/-- The change that is a routine's next step. -/
def pending : Routine State Write Reply Answer → Option Write
  | .write change _ => some change
  | _ => none

/-- The answer of a routine that has come to it. -/
def answered : Routine State Write Reply Answer → Option Answer
  | .done answer => some answer
  | _ => none

theorem eq_done_of_answered {answer : Answer} (given : routine.answered = some answer) : routine = .done answer := by
  cases routine with
  | done other => rw [Option.some.inj given]
  | read next => cases given
  | write change next => cases given

/-- What holds when a routine comes to its answer, told by the changes it has made. -/
def Ends (promised : List Write → Answer → Prop) (made : List Write) : Routine State Write Reply Answer → Prop
  | .done answer => promised made answer
  | .read next => ∀ s, (next s).Ends promised made
  | .write change next => ∀ reply, (next reply).Ends promised (made ++ [change])

theorem Ends.of_forall {promised : List Write → Answer → Prop} (always : ∀ made answer, promised made answer)
    (routine : Routine State Write Reply Answer) (made : List Write) : routine.Ends promised made := by
  induction routine generalizing made with
  | done answer => exact always made answer
  | read next ih => exact fun s => ih s made
  | write change next ih => exact fun reply => ih reply (made ++ [change])

theorem Ends.weaken {promised less : List Write → Answer → Prop} {made : List Write}
    (ends : routine.Ends promised made) (weaker : ∀ made answer, promised made answer → less made answer) :
    routine.Ends less made := by
  induction routine generalizing made with
  | done answer => exact weaker made answer ends
  | read next ih => exact fun s => ih s (ends s)
  | write change next ih => exact fun reply => ih reply (ends reply)

theorem Ends.bind {first : List Write → Answer → Prop} {promised : List Write → Other → Prop} {made : List Write}
    {f : Answer → Routine State Write Reply Other} (ends : routine.Ends first made)
    (rest : ∀ made answer, first made answer → (f answer).Ends promised made) :
    (routine.bind f).Ends promised made := by
  induction routine generalizing made with
  | done answer => exact rest made answer ends
  | read next ih => exact fun s => ih s (ends s)
  | write change next ih => exact fun reply => ih reply (ends reply)

/-- How a routine among others comes out: the changes it made, each with the state it landed on,
the state it was at last, and its answer, or none where a step of it failed. -/
structure Outcome (State Write Answer : Type) where
  landed : List (State × Write)
  last : State
  answer : Option Answer

/-- Whatever state each step finds, and wherever one fails, the routine comes out as promised. -/
def Along (perform : State → Write → State × Reply) (promised : Outcome State Write Answer → Prop)
    (landed : List (State × Write)) (last : State) : Routine State Write Reply Answer → Prop
  | .done answer => promised ⟨landed, last, some answer⟩
  | .read next => ∀ s, promised ⟨landed, s, none⟩ ∧ (next s).Along perform promised landed s
  | .write change next => ∀ s, promised ⟨landed, s, none⟩ ∧
      (next (perform s change).2).Along perform promised (landed ++ [(s, change)]) (perform s change).1

section Along
variable {perform : State → Write → State × Reply} {promised : Outcome State Write Answer → Prop}
  {landed : List (State × Write)} {last : State} {routine : Routine State Write Reply Answer}

theorem Along.of_forall (always : ∀ out, promised out) (routine : Routine State Write Reply Answer)
    (landed : List (State × Write)) (last : State) : routine.Along perform promised landed last := by
  induction routine generalizing landed last with
  | done answer => exact always _
  | read next ih => exact fun s => ⟨always _, ih s landed s⟩
  | write change next ih => exact fun s => ⟨always _, ih _ _ _⟩

theorem Along.weaken {less : Outcome State Write Answer → Prop} (along : routine.Along perform promised landed last)
    (weaker : ∀ out, promised out → less out) : routine.Along perform less landed last := by
  induction routine generalizing landed last with
  | done answer => exact weaker _ along
  | read next ih => exact fun s => ⟨weaker _ (along s).1, ih s (along s).2⟩
  | write change next ih => exact fun s => ⟨weaker _ (along s).1, ih _ (along s).2⟩

/-- The second goes on from where the first has come out. -/
theorem Along.bind {f : Answer → Routine State Write Reply Other} {kept : Outcome State Write Other → Prop}
    (first : routine.Along perform promised landed last)
    (failed : ∀ landed last, promised ⟨landed, last, none⟩ → kept ⟨landed, last, none⟩)
    (rest : ∀ landed last answer, promised ⟨landed, last, some answer⟩ → (f answer).Along perform kept landed last) :
    (routine.bind f).Along perform kept landed last := by
  induction routine generalizing landed last with
  | done answer => exact rest landed last answer first
  | read next ih => exact fun s => ⟨failed _ _ (first s).1, ih s (first s).2⟩
  | write change next ih => exact fun s => ⟨failed _ _ (first s).1, ih _ (first s).2⟩

/-- With nobody in between and nothing failing it comes out in one of those ways. -/
theorem Along.solo (along : routine.Along perform promised landed last) :
    promised ⟨landed ++ routine.soloWrites perform last, (routine.solo perform last).1,
      some (routine.solo perform last).2⟩ := by
  induction routine generalizing landed last with
  | done answer =>
    rw [soloWrites, List.append_nil]
    exact along
  | read next ih => exact ih last (along last).2
  | write change next ih =>
    have rest := ih _ (along last).2
    rw [List.append_assoc] at rest
    exact rest

theorem Ends.along {promised : List Write → Answer → Prop} {made : List Write} (ends : routine.Ends promised made)
    (same : landed.map (·.2) = made) (last : State) :
    routine.Along perform (fun out => ∀ answer, out.answer = some answer →
      promised (out.landed.map (·.2)) answer) landed last := by
  induction routine generalizing landed made last with
  | done answer =>
    intro other given
    obtain rfl := Option.some.inj given
    exact same ▸ ends
  | read next ih => exact fun s => ⟨fun answer none_ => (nomatch none_), ih s (ends s) same s⟩
  | write change next ih =>
    refine fun s => ⟨fun answer none_ => (nomatch none_), ih _ (ends _) ?_ _⟩
    rw [List.map_append, same]
    rfl

/-- A routine that keeps to allowed changes has made no others, however far it has come. -/
theorem Meets.along {allowed : Write → Prop} {kept : Answer → Prop}
    (meets : routine.Meets (fun _ => True) allowed kept) (before : ∀ change ∈ landed, allowed change.2)
    (last : State) :
    routine.Along perform (fun out => ∀ change ∈ out.landed, allowed change.2) landed last := by
  induction routine generalizing landed last with
  | done answer => exact before
  | read next ih => exact fun s => ⟨before, ih s (meets s trivial) before s⟩
  | write change next ih =>
    refine fun s => ⟨before, ih _ (meets.2 _) (fun made there => ?_) _⟩
    rcases List.mem_append.mp there with old | new
    · exact before made old
    · obtain rfl := List.mem_singleton.mp new
      exact meets.1

/-- Wherever it is, a routine that came out as promised would have come out so here. -/
theorem Along.here (along : routine.Along perform promised landed last) :
    ∃ last, promised ⟨landed, last, routine.answered⟩ := by
  cases routine with
  | done answer => exact ⟨last, along⟩
  | read next => exact ⟨last, (along last).1⟩
  | write change next => exact ⟨last, (along last).1⟩

end Along

end Routine

/-- How changes act on the shared state, and the routine that serves each request. -/
structure Service (State Write Reply Answer Request : Type) where
  perform : State → Write → State × Reply
  serve : Request → Routine State Write Reply Answer

/-- The scheduler: a request comes in, or one of the running routines takes its next step. -/
inductive Service.Event (Request : Type)
  | arrive (request : Request)
  | step (index : Nat)

namespace Service
variable {State Write Reply Answer Request : Type}

/-- A request being served, and whether no change was made since it came in. -/
structure Running (State Write Reply Answer Request : Type) where
  request : Request
  routine : Routine State Write Reply Answer
  undisturbed : Bool

structure Pool (State Write Reply Answer Request : Type) where
  state : State
  running : List (Running State Write Reply Answer Request)

/-- A change made by a step, the request it serves, and whether it is the first since that came in. -/
structure Performed (Write Request : Type) where
  change : Write
  request : Request
  undisturbed : Bool

variable (service : Service State Write Reply Answer Request)

def stepRunning (pool : Pool State Write Reply Answer Request) (index : Nat)
    (now : Running State Write Reply Answer Request) :
    Pool State Write Reply Answer Request × Option (Performed Write Request) :=
  match now.routine with
  | .done _ => (pool, none)
  | .read next => ({ pool with running := pool.running.set index { now with routine := next pool.state } }, none)
  | .write change next =>
    let made := service.perform pool.state change
    ({ state := made.1
       running := (pool.running.set index { now with routine := next made.2 }).map
         fun other => { other with undisturbed := false } },
      some ⟨change, now.request, now.undisturbed⟩)

def step (pool : Pool State Write Reply Answer Request) :
    Event Request → Pool State Write Reply Answer Request × Option (Performed Write Request)
  | .arrive request => ({ pool with running := pool.running ++ [⟨request, service.serve request, true⟩] }, none)
  | .step index =>
    match pool.running[index]? with
    | none => (pool, none)
    | some now => service.stepRunning pool index now

def machine (start : State) : Machine (Pool State Write Reply Answer Request) (Event Request)
    (Option (Performed Write Request)) where
  start := ⟨start, []⟩
  step := service.step

variable {pool : Pool State Write Reply Answer Request} {index : Nat} {request : Request}
  {routine : Routine State Write Reply Answer}

/-- A step changes the state by the change it makes, or not at all. -/
theorem step_state (pool : Pool State Write Reply Answer Request) (event : Event Request) :
    let after := service.step pool event
    (after.2 = none ∧ after.1.state = pool.state) ∨
      ∃ performed, after.2 = some performed ∧ after.1.state = (service.perform pool.state performed.change).1 := by
  cases event with
  | arrive request => exact .inl ⟨rfl, rfl⟩
  | step index =>
    rcases found : pool.running[index]? with _ | now
    · simp only [Service.step, found, true_and, true_or]
    · simp only [Service.step, found, stepRunning]
      cases now.routine with
      | done answer => exact .inl ⟨rfl, rfl⟩
      | read next => exact .inl ⟨rfl, rfl⟩
      | write change next => exact .inr ⟨_, rfl, rfl⟩

/-- What is being served and how far it has come. -/
def Pool.tasks (pool : Pool State Write Reply Answer Request) : List (Request × Routine State Write Reply Answer) :=
  pool.running.map fun now => (now.request, now.routine)

/-- The requests that were answered, and the others, by their place. -/
def Pool.answers (pool : Pool State Write Reply Answer Request) : List (Request × Option Answer) :=
  pool.tasks.map fun task => (task.1, task.2.answered)

theorem task_of_answers {answer : Answer} (given : pool.answers[index]? = some (request, some answer)) :
    pool.tasks[index]? = some (request, .done answer) := by
  unfold Pool.answers at given
  rw [List.getElem?_map] at given
  obtain ⟨⟨asked, routine⟩, found, same⟩ := Option.map_eq_some_iff.mp given
  obtain ⟨rfl, answered⟩ := Prod.mk.inj same
  have done_ : routine = .done answer := Routine.eq_done_of_answered answered
  rw [found, done_]

theorem tasks_arrive (pool : Pool State Write Reply Answer Request) (request : Request) :
    (service.step pool (.arrive request)).1.tasks = pool.tasks ++ [(request, service.serve request)] := by
  simp [Service.step, Pool.tasks]

/-- A step of a routine moves that routine, and no other. -/
theorem tasks_step (found : pool.tasks[index]? = some (request, routine)) :
    let after := service.step pool (.step index)
    after.1.state = (routine.advance service.perform pool.state).1 ∧
      after.1.tasks = pool.tasks.set index (request, (routine.advance service.perform pool.state).2) := by
  unfold Pool.tasks at found
  rw [List.getElem?_map] at found
  obtain ⟨now, running, same⟩ := Option.map_eq_some_iff.mp found
  obtain ⟨rfl, rfl⟩ := Prod.mk.inj same
  simp only [Service.step, running, stepRunning, Pool.tasks]
  cases shape : now.routine with
  | done answer =>
    have unmoved : pool.running.set index now = pool.running := by
      obtain ⟨bound, here⟩ := List.getElem?_eq_some_iff.mp running
      rw [← here, List.set_getElem_self]
    have mapped := congrArg (List.map fun now => (now.request, now.routine)) unmoved
    rw [List.map_set, shape] at mapped
    exact ⟨rfl, mapped.symm⟩
  | read next =>
    refine ⟨rfl, ?_⟩
    rw [List.map_set]
    rfl
  | write change next =>
    refine ⟨rfl, ?_⟩
    rw [List.map_map, List.map_set]
    rfl

theorem step_of_none (none_ : pool.tasks[index]? = none) : service.step pool (.step index) = (pool, none) := by
  unfold Pool.tasks at none_
  rw [List.getElem?_map, Option.map_eq_none_iff] at none_
  simp only [Service.step, none_]

/-- The routine that moves, and the others around it. -/
theorem tasks_step_around (found : pool.tasks[index]? = some (request, routine)) :
    ∃ front back, pool.tasks = front ++ (request, routine) :: back ∧
      (service.step pool (.step index)).1.tasks = front ++
        (request, (routine.advance service.perform pool.state).2) :: back := by
  obtain ⟨bound, here⟩ := List.getElem?_eq_some_iff.mp found
  obtain ⟨front, back, split, -, set⟩ :=
    @List.exists_of_set _ _ (request, (routine.advance service.perform pool.state).2) _ bound
  rw [here] at split
  exact ⟨front, back, split, (service.tasks_step found).2.trans set⟩

theorem filterMap_around {Task Held : Type} (heldBy : Task → Option Held) (front back : List Task) (task : Task) :
    (front ++ task :: back).filterMap heldBy = front.filterMap heldBy ++ (heldBy task).toList ++
      back.filterMap heldBy := by
  rw [List.filterMap_append, List.filterMap_cons, List.append_assoc]
  cases heldBy task with
  | none => rfl
  | some held => rfl

/-- What all tasks are, and one that comes in is, they all are still. -/
theorem all_tasks_arrive {holds : Request × Routine State Write Reply Answer → Prop}
    (all : ∀ task ∈ pool.tasks, holds task) (fresh : holds (request, service.serve request)) :
    ∀ task ∈ (service.step pool (.arrive request)).1.tasks,
    holds task := by
  intro task member
  rw [service.tasks_arrive] at member
  rcases List.mem_append.mp member with old | new
  · exact all task old
  · rw [List.mem_singleton.mp new]
    exact fresh

theorem all_tasks_step (found : pool.tasks[index]? = some (request, routine))
    {holds : Request × Routine State Write Reply Answer → Prop} (all : ∀ task ∈ pool.tasks, holds task)
    (moved : holds (request, (routine.advance service.perform pool.state).2)) :
    ∀ task ∈ (service.step pool (.step index)).1.tasks, holds task := by
  intro task member
  rw [(service.tasks_step found).2] at member
  rcases List.mem_or_eq_of_mem_set member with old | rfl
  · exact all task old
  · exact moved

variable {service}

/-- What is so of every routine under way, and of one that comes in, is so after a step, if the routine that steps
keeps it, and the others do where a change lands. -/
theorem running_step (holds : State → Running State Write Reply Answer Request → Prop)
    (all : ∀ now ∈ pool.running, holds pool.state now) (event : Event Request)
    (arrives : ∀ request, event = .arrive request → holds pool.state ⟨request, service.serve request, true⟩)
    (reads : ∀ now ∈ pool.running, ∀ next, now.routine = .read next →
      holds pool.state { now with routine := next pool.state })
    (writes : ∀ now ∈ pool.running, ∀ change next, now.routine = .write change next →
      holds (service.perform pool.state change).1
          { now with routine := next (service.perform pool.state change).2, undisturbed := false } ∧
        ∀ other ∈ pool.running, holds (service.perform pool.state change).1 { other with undisturbed := false }) :
    ∀ now ∈ (service.step pool event).1.running, holds (service.step pool event).1.state now := by
  cases event with
  | arrive request =>
    intro now member
    rcases List.mem_append.mp member with old | new
    · exact all now old
    · rw [List.mem_singleton.mp new]
      exact arrives request rfl
  | step index =>
    rcases found : pool.running[index]? with _ | now
    · simp only [Service.step, found]
      exact all
    · have running := List.mem_of_getElem? found
      simp only [Service.step, found, stepRunning]
      cases shape : now.routine with
      | done answer => exact all
      | read next =>
        intro other member
        rcases List.mem_or_eq_of_mem_set member with old | rfl
        · exact all other old
        · exact reads now running next shape
      | write change next =>
        obtain ⟨own, others⟩ := writes now running change next shape
        intro other member
        obtain ⟨source, stays, rfl⟩ := List.mem_map.mp member
        rcases List.mem_or_eq_of_mem_set stays with old | rfl
        · exact others source old
        · exact own

/-- A change that a step makes is the next step of a routine under way. -/
theorem running_of_performed {event : Event Request} {performed : Performed Write Request}
    (made : (service.step pool event).2 = some performed) :
    ∃ next, ⟨performed.request, .write performed.change next, performed.undisturbed⟩ ∈ pool.running := by
  cases event with
  | arrive request => cases made
  | step index =>
    rcases found : pool.running[index]? with _ | ⟨request, routine, quiet⟩
    · simp only [Service.step, found] at made
      cases made
    · simp only [Service.step, found, stepRunning] at made
      cases routine with
      | done answer => cases made
      | read next => cases made
      | write change next =>
        obtain rfl := Option.some.inj made
        exact ⟨next, List.mem_of_getElem? found⟩

/-- A routine nobody came in between is where it would be alone. -/
def Fresh (service : Service State Write Reply Answer Request) (pool : Pool State Write Reply Answer Request) :
    Prop :=
  ∀ now ∈ pool.running, now.undisturbed = true →
    now.routine.act pool.state = (service.serve now.request).act pool.state

theorem Fresh.step (fresh : service.Fresh pool) (event : Event Request) :
    service.Fresh (service.step pool event).1 := by
  refine running_step (fun s now => now.undisturbed = true → now.routine.act s = (service.serve now.request).act s)
    fresh event (fun request _ _ => rfl) (fun now running next shape quiet => ?_)
    fun now running change next shape => ?_
  · have before := fresh now running quiet
    rw [shape] at before
    exact before
  · -- every routine in the pool has now been disturbed
    exact ⟨(nomatch ·), fun other there quiet => nomatch quiet⟩

variable (service) in
theorem fresh_run (start : State) (past : List (Event Request)) :
    service.Fresh ((service.machine start).run past) := by
  refine Machine.run_invariant _ (fun _ pool => service.Fresh pool) ?_ ?_ past
  · intro now member
    cases member
  · exact fun past event fresh => fresh.step event

/-- The change of a step that nothing disturbed is the one its request makes when served alone. -/
theorem act_of_performed (fresh : service.Fresh pool) {event : Event Request} {performed : Performed Write Request}
    (made : (service.step pool event).2 = some performed) (quiet : performed.undisturbed = true) :
    (service.serve performed.request).act pool.state = .inr performed.change := by
  obtain ⟨next, running⟩ := running_of_performed made
  exact (fresh _ running quiet).symm

/-- Every routine under way makes no change but those its request allows. -/
def Confined (allowed : Request → Write → Prop) (pool : Pool State Write Reply Answer Request) : Prop :=
  ∀ now ∈ pool.running, now.routine.Meets (fun _ => True) (allowed now.request) fun _ => True

section Confined
variable {allowed : Request → Write → Prop}

theorem Confined.step (confined : Confined allowed pool)
    (meets : ∀ request, (service.serve request).Meets (fun _ => True) (allowed request) fun _ => True)
    (event : Event Request) : Confined allowed (service.step pool event).1 := by
  refine running_step (fun _ now => now.routine.Meets (fun _ => True) (allowed now.request) fun _ => True)
    confined event (fun request _ => meets request) (fun now running next shape => ?_)
      fun now running change next shape => ?_
  · have here := confined now running
    rw [shape] at here
    exact here pool.state trivial
  · have here := confined now running
    rw [shape] at here
    exact ⟨here.2 _, confined⟩

theorem Confined.allowed_of_performed (confined : Confined allowed pool) {event : Event Request}
    {performed : Performed Write Request} (made : (service.step pool event).2 = some performed) :
    allowed performed.request performed.change := by
  obtain ⟨next, running⟩ := running_of_performed made
  exact (confined _ running).1

variable (service) in
/-- Whatever else runs, a change is one that its request allows. -/
theorem confined_run (meets : ∀ request,
    (service.serve request).Meets (fun _ => True) (allowed request) fun _ => True)
    (start : State) (past : List (Event Request)) : Confined allowed ((service.machine start).run past) := by
  refine Machine.run_invariant _ (fun _ pool => Confined allowed pool) ?_ ?_ past
  · intro now member
    cases member
  · exact fun past event confined => confined.step meets event

end Confined

/-- Every routine under way makes proper changes, as long as the others move the state along `rely`. -/
def Guarded (service : Service State Write Reply Answer Request) (rely : State → State → Prop)
    (proper : State → Write → Prop) (pool : Pool State Write Reply Answer Request) : Prop :=
  ∀ now ∈ pool.running, now.routine.Relies service.perform rely proper pool.state

section Guarded
variable {rely : State → State → Prop} {proper : State → Write → Prop}

theorem Guarded.step (refl : ∀ s, rely s s) (trans : ∀ a b c, rely a b → rely b c → rely a c)
    (guarantee : ∀ s change, proper s change → rely s (service.perform s change).1)
    (serves : ∀ request s, (service.serve request).Relies service.perform rely proper s)
    (guarded : service.Guarded rely proper pool) (event : Event Request) :
    service.Guarded rely proper (service.step pool event).1 := by
  refine running_step (fun s now => now.routine.Relies service.perform rely proper s) guarded event
    (fun request _ => serves request _) (fun now running next shape => ?_) fun now running change next shape => ?_
  · have here := guarded now running
    rw [shape] at here
    exact here pool.state (refl _)
  · have here := guarded now running
    rw [shape] at here
    have made := here pool.state (refl _)
    have moved : rely pool.state (service.perform pool.state change).1 := guarantee _ _ made.1
    exact ⟨made.2, fun other there => (guarded other there).later trans moved⟩

theorem Guarded.proper_of_performed (refl : ∀ s, rely s s) (guarded : service.Guarded rely proper pool)
    {event : Event Request} {performed : Performed Write Request}
    (made : (service.step pool event).2 = some performed) : proper pool.state performed.change := by
  obtain ⟨next, running⟩ := running_of_performed made
  exact (guarded _ running pool.state (refl _)).1

variable (service) in
/-- Rely and guarantee: when every request makes proper changes as long as the others move the
state along `rely`, and proper changes move it so, every change of every schedule is proper. -/
theorem guarded_run (refl : ∀ s, rely s s) (trans : ∀ a b c, rely a b → rely b c → rely a c)
    (guarantee : ∀ s change, proper s change → rely s (service.perform s change).1)
    (serves : ∀ request s, (service.serve request).Relies service.perform rely proper s)
    (start : State) (past : List (Event Request)) :
    service.Guarded rely proper ((service.machine start).run past) := by
  refine Machine.run_invariant _ (fun _ pool => service.Guarded rely proper pool) ?_ ?_ past
  · intro now member
    cases member
  · exact fun past event guarded => guarded.step refl trans guarantee serves event

end Guarded

/-- The state is in the invariant, and every routine under way relies on no more than that. -/
structure Relying (Inv : State → Prop) (allowed : Write → Prop)
    (pool : Pool State Write Reply Answer Request) : Prop where
  holds : Inv pool.state
  meets : ∀ now ∈ pool.running, now.routine.Meets Inv allowed fun _ => True

section Relying
variable {Inv : State → Prop} {allowed : Write → Prop}

theorem Relying.step (keeps : ∀ s change, Inv s → allowed change → Inv (service.perform s change).1)
    (relying : Relying Inv allowed pool) (event : Event Request)
    (asked : ∀ request, event = .arrive request → (service.serve request).Meets Inv allowed fun _ => True) :
    Relying Inv allowed (service.step pool event).1 := by
  have moves : ∀ now ∈ pool.running, ∀ change next, now.routine = .write change next →
      allowed change ∧ ∀ reply, (next reply).Meets Inv allowed fun _ => True := by
    intro now running change next shape
    have here := relying.meets now running
    rw [shape] at here
    exact here
  refine ⟨?_, running_step (fun _ now => now.routine.Meets Inv allowed fun _ => True) relying.meets event asked
    (fun now running next shape => ?_)
    fun now running change next shape => ⟨(moves now running change next shape).2 _, relying.meets⟩⟩
  · rcases service.step_state pool event with ⟨-, same⟩ | ⟨performed, made, after⟩
    · exact same ▸ relying.holds
    · obtain ⟨next, running⟩ := running_of_performed made
      rw [after]
      exact keeps _ _ relying.holds (moves _ running _ _ rfl).1
  · have here := relying.meets now running
    rw [shape] at here
    exact here pool.state relying.holds

variable (service) in
/-- Whoever runs in between: when every routine relies on the invariant and makes allowed
changes only, and those keep it, it holds after every schedule. -/
theorem always_of_meets (keeps : ∀ s change, Inv s → allowed change → Inv (service.perform s change).1)
    {start : State} (inv : Inv start) {schedule : List (Event Request)}
    (meets : ∀ request, .arrive request ∈ schedule → (service.serve request).Meets Inv allowed fun _ => True) :
    Inv ((service.machine start).run schedule).state := by
  have kept := fun pool event asked (relying : Relying Inv allowed pool) =>
    relying.step keeps event asked
  have atStart : Relying Inv allowed (service.machine start).start := ⟨inv, fun now member => by cases member⟩
  have all := Machine.runFrom_invariant (service.machine start) (Relying Inv allowed)
    (fun event => ∀ request, event = .arrive request → (service.serve request).Meets Inv allowed fun _ => True)
    kept atStart (fun event member request same => meets request (same ▸ member))
  exact all.holds

end Relying

section Log
variable (service : Service State Write Reply Answer Request)

/-- The change a step makes, with the place of the request it serves and the state it lands on. -/
def landing (pool : Pool State Write Reply Answer Request) (event : Event Request) : List (Nat × State × Write) :=
  match event with
  | .arrive _ => []
  | .step index => ((service.step pool event).2.map fun performed => (index, pool.state, performed.change)).toList

/-- The same, less the state. -/
def watch (pool : Pool State Write Reply Answer Request) (event : Event Request) : List (Nat × Write) :=
  match event with
  | .arrive _ => []
  | .step index => ((service.step pool event).2.map fun performed => (index, performed.change)).toList

/-- What a log has under one place. -/
def byIndex {Entry : Type} (index : Nat) (log : List (Nat × Entry)) : List Entry :=
  log.filterMap fun entry => if entry.1 = index then some entry.2 else none

section
variable {Entry : Type} {index : Nat}

theorem byIndex_append (front back : List (Nat × Entry)) :
    byIndex index (front ++ back) = byIndex index front ++ byIndex index back := List.filterMap_append ..

theorem mem_of_byIndex {log : List (Nat × Entry)} {value : Entry} (member : value ∈ byIndex index log) :
    (index, value) ∈ log := by
  obtain ⟨⟨other, value'⟩, listed, same⟩ := List.mem_filterMap.mp member
  dsimp only at same
  split at same
  · rename_i here
    obtain rfl := Option.some.inj same
    exact here ▸ listed
  · cases same

theorem byIndex_map {Other : Type} (f : Entry → Other) (log : List (Nat × Entry)) :
    byIndex index (log.map fun entry => (entry.1, f entry.2)) = (byIndex index log).map f := by
  rw [byIndex, byIndex, List.filterMap_map, List.map_filterMap]
  refine congrArg (fun pick => log.filterMap pick) (funext fun entry => ?_)
  rw [Function.comp_apply]
  split
  · rfl
  · rfl

/-- A log holds, up to its order, what it holds under its places. -/
theorem perm_byIndex {log : List (Nat × Entry)} {places : Nat} (within : ∀ entry ∈ log, entry.1 < places) :
    ((List.range places).flatMap fun index => byIndex index log).Perm (log.map (·.2)) := by
  induction log with
  | nil =>
    have none_ : ((List.range places).flatMap fun index => byIndex index ([] : List (Nat × Entry))) = [] :=
      List.flatMap_eq_nil_iff.mpr fun index _ => rfl
    rw [none_]
    exact List.Perm.refl _
  | cons entry rest ih =>
    have here : ∀ index, byIndex index (entry :: rest) =
        (if entry.1 = index then [entry.2] else []) ++ byIndex index rest := by
      intro index
      rw [byIndex, List.filterMap_cons]
      split <;> simp_all [byIndex]
    have one : ((List.range places).flatMap fun index => if entry.1 = index then [entry.2] else []) = [entry.2] := by
      have inside := within entry (List.mem_cons_self ..)
      clear within ih here
      induction places with
      | zero => omega
      | succ places ih =>
        rw [List.range_succ, List.flatMap_append]
        by_cases last : entry.1 = places
        · have before : ((List.range places).flatMap fun index => if entry.1 = index then [entry.2] else []) =
              [] := by
            refine List.flatMap_eq_nil_iff.mpr fun index there => if_neg ?_
            have less := List.mem_range.mp there
            omega
          rw [before]
          simp [last]
        · rw [ih (by omega)]
          simp [last]
    simp only [here]
    refine (List.flatMap_append_perm _ _ _).symm.trans ?_
    rw [one, List.map_cons]
    exact (ih fun other there => within other (List.mem_cons_of_mem _ there)).cons _

end

theorem watch_eq : service.watch = fun pool event => (service.landing pool event).map fun entry =>
    (entry.1, entry.2.2) := by
  funext pool event
  cases event with
  | arrive request => rfl
  | step index =>
    simp only [watch, landing]
    rcases (service.step pool (.step index)).2 with _ | performed
    · rfl
    · rfl

/-- A step of a routine logs its change, if that is what it comes to. -/
theorem landing_step (found : pool.tasks[index]? = some (request, routine)) :
    service.landing pool (.step index) = (routine.pending.map fun change => (index, pool.state, change)).toList := by
  unfold Pool.tasks at found
  rw [List.getElem?_map] at found
  obtain ⟨now, running, same⟩ := Option.map_eq_some_iff.mp found
  obtain ⟨-, rfl⟩ := Prod.mk.inj same
  simp only [landing, Service.step, running, stepRunning]
  cases shape : now.routine with
  | done answer => rfl
  | read next => rfl
  | write change next => rfl

/-- What a step performs is the change its routine comes to, for its request. -/
theorem performed_of_step (found : pool.tasks[index]? = some (request, routine)) {performed : Performed Write Request}
    (made : (service.step pool (.step index)).2 = some performed) :
    routine.pending = some performed.change ∧ performed.request = request := by
  unfold Pool.tasks at found
  rw [List.getElem?_map] at found
  obtain ⟨now, running, same⟩ := Option.map_eq_some_iff.mp found
  obtain ⟨rfl, rfl⟩ := Prod.mk.inj same
  simp only [Service.step, running, stepRunning] at made
  cases shape : now.routine with
  | done answer =>
    rw [shape] at made
    cases made
  | read next =>
    rw [shape] at made
    cases made
  | write change next =>
    rw [shape] at made
    obtain rfl := Option.some.inj made
    exact ⟨rfl, rfl⟩

/-- What a step logs of the routine that takes it, under its place. -/
def logged {Entry : Type} (own : State → Routine State Write Reply Answer → List Entry)
    (pool : Pool State Write Reply Answer Request) : Event Request → List (Nat × Entry)
  | .arrive _ => []
  | .step index =>
    match pool.tasks[index]? with
    | none => []
    | some task => (own pool.state task.2).map (index, ·)

theorem landing_eq : service.landing = logged fun s routine => (routine.pending.map (s, ·)).toList := by
  funext pool event
  cases event with
  | arrive request => rfl
  | step index =>
    rcases found : pool.tasks[index]? with _ | ⟨request, routine⟩
    · simp only [logged, found, landing, service.step_of_none found, Option.map_none, Option.toList_none]
    · rw [service.landing_step found]
      simp only [logged, found]
      cases routine.pending <;> rfl

/-- A step logs the change it makes, and makes no other. -/
theorem landing_cases (pool : Pool State Write Reply Answer Request) (event : Event Request) :
    (service.landing pool event = [] ∧ (service.step pool event).1.state = pool.state) ∨
      ∃ index change, service.landing pool event = [(index, pool.state, change)] ∧
        (service.step pool event).1.state = (service.perform pool.state change).1 ∧
        ∃ performed, (service.step pool event).2 = some performed ∧ performed.change = change := by
  cases event with
  | arrive request => exact .inl ⟨rfl, rfl⟩
  | step index =>
    rcases service.step_state pool (.step index) with ⟨none_, same⟩ | ⟨performed, some_, made⟩
    · refine .inl ⟨?_, same⟩
      simp only [landing, none_, Option.map_none, Option.toList_none]
    · refine .inr ⟨index, performed.change, ?_, made, performed, some_, rfl⟩
      simp only [landing, some_, Option.map_some, Option.toList_some]

variable {service}

variable {entry : Nat × State × Write}

theorem performed_of_landing {event : Event Request} (landed : entry ∈ service.landing pool event) :
    ∃ performed, (service.step pool event).2 = some performed ∧ pool.state = entry.2.1 ∧
      performed.change = entry.2.2 := by
  rcases service.landing_cases pool event with ⟨silent, -⟩ | ⟨index, change, logged, -, performed, some_, same⟩
  · rw [silent] at landed
    cases landed
  · rw [logged] at landed
    obtain rfl := List.mem_singleton.mp landed
    exact ⟨performed, some_, rfl, same⟩

theorem place_of_landing (landed : entry ∈ service.landing pool (.step index)) : entry.1 = index := by
  obtain ⟨performed, -, rfl⟩ := Option.map_eq_some_iff.mp (Option.mem_toList.mp landed)
  rfl

theorem task_of_landing {event : Event Request} (landed : entry ∈ service.landing pool event) :
    ∃ request routine, pool.tasks[entry.1]? = some (request, routine) := by
  cases event with
  | arrive request => cases landed
  | step index =>
    rcases stands : pool.tasks[index]? with _ | ⟨request, routine⟩
    · simp only [landing, service.step_of_none stands] at landed
      cases landed
    · rw [service.landing_step stands] at landed
      obtain ⟨change, -, rfl⟩ := Option.map_eq_some_iff.mp (Option.mem_toList.mp landed)
      exact ⟨request, routine, stands⟩

/-- What is so of every routine under way, told by what is logged under its place. -/
structure Carried {Entry : Type}
    (holds : Nat → Request → Routine State Write Reply Answer → List Entry → Prop) (log : List (Nat × Entry))
    (pool : Pool State Write Reply Answer Request) : Prop where
  along : ∀ (index : Nat) (request : Request) (routine : Routine State Write Reply Answer),
    pool.tasks[index]? = some (request, routine) → holds index request routine (byIndex index log)
  bound : ∀ entry ∈ log, entry.1 < pool.tasks.length

section Carried
variable {Entry : Type} {holds : Nat → Request → Routine State Write Reply Answer → List Entry → Prop}
  {own : State → Routine State Write Reply Answer → List Entry} {log : List (Nat × Entry)}
  {pool : Pool State Write Reply Answer Request}

theorem byIndex_of_beyond (beyond : ∀ entry ∈ log, entry.1 < index) : byIndex index log = [] := by
  refine List.filterMap_eq_nil_iff.mpr fun entry listed => if_neg ?_
  have less := beyond entry listed
  omega

theorem byIndex_own (entries : List Entry) : byIndex index (entries.map (index, ·)) = entries := by
  simp [byIndex, List.filterMap_map]

theorem byIndex_other {other : Nat} (apart : index ≠ other) (entries : List Entry) :
    byIndex other (entries.map (index, ·)) = [] := by
  simp [byIndex, apart]

theorem Carried.arrive (carried : Carried holds log pool)
    (fresh : ∀ index, holds index request (service.serve request) []) :
    Carried holds log (service.step pool (.arrive request)).1 := by
  have tasks := service.tasks_arrive pool request
  refine ⟨fun index request' routine found => ?_, fun entry listed => ?_⟩
  · rw [tasks, List.getElem?_append] at found
    split at found
    · exact carried.along index request' routine found
    next beyond =>
      obtain ⟨rfl, rfl⟩ := Prod.mk.inj (List.mem_singleton.mp (List.mem_of_getElem? found))
      have none_ : byIndex index log = [] := byIndex_of_beyond fun entry listed => by
        have less := carried.bound entry listed
        omega
      rw [none_]
      exact fresh index
  · have less := carried.bound entry listed
    rw [tasks, List.length_append, List.length_singleton]
    omega

/-- A routine takes its next step; the others stand where they stood. -/
theorem Carried.step (carried : Carried holds log pool) (index : Nat)
    (moves : ∀ request routine, pool.tasks[index]? = some (request, routine) →
      holds index request routine (byIndex index log) →
      holds index request (routine.advance service.perform pool.state).2
        (byIndex index log ++ own pool.state routine)) :
    Carried holds (log ++ logged own pool (.step index)) (service.step pool (.step index)).1 := by
  rcases found : pool.tasks[index]? with _ | ⟨request, routine⟩
  · have silent : logged own pool (.step index) = [] := by simp only [logged, found]
    rw [service.step_of_none found, silent, List.append_nil]
    exact carried
  · obtain ⟨-, tasks⟩ := service.tasks_step found
    have logs : logged own pool (.step index) = (own pool.state routine).map (index, ·) := by
      simp only [logged, found]
    have after := moves request routine found (carried.along index request routine found)
    have inside : index < pool.tasks.length := (List.getElem?_eq_some_iff.mp found).1
    refine ⟨fun index' request' routine' found' => ?_, fun entry listed => ?_⟩
    · rw [tasks, List.getElem?_set] at found'
      rw [byIndex_append, logs]
      split at found'
      next same =>
        subst same
        obtain ⟨rfl, rfl⟩ := Prod.mk.inj (Option.some.inj found')
        rw [byIndex_own]
        exact after
      next other =>
        rw [byIndex_other other, List.append_nil]
        exact carried.along index' request' routine' found'
    · rw [tasks, List.length_set]
      rcases List.mem_append.mp listed with old | new
      · exact carried.bound entry old
      · rw [logs] at new
        obtain ⟨_, _, rfl⟩ := List.mem_map.mp new
        exact inside

variable (service) in
/-- What is so of every request that comes in, and is kept by each step of its own, is so of every
request of a run. -/
theorem carried_run (start : State) (inputs : List (Event Request))
    (serves : ∀ index request, .arrive request ∈ inputs → holds index request (service.serve request) [])
    (moves : ∀ past index request routine entries, past ++ [.step index] <+: inputs →
      ((service.machine start).run past).tasks[index]? = some (request, routine) →
      holds index request routine entries →
      holds index request (routine.advance service.perform ((service.machine start).run past).state).2
        (entries ++ own ((service.machine start).run past).state routine)) :
    Carried holds ((service.machine start).history (logged own) inputs) ((service.machine start).run inputs) := by
  have every : EveryStep (fun past event => past ++ [event] <+: inputs) inputs := by
    rintro past event later rfl
    exact ⟨later, by rw [List.append_assoc, List.singleton_append]⟩
  have atStart : Carried holds ((service.machine start).history (logged own) []) (service.machine start).start :=
    ⟨fun index request routine found => (by cases found), fun entry listed => (by cases listed)⟩
  refine (service.machine start).run_keeps_past
    (fun past pool => Carried holds ((service.machine start).history (logged own) past) pool) atStart ?_ every
    List.prefix_rfl
  intro past event carried front
  rw [Machine.history_snoc]
  cases event with
  | arrive request =>
    have asked : .arrive request ∈ inputs := front.subset (List.mem_append_right _ (List.mem_singleton_self _))
    have silent : logged own ((service.machine start).run past) (.arrive request) = [] := rfl
    rw [silent, List.append_nil]
    exact carried.arrive fun index => serves index request asked
  | step index => exact carried.step index fun request routine found => moves past index request routine _ front found

end Carried

/-- Each request's routine will come out as promised from where it is, with the changes logged for it. -/
abbrev Ending (service : Service State Write Reply Answer Request)
    (promised : Request → Routine.Outcome State Write Answer → Prop) (log : List (Nat × State × Write))
    (pool : Pool State Write Reply Answer Request) : Prop :=
  Carried (fun _ request routine landed => ∃ last, routine.Along service.perform (promised request) landed last)
    log pool

variable (service) in
/-- Whoever runs in between: when every request's routine comes out as promised whatever its steps
find, every answer of every schedule is as promised, told by the log. -/
theorem along_run {promised : Request → Routine.Outcome State Write Answer → Prop}
    (serves : ∀ request, ∃ last, (service.serve request).Along service.perform (promised request) [] last)
    (start : State)
    (past : List (Event Request)) :
    service.Ending promised ((service.machine start).history service.landing past)
      ((service.machine start).run past) := by
  rw [landing_eq]
  refine service.carried_run start past (fun _ request _ => serves request) ?_
  rintro earlier index request routine landed - - ⟨last, along⟩
  cases routine with
  | done answer => exact ⟨last, (List.append_nil landed).symm ▸ along⟩
  | read next => exact ⟨_, (List.append_nil landed).symm ▸ (along _).2⟩
  | write change next => exact ⟨_, (along _).2⟩

variable (service) in
/-- The same for what is promised of the changes and the answer alone. -/
theorem ending_run {promised : Request → List Write → Answer → Prop}
    (serves : ∀ request, (service.serve request).Ends (promised request) []) (start : State)
    {past : List (Event Request)} {answer : Answer}
    (answered : ((service.machine start).run past).tasks[index]? = some (request, .done answer)) :
    promised request (byIndex index ((service.machine start).history service.watch past)) answer := by
  have ends := service.along_run (fun request => ⟨start, (serves request).along rfl start⟩) start past
  obtain ⟨last, along⟩ := ends.along index request _ answered
  have log : byIndex index ((service.machine start).history service.watch past) =
      (byIndex index ((service.machine start).history service.landing past)).map (·.2) := by
    rw [← byIndex_map, ← Machine.history_map, watch_eq]
  rw [log]
  exact along answer rfl

end Log

section Repaid
variable {Debt : Type} {incurs : Write → Reply → Debt → Prop} {due : Debt → Write → Prop}
    {Right : Debt → State → Prop}

/-- What is not right is owed for by a request under way. -/
structure Repaid (incurs : Write → Reply → Debt → Prop) (due : Debt → Write → Prop) (Right : Debt → State → Prop)
    (pool : Pool State Write Reply Answer Request) : Prop where
  tasks : ∀ task ∈ pool.tasks, task.2.Repays incurs due
  owed : ∀ debt, Right debt pool.state ∨ ∃ task ∈ pool.tasks, task.2.Owes (due debt)

/-- At rest everything is right. -/
theorem Repaid.at_rest (repaid : Repaid incurs due Right pool)
    (rest : ∀ task ∈ pool.tasks, task.2.answered.isSome = true) (debt : Debt) : Right debt pool.state := by
  rcases repaid.owed debt with right | ⟨⟨request, routine⟩, member, owes⟩
  · exact right
  · have ended : routine.answered.isSome = true := rest _ member
    cases routine with
    | done answer => cases owes
    | read next => cases ended
    | write change next => cases ended

variable {service : Service State Write Reply Answer Request}

/-- Wrong is made right by a due change, as long as each one that lands does so. -/
theorem Repaid.step (repaid : Repaid incurs due Right pool)
    (serves : ∀ request, (service.serve request).Repays incurs due)
    (keeps : ∀ s change debt, ¬ due debt change → ¬ incurs change (service.perform s change).2 debt →
      Right debt s → Right debt (service.perform s change).1)
    (event : Event Request)
    (pays : ∀ entry ∈ service.landing pool event, ∀ debt, due debt entry.2.2 →
      Right debt (service.perform entry.2.1 entry.2.2).1) :
    Repaid incurs due Right (service.step pool event).1 := by
  cases event with
  | arrive request =>
    have tasks := service.tasks_arrive pool request
    refine ⟨service.all_tasks_arrive repaid.tasks (serves request), fun debt => ?_⟩
    · rcases repaid.owed debt with right | ⟨task, member, owes⟩
      · exact .inl right
      · refine .inr ⟨task, ?_, owes⟩
        rw [tasks]
        exact List.mem_append_left _ member
  | step index =>
    rcases found : pool.tasks[index]? with _ | ⟨request, routine⟩
    · rw [service.step_of_none found]
      exact repaid
    · obtain ⟨state, tasks⟩ := service.tasks_step found
      have repays : routine.Repays incurs due := repaid.tasks _ (List.mem_of_getElem? found)
      have inside : index < pool.tasks.length := (List.getElem?_eq_some_iff.mp found).1
      have moved : (request, (routine.advance service.perform pool.state).2) ∈ (service.step pool
          (.step index)).1.tasks := by
        rw [tasks]
        exact List.mem_set inside _
      -- what the others owe, they still do
      have rest : ∀ debt task, task ∈ pool.tasks → task.2.Owes (due debt) →
          (∃ other ∈ (service.step pool (.step index)).1.tasks, other.2.Owes (due debt)) ∨
            routine.Owes (due debt) := by
        intro debt task member owes
        obtain ⟨place, bound, rfl⟩ := List.mem_iff_getElem.mp member
        by_cases same : index = place
        · subst same
          have isIt := (List.getElem?_eq_getElem bound).symm.trans found
          rw [Option.some.inj isIt] at owes
          exact .inr owes
        · refine .inl ⟨pool.tasks[place], ?_, owes⟩
          rw [tasks]
          refine List.mem_iff_getElem?.mpr ⟨place, ?_⟩
          rw [List.getElem?_set_ne same, List.getElem?_eq_getElem bound]
      refine ⟨service.all_tasks_step found repaid.tasks ?_, fun debt => ?_⟩
      · cases routine with
        | done answer => trivial
        | read next => exact repays pool.state
        | write change next => exact (repays _).1
      · cases routine with
        | done answer =>
          rw [state]
          rcases repaid.owed debt with right | ⟨task, member, owes⟩
          · exact .inl right
          · exact .inr ((rest debt task member owes).resolve_right fun none_ => none_)
        | read next =>
          rw [state]
          rcases repaid.owed debt with right | ⟨task, member, owes⟩
          · exact .inl right
          · rcases rest debt task member owes with other | own
            · exact .inr other
            · exact .inr ⟨_, moved, own pool.state⟩
        | write change next =>
          rw [state]
          have landed : (index, pool.state, change) ∈ service.landing pool (.step index) := by
            rw [service.landing_step found]
            exact List.mem_singleton_self _
          by_cases pay : due debt change
          · exact .inl (pays _ landed debt pay)
          by_cases owing : incurs change (service.perform pool.state change).2 debt
          · exact .inr ⟨_, moved, (repays _).2 debt owing⟩
          · rcases repaid.owed debt with right | ⟨task, member, owes⟩
            · exact .inl (keeps pool.state change debt pay owing right)
            · exact .inr ((rest debt task member owes).resolve_right pay)

end Repaid

end Service
