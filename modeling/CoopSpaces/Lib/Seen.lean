import CoopSpaces.Lib.Routine
import Mathlib.Algebra.GroupWithZero.Nat
import Mathlib.Data.List.Nodup
import Mathlib.Data.List.Perm.Subperm

/-! What a request among others comes to, told by the states it has seen. -/

namespace Routine
variable {State Write Reply Answer Other : Type}

/-- Each state it reads or changes being one of those `seen`, the routine keeps at every point to what is
promised of the changes it has made and of its answer, if it has one. -/
def Sees (perform : State → Write → State × Reply) (seen : State → Prop)
    (promised : List (State × Write) → Option Answer → Prop) (landed : List (State × Write)) :
    Routine State Write Reply Answer → Prop
  | .done answer => promised landed (some answer)
  | .read next => promised landed none ∧ ∀ s, seen s → (next s).Sees perform seen promised landed
  | .write change next => promised landed none ∧
      ∀ s, seen s → (next (perform s change).2).Sees perform seen promised (landed ++ [(s, change)])

section Sees
variable {perform : State → Write → State × Reply} {seen : State → Prop}
  {promised : List (State × Write) → Option Answer → Prop} {landed : List (State × Write)}
  {routine : Routine State Write Reply Answer}

theorem Sees.here (sees : routine.Sees perform seen promised landed) : promised landed routine.answered := by
  cases routine with
  | done answer => exact sees
  | read next => exact sees.1
  | write change next => exact sees.1

/-- The second goes on from where the first has come to its answer. -/
theorem Sees.bind {f : Answer → Routine State Write Reply Other}
    {kept : List (State × Write) → Option Other → Prop} (first : routine.Sees perform seen promised landed)
    (underWay : ∀ landed, promised landed none → kept landed none)
    (rest : ∀ landed answer, promised landed (some answer) → (f answer).Sees perform seen kept landed) :
    (routine.bind f).Sees perform seen kept landed := by
  induction routine generalizing landed with
  | done answer => exact rest landed answer first
  | read next ih => exact ⟨underWay landed first.1, fun s there => ih s (first.2 s there)⟩
  | write change next ih => exact ⟨underWay landed first.1, fun s there => ih _ (first.2 s there)⟩

/-- A routine of which nothing is asked before its answer, and that changes nothing. -/
theorem Sees.of_forall (always : ∀ landed answer, promised landed answer) (routine : Routine State Write Reply Answer)
    (landed : List (State × Write)) : routine.Sees perform seen promised landed := by
  induction routine generalizing landed with
  | done answer => exact always landed _
  | read next ih => exact ⟨always landed _, fun s _ => ih s landed⟩
  | write change next ih => exact ⟨always landed _, fun s _ => ih _ _⟩

/-- What a routine of a part does, told of the whole. -/
def embed {Part Change Told : Type} (get : State → Part) (wrap : Change → Write) (told : Reply → Told) :
    Routine Part Change Told Answer → Routine State Write Reply Answer
  | .done answer => .done answer
  | .read next => .read fun s => (next (get s)).embed get wrap told
  | .write change next => .write (wrap change) fun reply => (next (told reply)).embed get wrap told

/-- Where the changes that a part is allowed, and what it answers, cannot hurt, its routines keep to what is
promised. -/
theorem sees_embed {Part Change Told : Type} {get : State → Part} {wrap : Change → Write} {told : Reply → Told}
    {allowed : Change → Prop} {part : Routine Part Change Told Answer}
    (meets : part.Meets (fun _ => True) allowed fun _ => True)
    (always : ∀ (more : List (State × Write)) (answer : Option Answer),
      (∀ entry ∈ more, ∃ change, allowed change ∧ entry.2 = wrap change) → promised (landed ++ more) answer) :
    (part.embed get wrap told).Sees perform seen promised landed := by
  induction part generalizing landed with
  | done answer =>
    have here := always [] (some answer) fun entry none_ => by cases none_
    rwa [List.append_nil] at here
  | read next ih =>
    have here := always [] none fun entry none_ => by cases none_
    rw [List.append_nil] at here
    exact ⟨here, fun s _ => ih (get s) (meets _ trivial) always⟩
  | write change next ih =>
    have here := always [] none fun entry none_ => by cases none_
    rw [List.append_nil] at here
    refine ⟨here, fun s _ => ih _ (meets.2 _) fun more answer wrapped => ?_⟩
    rw [List.append_assoc, List.singleton_append]
    refine always _ answer fun entry listed => ?_
    rcases List.mem_cons.mp listed with rfl | later
    · exact ⟨change, meets.1, rfl⟩
    · exact wrapped entry later

end Sees

/-- The state the next step finds, and the change it makes there, if any. -/
def meeting (s : State) : Routine State Write Reply Answer → List (State × Option Write)
  | .done _ => []
  | .read _ => [(s, none)]
  | .write change _ => [(s, some change)]

end Routine

namespace Service
variable {State Write Reply Answer Request : Type} (service : Service State Write Reply Answer Request)

/-- A state that the run is in at some point. -/
def SeenIn (start : State) (inputs : List (Event Request)) (s : State) : Prop :=
  ∃ earlier, earlier <+: inputs ∧ s = ((service.machine start).run earlier).state

/-- The changes of a run, each with the request's place and the state it lands on. -/
abbrev landings (start : State) (inputs : List (Event Request)) : List (Nat × State × Write) :=
  (service.machine start).history service.landing inputs

/-- The steps of a run: the place of the request that takes one, the state it finds, and the change
it makes there, if any. -/
abbrev meetings (start : State) (inputs : List (Event Request)) : List (Nat × State × Option Write) :=
  (service.machine start).history (logged Routine.meeting) inputs

/-- A state that the request at this place has itself found with one of its steps. -/
def Met (start : State) (inputs : List (Event Request)) (index : Nat) (s : State) : Prop :=
  ∃ change, (index, s, change) ∈ service.meetings start inputs

section Met
variable {service} {start : State} {inputs : List (Event Request)} {index : Nat}

theorem meetings_of_front {earlier : List (Event Request)} (front : earlier <+: inputs) :
    service.meetings start earlier <+: service.meetings start inputs := by
  obtain ⟨later, rfl⟩ := front
  exact ⟨_, (Machine.history_go_append (service.machine start) _ _ earlier later).symm⟩

/-- The state at which a request under way takes a step is one it has met. -/
theorem met_of_step {past : List (Event Request)} {request : Request} {routine : Routine State Write Reply Answer}
    (front : past ++ [.step index] <+: inputs)
    (found : ((service.machine start).run past).tasks[index]? = some (request, routine))
    (underWay : routine.answered = none) :
    service.Met start inputs index ((service.machine start).run past).state := by
  refine ⟨routine.pending, (meetings_of_front front).subset ?_⟩
  have logs : logged Routine.meeting ((service.machine start).run past) (.step index) =
      (routine.meeting ((service.machine start).run past).state).map (index, ·) := by simp only [logged, found]
  rw [meetings, Machine.history_snoc, logs]
  refine List.mem_append_right _ (List.mem_map_of_mem ?_)
  cases routine with
  | done answer => cases underWay
  | read next => exact List.mem_singleton_self _
  | write change next => exact List.mem_singleton_self _

theorem seen_of_met {s : State} (met : service.Met start inputs index s) : service.SeenIn start inputs s := by
  obtain ⟨change, listed⟩ := met
  induction inputs using List.reverseRecOn with
  | nil => cases listed
  | append_singleton past event ih =>
    rw [meetings, Machine.history_snoc] at listed
    rcases List.mem_append.mp listed with old | new
    · obtain ⟨earlier, front, same⟩ := ih old
      exact ⟨earlier, front.trans (List.prefix_append past [event]), same⟩
    · refine ⟨past, List.prefix_append past [event], ?_⟩
      cases event with
      | arrive request => cases new
      | step place =>
        simp only [logged] at new
        split at new
        · cases new
        · obtain ⟨⟨t, made⟩, own, same⟩ := List.mem_map.mp new
          obtain ⟨-, rest⟩ := Prod.mk.inj same
          obtain ⟨rfl, -⟩ := Prod.mk.inj rest
          rename_i task _
          cases shape : task.2 with
          | done answer =>
            rw [shape] at own
            cases own
          | read next =>
            rw [shape] at own
            exact (Prod.mk.inj (List.mem_singleton.mp own)).1
          | write change next =>
            rw [shape] at own
            exact (Prod.mk.inj (List.mem_singleton.mp own)).1

end Met

/-- What each routine under way has left to do is as promised, with the changes it has made. -/
abbrev Seeing (seen : Nat → State → Prop) (promised : Nat → Request → List (State × Write) → Option Answer → Prop)
    (log : List (Nat × State × Write)) (pool : Pool State Write Reply Answer Request) : Prop :=
  Carried (fun index request routine landed =>
    routine.Sees service.perform (seen index) (promised index request) landed) log pool

theorem seeing_run {promised : Nat → Request → List (State × Write) → Option Answer → Prop} (start : State)
    (inputs : List (Event Request))
    (serves : ∀ index request, .arrive request ∈ inputs →
      (service.serve request).Sees service.perform (service.Met start inputs index) (promised index request) []) :
    service.Seeing (service.Met start inputs) promised (service.landings start inputs)
      ((service.machine start).run inputs) := by
  rw [landings, landing_eq]
  refine service.carried_run start inputs serves ?_
  intro past index request routine landed front found sees
  cases routine with
  | done answer => exact (List.append_nil landed).symm ▸ sees
  | read next => exact (List.append_nil landed).symm ▸ sees.2 _ (met_of_step front found rfl)
  | write change next => exact sees.2 _ (met_of_step front found rfl)

/-- Whoever runs in between: when every request's routine keeps its promise as long as the states it
meets are those it has met in the run, every request of the run keeps it. -/
theorem sees_run {promised : Nat → Request → List (State × Write) → Option Answer → Prop} (start : State)
    (inputs : List (Event Request))
    (serves : ∀ index request, .arrive request ∈ inputs →
      (service.serve request).Sees service.perform (service.Met start inputs index) (promised index request) [])
    {index : Nat} {request : Request} {routine : Routine State Write Reply Answer}
    (found : ((service.machine start).run inputs).tasks[index]? = some (request, routine)) :
    promised index request (byIndex index (service.landings start inputs)) routine.answered :=
  ((service.seeing_run start inputs serves).along index request routine found).here

/-- A change that has landed is one of a request that came in. -/
theorem found_of_landing (start : State) {inputs : List (Event Request)} {entry : Nat × State × Write}
    (landed : entry ∈ service.landings start inputs) :
    ∃ request routine, ((service.machine start).run inputs).tasks[entry.1]? = some (request, routine) := by
  have seeing := @seeing_run _ _ _ _ _ service (fun _ _ _ _ => True) start inputs fun _ request _ =>
    Routine.Sees.of_forall (fun _ _ => trivial) _ _
  exact ⟨_, _, List.getElem?_eq_getElem (seeing.bound entry landed)⟩

section Lasting
variable {service} {start : State} {inputs : List (Event Request)} {P : State → Prop}

theorem landings_of_front {earlier : List (Event Request)} (front : earlier <+: inputs) :
    service.landings start earlier <+: service.landings start inputs := by
  obtain ⟨later, rfl⟩ := front
  exact ⟨_, (Machine.history_go_append (service.machine start) service.landing _ earlier later).symm⟩

/-- A change that has landed did so with some step. -/
theorem step_of_landing {entry : Nat × State × Write} (landed : entry ∈ service.landings start inputs) :
    ∃ past event later, inputs = past ++ event :: later ∧
      entry ∈ service.landing ((service.machine start).run past) event := by
  induction inputs using List.reverseRecOn with
  | nil => cases landed
  | append_singleton past event ih =>
    have logs := Machine.history_snoc (service.machine start) service.landing past event
    rw [landings, logs] at landed
    rcases List.mem_append.mp landed with old | new
    · obtain ⟨front, middle, back, rfl, there⟩ := ih old
      exact ⟨front, middle, back ++ [event], by rw [List.append_assoc, List.cons_append], there⟩
    · exact ⟨past, event, [], rfl, new⟩

/-- What the changes of a run keep is so to the end from where it was so. -/
theorem kept_of_landed (stays : ∀ entry ∈ service.landings start inputs, P entry.2.1 →
    P (service.perform entry.2.1 entry.2.2).1) {s : State} (seen : service.SeenIn start inputs s) (here : P s) :
    P ((service.machine start).run inputs).state := by
  obtain ⟨earlier, ⟨later, rfl⟩, rfl⟩ := seen
  induction later using List.reverseRecOn with
  | nil => rwa [List.append_nil]
  | append_singleton middle event ih =>
    rw [← List.append_assoc] at stays ⊢
    have logs := Machine.history_snoc (service.machine start) service.landing (earlier ++ middle) event
    rw [landings, logs] at stays
    have before := ih fun entry listed => stays entry (List.mem_append_left _ listed)
    rw [Machine.run_snoc]
    have moves : (service.machine start).step = service.step := rfl
    rw [moves]
    rcases service.landing_cases ((service.machine start).run (earlier ++ middle)) event with
      ⟨-, same⟩ | ⟨index, change, logged, made, -⟩
    · rw [same]
      exact before
    · rw [made]
      refine stays (index, _, change) (List.mem_append_right _ ?_) before
      rw [logged]
      exact List.mem_singleton_self _

/-- What every change keeps is so to the end from where it was so in the run. -/
theorem kept_of_seen (stays : ∀ s change, P s → P (service.perform s change).1) {s : State}
    (seen : service.SeenIn start inputs s) (here : P s) : P ((service.machine start).run inputs).state :=
  kept_of_landed (fun entry _ => stays entry.2.1 entry.2.2) seen here

/-- A change lands on a state of the run, and what it leaves is one. -/
theorem seen_of_landing {index : Nat} {s : State} {change : Write}
    (landed : (index, s, change) ∈ service.landings start inputs) :
    service.SeenIn start inputs s ∧ service.SeenIn start inputs (service.perform s change).1 := by
  induction inputs using List.reverseRecOn with
  | nil => cases landed
  | append_singleton past event ih =>
    have wider : ∀ t, service.SeenIn start past t → service.SeenIn start (past ++ [event]) t := by
      rintro t ⟨earlier, front, same⟩
      exact ⟨earlier, front.trans (List.prefix_append past [event]), same⟩
    have logs := Machine.history_snoc (service.machine start) service.landing past event
    rw [landings, logs] at landed
    rcases List.mem_append.mp landed with old | new
    · exact ⟨wider _ (ih old).1, wider _ (ih old).2⟩
    · rcases service.landing_cases ((service.machine start).run past) event with
        ⟨silent, -⟩ | ⟨place, made, logged, after, -⟩
      · rw [silent] at new
        cases new
      · rw [logged] at new
        obtain ⟨rfl, rest⟩ := Prod.mk.inj (List.mem_singleton.mp new)
        obtain ⟨rfl, rfl⟩ := Prod.mk.inj rest
        refine ⟨⟨past, List.prefix_append past [event], rfl⟩, past ++ [event], List.prefix_rfl, ?_⟩
        rw [Machine.run_snoc]
        exact after.symm

/-- What was not so at the start was made so by a change. -/
theorem exists_landing (absent : ¬ P start) (here : P ((service.machine start).run inputs).state) :
    ∃ entry ∈ service.landings start inputs, ¬ P entry.2.1 ∧ P (service.perform entry.2.1 entry.2.2).1 := by
  induction inputs using List.reverseRecOn with
  | nil => exact absurd here absent
  | append_singleton past event ih =>
    have logs := Machine.history_snoc (service.machine start) service.landing past event
    rw [landings, logs]
    by_cases before : P ((service.machine start).run past).state
    · obtain ⟨entry, listed, made⟩ := ih before
      exact ⟨entry, List.mem_append_left _ listed, made⟩
    · rw [Machine.run_snoc] at here
      rcases service.landing_cases ((service.machine start).run past) event with
        ⟨-, same⟩ | ⟨index, change, logged, made, -⟩
      · have still : P ((service.machine start).run past).state := same ▸ here
        exact absurd still before
      · refine ⟨(index, ((service.machine start).run past).state, change), ?_, before, made ▸ here⟩
        rw [logged]
        exact List.mem_append_right _ (List.mem_singleton_self _)

/-- So for a state that the run is in on its way. -/
theorem exists_landing_seen {s : State} (seen : service.SeenIn start inputs s) (absent : ¬ P start) (here : P s) :
    ∃ entry ∈ service.landings start inputs, ¬ P entry.2.1 ∧ P (service.perform entry.2.1 entry.2.2).1 := by
  obtain ⟨earlier, front, rfl⟩ := seen
  obtain ⟨entry, listed, made⟩ := exists_landing absent here
  exact ⟨entry, (landings_of_front front).subset listed, made⟩

end Lasting

section Places
variable {Entry Other : Type}

theorem mem_byIndex {index : Nat} {value : Entry} {log : List (Nat × Entry)} (member : (index, value) ∈ log) :
    value ∈ byIndex index log :=
  List.mem_filterMap.mpr ⟨(index, value), member, if_pos rfl⟩

theorem sum_range_le {tasks : List Entry} {spent : Nat → Nat} {budget : Entry → Nat}
    (within : ∀ (index : Nat) (task : Entry), tasks[index]? = some task → spent index ≤ budget task) :
    ((List.range tasks.length).map spent).sum ≤ (tasks.map budget).sum := by
  induction tasks using List.reverseRecOn with
  | nil => exact Nat.le_refl _
  | append_singleton tasks task ih =>
    have last := within tasks.length task (by simp)
    have before := ih fun index other found => within index other (by
      rw [List.getElem?_append_left (List.getElem?_eq_some_iff.mp found).1]
      exact found)
    rw [List.length_append, List.length_singleton, List.range_succ, List.map_append, List.sum_append, List.map_append,
      List.sum_append, List.map_singleton, List.map_singleton, List.sum_singleton, List.sum_singleton]
    omega

theorem countP_eq_range (entries : List Entry) (p : Entry → Bool) :
    entries.countP p = (List.range entries.length).countP fun index => entries[index]?.any p := by
  induction entries using List.reverseRecOn with
  | nil => rfl
  | append_singleton entries entry ih =>
    have front : (List.range entries.length).countP (fun index => (entries ++ [entry])[index]?.any p) =
        (List.range entries.length).countP fun index => entries[index]?.any p := by
      refine List.countP_congr fun index within => ?_
      rw [List.getElem?_append_left (List.mem_range.mp within)]
    have last : (entries ++ [entry])[entries.length]? = some entry := by simp
    rw [List.length_append, List.length_singleton, List.range_succ, List.countP_append, List.countP_append, front,
      ← ih, List.countP_singleton, List.countP_singleton, last]
    rfl

/-- Entries whose places are logged for a key are no more than the log has of it. -/
theorem countP_le_of_logged {Key : Type} [DecidableEq Key] {entries : List Entry} {log : List (Nat × Key)}
    {p : Entry → Bool} {key : Key}
    (each : ∀ (index : Nat) (entry : Entry), entries[index]? = some entry → p entry = true → (index, key) ∈ log) :
    entries.countP p ≤ (log.map (·.2)).count key := by
  have places : (((List.range entries.length).filter fun index => entries[index]?.any p).map (·, key)).Nodup :=
    ((List.nodup_range).filter _).map fun a b same => congrArg Prod.fst same
  have within : ((List.range entries.length).filter fun index => entries[index]?.any p).map (·, key) ⊆
      log.filter fun entry => entry.2 = key := by
    intro place listed
    obtain ⟨index, chosen, rfl⟩ := List.mem_map.mp listed
    obtain ⟨entry, found, is⟩ := (Option.any_eq_true ..).mp (List.mem_filter.mp chosen).2
    exact List.mem_filter.mpr ⟨each index entry found is, decide_eq_true rfl⟩
  have counted := (List.subperm_of_subset places within).length_le
  rw [List.length_map, ← List.countP_eq_length_filter, ← List.countP_eq_length_filter] at counted
  rw [countP_eq_range, List.count, List.countP_map]
  refine Nat.le_trans counted (Nat.le_of_eq (List.countP_congr fun entry _ => ?_))
  rw [decide_eq_true_eq, Function.comp_apply, beq_iff_eq]

end Places

/-- The request that comes in with an event. -/
def Event.asked : Event Request → Option Request
  | .arrive request => some request
  | .step _ => none

theorem requests_run (start : State) (inputs : List (Event Request)) :
    ((service.machine start).run inputs).tasks.map (·.1) = inputs.filterMap Event.asked := by
  induction inputs using List.reverseRecOn with
  | nil => rfl
  | append_singleton past event ih =>
    have moves : (service.machine start).step = service.step := rfl
    rw [Machine.run_snoc, moves, List.filterMap_append, ← ih]
    cases event with
    | arrive request =>
      rw [service.tasks_arrive, List.map_append]
      rfl
    | step index =>
      have none_ : [(Event.step index : Event Request)].filterMap Event.asked = [] := rfl
      rw [none_, List.append_nil]
      rcases found : ((service.machine start).run past).tasks[index]? with _ | ⟨request, routine⟩
      · rw [service.step_of_none found]
      · obtain ⟨-, tasks⟩ := service.tasks_step found
        have stands : (((service.machine start).run past).tasks.map (·.1))[index]? = some request := by
          rw [List.getElem?_map, found]
          rfl
        obtain ⟨inside, same⟩ := List.getElem?_eq_some_iff.mp stands
        rw [tasks, List.map_set]
        exact same ▸ List.set_getElem_self inside

/-- A request keeps its place in a run. -/
theorem request_of_front {service : Service State Write Reply Answer Request} {start : State}
    {past inputs : List (Event Request)} (front : past <+: inputs) {index : Nat} {request request' : Request}
    {routine routine' : Routine State Write Reply Answer}
    (before : ((service.machine start).run past).tasks[index]? = some (request, routine))
    (after : ((service.machine start).run inputs).tasks[index]? = some (request', routine')) :
    request = request' := by
  have early : (past.filterMap Event.asked)[index]? = some request := by
    rw [← service.requests_run start, List.getElem?_map, before]
    rfl
  have late : (inputs.filterMap Event.asked)[index]? = some request' := by
    rw [← service.requests_run start, List.getElem?_map, after]
    rfl
  have longer : past.filterMap Event.asked <+: inputs.filterMap Event.asked := front.filterMap _
  obtain ⟨inside, here⟩ := List.getElem?_eq_some_iff.mp early
  have kept := List.prefix_iff_getElem?.mp longer index inside
  exact here.symm.trans (Option.some.inj (kept.symm.trans late))

/-- A request that is under way has come in. -/
theorem arrived_of_found {service : Service State Write Reply Answer Request} {start : State}
    {inputs : List (Event Request)} {index : Nat} {request : Request} {routine : Routine State Write Reply Answer}
    (found : ((service.machine start).run inputs).tasks[index]? = some (request, routine)) :
    .arrive request ∈ inputs := by
  have listed : request ∈ ((service.machine start).run inputs).tasks.map (·.1) :=
    List.mem_map_of_mem (List.mem_of_getElem? found)
  rw [service.requests_run] at listed
  obtain ⟨event, there, asks⟩ := List.mem_filterMap.mp listed
  cases event with
  | arrive other => exact Option.some.inj asks ▸ there
  | step place => cases asks

/-- What each request has of a kind within its budget, the run has within the budgets of all. -/
theorem count_landings_le {Key : Type} [DecidableEq Key] (start : State) (inputs : List (Event Request))
    (kind : State × Write → Option Key) (budget : Request → List Key) (key : Key)
    (each : ∀ (index : Nat) (request : Request) (routine : Routine State Write Reply Answer),
      ((service.machine start).run inputs).tasks[index]? = some (request, routine) →
        ((byIndex index (service.landings start inputs)).filterMap kind).count key ≤ (budget request).count key) :
    (((service.landings start inputs).map (·.2)).filterMap kind).count key ≤
      ((inputs.filterMap Event.asked).flatMap budget).count key := by
  have seeing := @seeing_run _ _ _ _ _ service (fun _ _ _ _ => True) start inputs fun _ request _ =>
    Routine.Sees.of_forall (fun _ _ => trivial) _ _
  have perm := (perm_byIndex seeing.bound).symm.filterMap kind
  rw [perm.count_eq, List.filterMap_flatMap, List.count_flatMap, ← service.requests_run start inputs,
    List.flatMap_map, List.count_flatMap]
  exact sum_range_le fun index task found => each index task.1 task.2 found

end Service
