import CoopSpaces.Lib.Seen
import Mathlib.Data.List.DropRight

/-! Check, then act: what the changes of a run come to, when nobody comes in between a request's look at the state and
its change of it. -/

namespace Routine
variable {State Write Reply Answer Other : Type}

/-- The steps a routine has taken: the state each has found, and its change there, if any. -/
abbrev Trail (State Write : Type) := List (State × Option Write)

/-- The states found on a trail. -/
def Trail.found (trail : Trail State Write) : List State := trail.map (·.1)

/-- The states found since the last change of its own. -/
def Trail.foundSince (trail : Trail State Write) : List State := (trail.rtakeWhile (·.2.isNone)).map (·.1)

/-- The state found last. -/
def Trail.lastFound (trail : Trail State Write) : Option State := trail.getLast?.map (·.1)

/-- Relying on the states it finds being in the invariant, each change of the routine is proper where it lands,
told by the trail until there. -/
def Minds (perform : State → Write → State × Reply) (Inv : State → Prop)
    (proper : Trail State Write → State → Write → Prop) (trail : Trail State Write) :
    Routine State Write Reply Answer → Prop
  | .done _ => True
  | .read next => ∀ s, Inv s → (next s).Minds perform Inv proper (trail ++ [(s, none)])
  | .write change next => ∀ s, Inv s → proper trail s change ∧
      (next (perform s change).2).Minds perform Inv proper (trail ++ [(s, some change)])

section Minds
variable {perform : State → Write → State × Reply} {Inv : State → Prop}
  {proper : Trail State Write → State → Write → Prop} {trail : Trail State Write}
  {routine : Routine State Write Reply Answer}

theorem Trail.found_append (more : Trail State Write) :
    Trail.found (trail ++ more) = Trail.found trail ++ Trail.found more := List.map_append

theorem Trail.foundSince_read (s : State) :
    Trail.foundSince (trail ++ [(s, none)]) = Trail.foundSince trail ++ [s] := by
  rw [foundSince, foundSince, List.rtakeWhile_concat_pos _ _ _ rfl, List.map_append]
  rfl

theorem Trail.lastFound_read (s : State) : Trail.lastFound (trail ++ [(s, none)]) = some s := by
  rw [lastFound, List.getLast?_concat]
  rfl

theorem Minds.weaken {less : Trail State Write → State → Write → Prop}
    (minds : routine.Minds perform Inv proper trail)
    (weaker : ∀ trail s change, proper trail s change → less trail s change) :
    routine.Minds perform Inv less trail := by
  induction routine generalizing trail with
  | done answer => trivial
  | read next ih => exact fun s inv => ih s (minds s inv)
  | write change next ih => exact fun s inv => ⟨weaker trail s change (minds s inv).1, ih _ (minds s inv).2⟩

/-- A routine of whose changes nothing is asked. -/
theorem Minds.of_forall (always : ∀ trail s change, proper trail s change)
    (routine : Routine State Write Reply Answer)
    (trail : Trail State Write) : routine.Minds perform Inv proper trail := by
  induction routine generalizing trail with
  | done answer => trivial
  | read next ih => exact fun s _ => ih s _
  | write change next ih => exact fun s _ => ⟨always trail s change, ih _ _⟩

/-- Changes that are proper wherever they land. -/
theorem Meets.minds {allowed : Write → Prop} {promised : Answer → Prop}
    (meets : routine.Meets (fun _ => True) allowed promised)
    (always : ∀ trail s change, allowed change → proper trail s change) : routine.Minds perform Inv proper trail := by
  induction routine generalizing trail with
  | done answer => trivial
  | read next ih => exact fun s _ => ih s (meets s trivial)
  | write change next ih => exact fun s _ => ⟨always trail s change meets.1, ih _ (meets.2 _)⟩

/-- The second goes on from where the first has come to its answer. -/
theorem Minds.bind {f : Answer → Routine State Write Reply Other} (first : routine.Minds perform Inv proper trail)
    (rest : ∀ more answer, (f answer).Minds perform Inv proper (trail ++ more)) :
    (routine.bind f).Minds perform Inv proper trail := by
  induction routine generalizing trail with
  | done answer => exact List.append_nil trail ▸ rest [] answer
  | read next ih =>
    exact fun s inv => ih s (first s inv) fun more answer => (List.append_assoc trail _ more).symm ▸ rest _ answer
  | write change next ih =>
    refine fun s inv => ⟨(first s inv).1, ih _ (first s inv).2 fun more answer => ?_⟩
    exact (List.append_assoc trail _ more).symm ▸ rest _ answer

end Minds

end Routine

namespace Service
open Routine
variable {State Write Reply Answer Request : Type} (service : Service State Write Reply Answer Request)
  (undisturbed : Request → Trail State Write → State → Write → Prop)

/-- A step of a run whose change lands undisturbed, told by the request that makes it and its trail. -/
def InTurn (start : State) (past : List (Event Request)) (event : Event Request) : Prop :=
  ∀ landed ∈ service.landing ((service.machine start).run past) event,
    ∀ task ∈ ((service.machine start).run past).tasks[landed.1]?,
      undisturbed task.1 (byIndex landed.1 (service.meetings start past)) landed.2.1 landed.2.2

instance [∀ request trail s change, Decidable (undisturbed request trail s change)] (start : State)
    (past : List (Event Request)) (event : Event Request) : Decidable (service.InTurn undisturbed start past event) :=
  inferInstanceAs (Decidable (∀ landed ∈ _, ∀ task ∈ _, undisturbed _ _ _ _))

variable {service undisturbed} {Inv : State → Prop} {proper : Request → Trail State Write → State → Write → Prop}
  (good : Request → State → Write → Prop)

variable {past : List (Event Request)} {start : State}

/-- Where each change of every request is proper, told by the request's trail, so is each that lands. -/
theorem inTurn_of_minds (event : Event Request)
    (inv : ∀ earlier, earlier <+: past → Inv ((service.machine start).run earlier).state)
    (serves : ∀ request, (service.serve request).Minds service.perform Inv (proper request) []) :
    service.InTurn proper start past event := by
  have carried := @carried_run _ _ _ _ _ service _ (fun _ request routine trail =>
    routine.Minds service.perform Inv (proper request) trail) Routine.meeting start past
      (fun _ request _ => serves request) (by
      intro earlier index request routine trail front _ minds
      have here := inv earlier ((List.prefix_append earlier [.step index]).trans front)
      cases routine with
      | done answer => exact (List.append_nil trail).symm ▸ minds
      | read next => exact minds _ here
      | write change next => exact (minds _ here).2)
  intro landed logged task found
  cases event with
  | arrive request => cases logged
  | step index =>
    rcases stands : ((service.machine start).run past).tasks[index]? with _ | ⟨request, routine⟩
    · rw [landing, service.step_of_none stands] at logged
      cases logged
    · have minds := carried.along index request routine stands
      rw [service.landing_step stands] at logged
      cases routine with
      | done answer => cases logged
      | read next => cases logged
      | write change next =>
        obtain rfl := List.mem_singleton.mp logged
        obtain rfl := Option.some.inj (stands.symm.trans found)
        exact (minds _ (inv past List.prefix_rfl)).1

/-- What a step performs is in turn or not. -/
theorem inTurn_iff_performed {event : Event Request} :
    service.InTurn undisturbed start past event ↔
      ∀ performed index, (service.step ((service.machine start).run past) event).2 = some performed →
        event = .step index → undisturbed performed.request (byIndex index (service.meetings start past))
          ((service.machine start).run past).state performed.change := by
  constructor
  · rintro inTurn performed index made rfl
    rcases found : ((service.machine start).run past).tasks[index]? with _ | ⟨request, routine⟩
    · rw [service.step_of_none found] at made
      cases made
    · obtain ⟨pending, rfl⟩ := service.performed_of_step found made
      refine inTurn (index, _, performed.change) ?_ _ found
      rw [service.landing_step found, pending]
      exact List.mem_singleton_self _
  · intro every landed logged task found
    obtain ⟨performed, made, state, change⟩ := service.performed_of_landing logged
    cases event with
    | arrive request => cases made
    | step index =>
      have place := service.place_of_landing logged
      obtain ⟨-, request⟩ := service.performed_of_step (place ▸ found) made
      have undisturbed := every performed index made rfl
      rwa [request, state, change, ← place] at undisturbed

/-- When each change of every request is good where it lands undisturbed, so is that of a step in turn. -/
theorem good_of_inTurn_step {event : Event Request}
    (inv : ∀ earlier, earlier <+: past → Inv ((service.machine start).run earlier).state)
    (serves : ∀ request, (service.serve request).Minds service.perform Inv
      (fun trail s change => undisturbed request trail s change → good request s change) [])
    (inTurn : service.InTurn undisturbed start past event) {performed : Performed Write Request}
    (made : (service.step ((service.machine start).run past) event).2 = some performed) :
    good performed.request ((service.machine start).run past).state performed.change := by
  have proper := inTurn_iff_performed.mp (inTurn_of_minds event inv serves)
  cases event with
  | arrive request => cases made
  | step index => exact proper performed index made rfl (inTurn_iff_performed.mp inTurn performed index made rfl)

/-- So are those of a run whose steps are all in turn. -/
theorem good_of_inTurn {inputs : List (Event Request)}
    (inv : ∀ past, past <+: inputs → Inv ((service.machine start).run past).state)
    (serves : ∀ request, (service.serve request).Minds service.perform Inv
      (fun trail s change => undisturbed request trail s change → good request s change) [])
    (every : EveryStep (service.InTurn undisturbed start) inputs) :
    EveryStep (fun past event => ∀ performed,
      (service.step ((service.machine start).run past) event).2 = some performed →
      good performed.request ((service.machine start).run past).state performed.change) inputs := by
  intro past event later split performed made
  have before : past <+: inputs := ⟨event :: later, split.symm⟩
  exact good_of_inTurn_step good (fun earlier front => inv earlier (front.trans before)) serves
    (every past event later split) made

/-- So is each that a request has landed in such a run. -/
theorem good_of_landed {inputs : List (Event Request)}
    (inv : ∀ past, past <+: inputs → Inv ((service.machine start).run past).state)
    (serves : ∀ request, (service.serve request).Minds service.perform Inv
      (fun trail s change => undisturbed request trail s change → good request s change) [])
    (every : EveryStep (service.InTurn undisturbed start) inputs) {index : Nat} {request : Request}
    {routine : Routine State Write Reply Answer}
    (found : ((service.machine start).run inputs).tasks[index]? = some (request, routine)) {s : State}
    {change : Write} (landed : (s, change) ∈ byIndex index (service.landings start inputs)) :
    good request s change := by
  obtain ⟨past, event, later, split, logged⟩ := step_of_landing (mem_of_byIndex landed)
  have before : past <+: inputs := ⟨event :: later, split.symm⟩
  obtain ⟨request', earlier, stands⟩ := task_of_landing logged
  obtain rfl := request_of_front before stands found
  have proper := inTurn_of_minds event (fun earlier front => inv earlier (front.trans before)) serves
  exact proper _ logged _ stands (every past event later split _ logged _ stands)

end Service
