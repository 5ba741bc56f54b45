import CoopSpaces.Lib.Races
import CoopSpaces.Server.MfaFactors

namespace CoopSpaces

inductive TotpRequest (Uuid : Type)
  | verify (userId : Uuid) (email : String) (code : Option String)
  | tick (micros : Nat)

/-- The logins that present a code, among each other. -/
def totpService {Uuid : Type} [DecidableEq Uuid] (rules : MfaRules) :
    Service (MfaTables Uuid) (MfaStatement Uuid) (Except DbError Nat) (Except ApiError Unit) (TotpRequest Uuid) where
  perform := MfaTables.perform
  serve
    | .verify userId email code => MfaRoutine.verifyTotpPath rules userId email code
    | .tick micros => .write (.tick micros) fun _ => .done (.ok ())

namespace MfaTables
variable {Uuid : Type} [DecidableEq Uuid] (w : MfaTables Uuid)

/-- The last step an authenticator's code was taken for. -/
def lastUsedStep (id : Uuid) : Option Int := (w.totp.find? fun row => row.id = id).bind (·.lastUsedStep)

/-- The step that a statement takes a code of this authenticator for. -/
def takes (id : Uuid) : MfaStatement Uuid → Option Int
  | .updateTotpLastUsedStep other step => if other = id ∧ (w.totp.any fun row => row.id = id) then some step else none
  | _ => none

/-- No two authenticators have one id: it is the key of their table. -/
def Keyed : Prop := (w.totp.map (·.id)).Nodup

end MfaTables

/-- Since `t`, a code of the authenticator has been taken for the step of this one, or for a later one. -/
def MfaStatement.Overtaken {Uuid : Type} [DecidableEq Uuid] (change : MfaStatement Uuid) (t s : MfaTables Uuid) :
    Prop :=
  match change with
  | .updateTotpLastUsedStep id step =>
    t.lastUsedStep id ≠ s.lastUsedStep id ∧ ((s.lastUsedStep id).any fun last => step ≤ last) = true
  | _ => False

instance {Uuid : Type} [DecidableEq Uuid] (change : MfaStatement Uuid) (t s : MfaTables Uuid) :
    Decidable (change.Overtaken t s) :=
  match change with
  | .updateTotpLastUsedStep .. => inferInstanceAs (Decidable (_ ∧ _))
  | .beginTotpSetup .. | .finalizeTotpConfirmation .. | .deleteUserTotp .. | .insertUserWebauthn _
  | .deleteUserWebauthn .. | .setUserMfaEnrolled .. | .resetUserMfa _ | .tick _ => .isFalse id

section Runs
variable {Uuid : Type} [DecidableEq Uuid] (rules : MfaRules) (start : MfaTables Uuid)

abbrev TotpEvent (Uuid : Type) := Service.Event (TotpRequest Uuid)

/-- The statements that have run, each with the state it found. -/
def totpLog (past : List (TotpEvent Uuid)) : List (Nat × MfaTables Uuid × MfaStatement Uuid) :=
  ((totpService rules).machine start).history (totpService rules).landing past

/-- The steps for which a code of the authenticator has been taken, with the one that was recorded at first. -/
def acceptedSteps (past : List (TotpEvent Uuid)) (id : Uuid) : List Int :=
  (start.lastUsedStep id).toList ++ (totpLog rules start past).filterMap fun entry => entry.2.1.takes id entry.2.2

def totpTables (past : List (TotpEvent Uuid)) : MfaTables Uuid := (((totpService rules).machine start).run past).state

/-- The recorded step never goes back, and is never lost. -/
def NeverDecreases (events : List (TotpEvent Uuid)) : Prop :=
  ∀ earlier later, earlier <+: later → later <+: events →
    ∀ id step, (totpTables rules start earlier).lastUsedStep id = some step →
    ∃ now, (totpTables rules start later).lastUsedStep id = some now ∧ step ≤ now

/-- Between the listing of the authenticators and the update that takes a code, no other takes one for that step or a
later one. -/
abbrev InTurn (past : List (TotpEvent Uuid)) (event : TotpEvent Uuid) : Prop :=
  (totpService rules).InTurn (fun _ trail s change => ∀ t ∈ Routine.Trail.found trail, ¬ change.Overtaken t s)
    start past event

/-- A code that is taken is still of a later step than the one recorded as it is taken. -/
def TakesLater (past : List (TotpEvent Uuid)) (event : TotpEvent Uuid) : Prop :=
  ∀ entry ∈ (totpService rules).landing (((totpService rules).machine start).run past) event,
    ∀ id step, entry.2.1.takes id entry.2.2 = some step → ∀ last, entry.2.1.lastUsedStep id = some last → last < step

end Runs

/-- What a verification or the passing of time changes. -/
def MfaStatement.OfLogin {Uuid : Type} : MfaStatement Uuid → Prop
  | .updateTotpLastUsedStep _ _ => True
  | .tick _ => True
  | _ => False

namespace MfaTables
variable {Uuid : Type} [DecidableEq Uuid] {w : MfaTables Uuid}

theorem takes_update (other : Uuid) (step : Int) (id : Uuid) : w.takes id (.updateTotpLastUsedStep other step) =
    if other = id ∧ (w.totp.any fun row => row.id = id) then some step else none := rfl

theorem lastUsedStep_updateTotp (other : Uuid) (step : Int) (id : Uuid) :
    (w.updateTotp (fun row => row.id = other) fun row => { row with lastUsedStep := some step }).1.lastUsedStep id =
      (w.takes id (.updateTotpLastUsedStep other step)).or (w.lastUsedStep id) := by
  unfold updateTotp
  rw [takes_update]
  by_cases found : (w.totp.any fun row => row.id = other) = true
  · rw [if_pos found]
    unfold lastUsedStep
    rw [List.find?_map]
    have sameKey : ((fun row : UserMfaTotp Uuid => decide (row.id = id)) ∘
        fun row => if decide (row.id = other) = true then { row with lastUsedStep := some step } else row) =
        fun row => decide (row.id = id) := by
      funext row
      simp only [Function.comp_apply]
      split
      · rfl
      · rfl
    rw [sameKey]
    by_cases same : other = id
    · subst same
      rw [if_pos ⟨rfl, found⟩]
      obtain ⟨row, member, isIt⟩ := List.any_eq_true.mp found
      cases search : w.totp.find? fun row => decide (row.id = other) with
      | none => exact absurd isIt (List.find?_eq_none.mp search row member)
      | some first =>
        have named := List.find?_some search
        rw [Option.map_some, if_pos named]
        rfl
    · rw [if_neg fun both => same both.1, Option.none_or]
      cases search : w.totp.find? fun row => decide (row.id = id) with
      | none => rfl
      | some first =>
        have named : first.id = id := of_decide_eq_true (List.find?_some search :)
        have unlike : ¬ (decide (first.id = other)) = true :=
          fun isOther => same ((of_decide_eq_true isOther).symm.trans named)
        rw [Option.map_some, if_neg unlike]
  · have none_ : ¬ (other = id ∧ (w.totp.any fun row => row.id = id) = true) := by
      rintro ⟨rfl, some_⟩
      exact found some_
    rw [if_neg found, if_neg none_, Option.none_or]

theorem lastUsedStep_perform {change : MfaStatement Uuid} (ofLogin : change.OfLogin) (id : Uuid) :
    (w.perform change).1.lastUsedStep id = (w.takes id change).or (w.lastUsedStep id) := by
  cases change with
  | updateTotpLastUsedStep other step => exact lastUsedStep_updateTotp other step id
  | tick micros => rfl
  | _ => cases ofLogin

end MfaTables

section Runs
variable {Uuid : Type} [DecidableEq Uuid] {rules : MfaRules} {start : MfaTables Uuid}

omit [DecidableEq Uuid] in
theorem meets_verifyTotpRows (email code : String) (replayed : Bool) (rows : List (UserMfaTotp Uuid)) :
    (MfaRoutine.verifyTotpRows rules email code replayed rows).Meets (fun _ => True) MfaStatement.OfLogin
    fun _ => True := by
  induction rows generalizing replayed with
  | nil => trivial
  | cons row rest ih =>
    intro w _
    beta_reduce
    split
    · exact ih replayed
    · split
      · exact ih true
      · refine ⟨trivial, fun reply => ?_⟩
        cases reply with
        | error e => trivial
        | ok n => trivial

theorem meets_totpService (request : TotpRequest Uuid) :
    ((totpService rules).serve request).Meets (fun _ => True) MfaStatement.OfLogin fun _ => True := by
  cases request with
  | verify userId email code =>
    show (MfaRoutine.verifyTotpPath rules userId email code).Meets _ _ _
    unfold MfaRoutine.verifyTotpPath
    split
    · trivial
    · intro w _
      dsimp only
      split
      · trivial
      · exact meets_verifyTotpRows email _ false _
  | tick micros => exact ⟨trivial, fun _ => trivial⟩

theorem totpLog_snoc (past : List (TotpEvent Uuid)) (event : TotpEvent Uuid) :
    totpLog rules start (past ++ [event]) =
      totpLog rules start past ++ (totpService rules).landing (((totpService rules).machine start).run past) event :=
  Machine.history_snoc _ _ past event

theorem totpTables_snoc (past : List (TotpEvent Uuid)) (event : TotpEvent Uuid) :
    totpTables rules start (past ++ [event]) =
    ((totpService rules).step (((totpService rules).machine start).run past) event).1.state :=
  congrArg Service.Pool.state (Machine.run_snoc _ past event)

/-- A step of the schedule records the step it takes a code for, and nothing else. -/
theorem totp_snoc (past : List (TotpEvent Uuid)) (event : TotpEvent Uuid) (id : Uuid) :
    let landed := (totpService rules).landing (((totpService rules).machine start).run past) event
    ((∀ entry ∈ landed, entry.2.1.takes id entry.2.2 = none) ∧
        acceptedSteps rules start (past ++ [event]) id = acceptedSteps rules start past id ∧
        (totpTables rules start (past ++ [event])).lastUsedStep id = (totpTables rules start past).lastUsedStep id) ∨
      ∃ index change step, landed = [(index, totpTables rules start past, change)] ∧
        (totpTables rules start past).takes id change = some step ∧
        acceptedSteps rules start (past ++ [event]) id = acceptedSteps rules start past id ++ [step] ∧
        (totpTables rules start (past ++ [event])).lastUsedStep id = some step := by
  intro landed
  have confined := (totpService rules).confined_run (fun request => meets_totpService request) start past
  have steps : acceptedSteps rules start (past ++ [event]) id = acceptedSteps rules start past id ++
      landed.filterMap fun entry => entry.2.1.takes id entry.2.2 := by
    simp only [acceptedSteps, totpLog_snoc, List.filterMap_append, List.append_assoc, landed]
  rw [steps, totpTables_snoc]
  rcases (totpService rules).landing_cases (((totpService rules).machine start).run past) event with
    ⟨silent, same⟩ | ⟨index, change, logged, made, performed, some_, rfl⟩
  · have nothing : landed = [] := silent
    rw [nothing, same]
    exact .inl ⟨fun entry member => (nomatch member), List.append_nil _, rfl⟩
  · have one : landed = [(index, totpTables rules start past, performed.change)] := logged
    have ofLogin := confined.allowed_of_performed some_
    have recorded := MfaTables.lastUsedStep_perform (w := totpTables rules start past) ofLogin id
    have after : ((totpService rules).step (((totpService rules).machine start).run past) event).1.state =
        ((totpTables rules start past).perform performed.change).1 := made
    rw [one, after, recorded]
    rcases taken : (totpTables rules start past).takes id performed.change with _ | step
    · refine .inl ⟨?_, ?_, Option.none_or⟩
      · intro entry member
        rw [List.mem_singleton.mp member]
        exact taken
      · simp [taken]
    · refine .inr ⟨index, performed.change, step, rfl, taken, ?_, Option.some_or⟩
      simp [taken]

theorem lastUsedStep_eq (past : List (TotpEvent Uuid)) (id : Uuid) :
    (totpTables rules start past).lastUsedStep id = (acceptedSteps rules start past id).getLast? := by
  induction past using List.reverseRecOn with
  | nil =>
    have none_ : acceptedSteps rules start [] id = (start.lastUsedStep id).toList := List.append_nil _
    rw [none_]
    show start.lastUsedStep id = _
    rcases start.lastUsedStep id with _ | step
    · rfl
    · rfl
  | append_singleton past event ih =>
    rcases totp_snoc past event id with ⟨-, same, still⟩ | ⟨_, _, step, -, -, more, now⟩
    · rw [same, still, ih]
    · rw [more, now, List.getLast?_concat]

theorem acceptedSteps_extends {earlier later : List (TotpEvent Uuid)} (front : earlier <+: later) (id : Uuid) :
    acceptedSteps rules start earlier id <+: acceptedSteps rules start later id := by
  obtain ⟨rest, rfl⟩ := front
  induction rest using List.reverseRecOn with
  | nil => rw [List.append_nil]
  | append_singleton rest event ih =>
    rw [← List.append_assoc]
    rcases totp_snoc (earlier ++ rest) event id with ⟨-, same, -⟩ | ⟨_, _, step, -, -, more, -⟩
    · rw [same]
      exact ih
    · rw [more]
      exact ih.trans (List.prefix_append _ _)

theorem forall_lt_iff_getLast? {steps : List Int} (sorted : steps.Pairwise (· < ·)) {step : Int} :
    (∀ x ∈ steps, x < step) ↔ ∀ last, steps.getLast? = some last → last < step := by
  constructor
  · exact fun all last isLast => all last (List.mem_of_getLast? isLast)
  · intro bound x member
    rcases List.eq_nil_or_concat steps with rfl | ⟨front, last, rfl⟩
    · cases member
    · rw [List.concat_eq_append] at bound member sorted
      have below := bound last List.getLast?_concat
      rcases List.mem_append.mp member with early | final
      · have less := (List.pairwise_append.mp sorted).2.2 x early last (List.mem_singleton_self last)
        omega
      · rw [List.mem_singleton.mp final]
        exact below

theorem pairwise_snoc_iff {steps : List Int} {step : Int} : (steps ++ [step]).Pairwise (· < ·) ↔
    steps.Pairwise (· < ·) ∧ ∀ last, steps.getLast? = some last → last < step := by
  rw [List.pairwise_append]
  constructor
  · rintro ⟨sorted, -, below⟩
    exact ⟨sorted, fun last isLast => below last (List.mem_of_getLast? isLast) step (List.mem_singleton_self step)⟩
  · rintro ⟨sorted, above⟩
    refine ⟨sorted, List.pairwise_singleton _ _, fun x member y isStep => ?_⟩
    rw [List.mem_singleton.mp isStep]
    exact (forall_lt_iff_getLast? sorted).mpr above x member

theorem acceptedSteps_nil_sorted (id : Uuid) : (acceptedSteps rules start [] id).Pairwise (· < ·) := by
  have recorded : acceptedSteps rules start [] id = (start.lastUsedStep id).toList := List.append_nil _
  rw [recorded]
  rcases start.lastUsedStep id with _ | step
  · exact .nil
  · exact List.pairwise_singleton _ _

theorem takesLater_iff_sorted (events : List (TotpEvent Uuid)) : EveryStep (TakesLater rules start) events ↔
    ∀ id, (acceptedSteps rules start events id).Pairwise (· < ·) := by
  induction events using List.reverseRecOn with
  | nil => exact iff_of_true EveryStep.nil acceptedSteps_nil_sorted
  | append_singleton past event ih =>
    rw [EveryStep.snoc_iff, ih]
    constructor
    · rintro ⟨before, later⟩ id
      rcases totp_snoc past event id with ⟨-, same, -⟩ | ⟨index, change, step, landed, taken, more, -⟩
      · rw [same]
        exact before id
      · have entry := later _ (landed ▸ List.mem_singleton_self _) id step taken
        rw [lastUsedStep_eq] at entry
        rw [more, pairwise_snoc_iff]
        exact ⟨before id, entry⟩
    · intro sorted
      have before : ∀ id, (acceptedSteps rules start past id).Pairwise (· < ·) := fun id =>
        (sorted id).sublist (acceptedSteps_extends (List.prefix_append past [event]) id).sublist
      refine ⟨before, fun entry member id step taken last recorded => ?_⟩
      rcases totp_snoc past event id with ⟨none_, -⟩ | ⟨index, change, other, landed, taken', more, -⟩
      · rw [none_ entry member] at taken
        cases taken
      · rw [landed] at member
        obtain rfl := List.mem_singleton.mp member
        obtain rfl := Option.some.inj (taken'.symm.trans taken)
        have whole := sorted id
        rw [more, pairwise_snoc_iff] at whole
        have held : (totpTables rules start past).lastUsedStep id = some last := recorded
        rw [lastUsedStep_eq] at held
        exact whole.2 last held

theorem acceptedOnce_iff_sorted (events : List (TotpEvent Uuid)) :
    ((∀ id, (acceptedSteps rules start events id).Nodup) ∧ NeverDecreases rules start events) ↔
      ∀ id, (acceptedSteps rules start events id).Pairwise (· < ·) := by
  constructor
  · rintro ⟨once, forward⟩ id
    have upward : ∀ past, past <+: events → (acceptedSteps rules start past id).Pairwise (· < ·) := by
      intro past
      induction past using List.reverseRecOn with
      | nil => exact fun _ => acceptedSteps_nil_sorted id
      | append_singleton past event ih =>
        intro front
        have shorter : past <+: past ++ [event] := List.prefix_append past [event]
        have before := ih (shorter.trans front)
        rcases totp_snoc past event id with ⟨-, same, -⟩ | ⟨_, _, step, -, -, more, now⟩
        · rw [same]
          exact before
        · rw [more, pairwise_snoc_iff]
          refine ⟨before, fun last isLast => ?_⟩
          obtain ⟨next, isNext, le⟩ :=
            forward past (past ++ [event]) shorter front id last (by rw [lastUsedStep_eq, isLast])
          obtain rfl := Option.some.inj (now.symm.trans isNext)
          have apart : last ≠ step := by
            rintro rfl
            have nodup := (acceptedSteps_extends front id).sublist.nodup (once id)
            rw [more, List.nodup_append] at nodup
            exact nodup.2.2 last (List.mem_of_getLast? isLast) last (List.mem_singleton_self last) rfl
          omega
    exact upward events List.prefix_rfl
  · intro sorted
    refine ⟨fun id => (sorted id).imp fun less => by omega, ?_⟩
    intro earlier later shorter front id step recorded
    have inFront := @acceptedSteps_extends _ _ rules start _ _ shorter id
    have steps := (sorted id).sublist (acceptedSteps_extends front id).sublist
    rw [lastUsedStep_eq] at recorded ⊢
    have member := inFront.subset (List.mem_of_getLast? recorded)
    rcases List.eq_nil_or_concat (acceptedSteps rules start later id) with none_ | ⟨rest, last, split⟩
    · rw [none_] at member
      cases member
    · rw [List.concat_eq_append] at split
      rw [split] at member steps ⊢
      refine ⟨last, List.getLast?_concat, ?_⟩
      rcases List.mem_append.mp member with early | final
      · have less := (List.pairwise_append.mp steps).2.2 step early last (List.mem_singleton_self last)
        omega
      · rw [List.mem_singleton.mp final]

theorem lastUsedStep_of_keyed {w : MfaTables Uuid} (keyed : w.Keyed) {row : UserMfaTotp Uuid}
    (stored : row ∈ w.totp) : w.lastUsedStep row.id = row.lastUsedStep := by
  unfold MfaTables.lastUsedStep
  cases search : w.totp.find? fun other => decide (other.id = row.id) with
  | none => exact absurd (decide_eq_true rfl) (List.find?_eq_none.mp search row stored)
  | some first =>
    have named : first.id = row.id := of_decide_eq_true (List.find?_some search :)
    rw [List.inj_on_of_nodup_map keyed (List.mem_of_find?_eq_some search) stored named]
    rfl

theorem keyed_perform {w : MfaTables Uuid} {change : MfaStatement Uuid} (ofLogin : change.OfLogin) (keyed : w.Keyed) :
    (w.perform change).1.Keyed := by
  cases change with
  | updateTotpLastUsedStep id step =>
    simp only [MfaTables.perform, MfaTables.updateTotp]
    split
    · show ((w.totp.map _).map _).Nodup
      have ids : ((w.totp.map fun row => if row.id = id then { row with lastUsedStep := some step } else row).map
        (·.id)) =
          w.totp.map (·.id) := by
        rw [List.map_map]
        refine List.map_congr_left fun row _ => ?_
        rw [Function.comp_apply]
        split <;> rfl
      have same : (w.totp.map (·.id)).Nodup := keyed
      simpa [ids] using same
    · exact keyed
  | tick micros => exact keyed
  | _ => cases ofLogin

theorem keyed_run (keyed : start.Keyed) (past : List (TotpEvent Uuid)) : (totpTables rules start past).Keyed := by
  induction past using List.reverseRecOn with
  | nil => exact keyed
  | append_singleton past event ih =>
    have confined := (totpService rules).confined_run (fun request => meets_totpService request) start past
    rw [totpTables_snoc]
    rcases (totpService rules).step_state (((totpService rules).machine start).run past) event with
      ⟨-, same⟩ | ⟨performed, some_, made⟩
    · rw [same]
      exact ih
    · rw [made]
      exact keyed_perform (confined.allowed_of_performed some_) ih

theorem later_of_fresh {w s : MfaTables Uuid} (keyed : w.Keyed) {row : UserMfaTotp Uuid} (stored : row ∈ w.totp)
    {step : Int} (unused : ¬ (row.lastUsedStep.any fun last => decide (step ≤ last)) = true)
    (fresh : ¬ (MfaStatement.updateTotpLastUsedStep row.id step).Overtaken w s) {last : Int}
    (recorded : s.lastUsedStep row.id = some last) : last < step := by
  by_contra notLater
  have reached : ((s.lastUsedStep row.id).any fun last => decide (step ≤ last)) = true := by
    rw [recorded]
    exact decide_eq_true (not_lt.mp notLater)
  refine fresh ⟨fun still => unused ?_, reached⟩
  rw [← lastUsedStep_of_keyed keyed stored, still]
  exact reached

/-- Of the changes of a verification: each takes a later step, if it has not been overtaken. -/
abbrev StepAdvances (trail : Routine.Trail (MfaTables Uuid) (MfaStatement Uuid)) (s : MfaTables Uuid)
    (change : MfaStatement Uuid) : Prop :=
  (∀ t ∈ Routine.Trail.found trail, ¬ change.Overtaken t s) →
    ∀ id step, s.takes id change = some step → ∀ last, s.lastUsedStep id = some last → last < step

theorem minds_verifyTotpRows (email code : String) {w : MfaTables Uuid} (keyed : w.Keyed) (replayed : Bool)
    (rows : List (UserMfaTotp Uuid)) (listed : ∀ row ∈ rows, row ∈ w.totp)
    {trail : Routine.Trail (MfaTables Uuid) (MfaStatement Uuid)} (found : w ∈ Routine.Trail.found trail) :
    (MfaRoutine.verifyTotpRows rules email code replayed rows).Minds MfaTables.perform MfaTables.Keyed
    StepAdvances trail := by
  induction rows generalizing replayed trail with
  | nil => trivial
  | cons row rest ih =>
    intro now _
    have still : w ∈ Routine.Trail.found (trail ++ [(now, none)]) := by
      rw [Routine.Trail.found_append]
      exact List.mem_append_left _ found
    have others := fun replayed =>
      ih replayed (fun other member => listed other (List.mem_cons_of_mem _ member)) still
    beta_reduce
    split
    · exact others replayed
    next step fits =>
      split
      · exact others true
      next unused =>
        refine fun s _ => ⟨fun fresh id taken takes last recorded => ?_, ?_⟩
        · rw [MfaTables.takes_update] at takes
          split at takes
          next isIt =>
            obtain rfl := Option.some.inj takes
            obtain rfl := isIt.1
            exact later_of_fresh keyed (listed row (List.mem_cons_self ..)) unused (fresh w still) recorded
          next => cases takes
        · rcases (s.perform (.updateTotpLastUsedStep row.id step)).2 with e | n <;> trivial

theorem minds_totpService (request : TotpRequest Uuid) :
    ((totpService rules).serve request).Minds MfaTables.perform MfaTables.Keyed StepAdvances [] := by
  cases request with
  | verify userId email code =>
    show (MfaRoutine.verifyTotpPath rules userId email code).Minds _ _ _ _
    unfold MfaRoutine.verifyTotpPath
    split
    · trivial
    · intro w keyed
      dsimp only
      split
      · trivial
      · refine minds_verifyTotpRows email _ keyed false _ (fun row listed => ?_) (List.mem_singleton_self _)
        rcases List.mem_append.mp (List.mem_filter.mp listed).1 with first | second
        · exact (List.mem_filter.mp (List.mem_filter.mp first).1).1
        · exact (List.mem_filter.mp (List.mem_filter.mp second).1).1
  | tick micros => exact fun s _ => ⟨fun _ id step takes => (by cases takes), trivial⟩

/-- Codes are taken for later steps only, exactly as long as none is overtaken between its check and its update. -/
theorem inTurn_iff_takesLater (keyed : start.Keyed) (events : List (TotpEvent Uuid)) :
    EveryStep (InTurn rules start) events ↔ EveryStep (TakesLater rules start) events := by
  constructor
  · intro inTurn past event later split entry landed
    have good := Service.good_of_inTurn (fun _ s change => ∀ id step, s.takes id change = some step →
      ∀ last, s.lastUsedStep id = some last →
        last < step) (fun past _ => keyed_run keyed past) minds_totpService inTurn
      past event later split
    obtain ⟨performed, made, state, change⟩ := Service.performed_of_landing landed
    exact state ▸ change ▸ good performed made
  · intro takesLater past event later split landed there task _ t _ overtaken
    have less := takesLater past event later split landed there
    obtain ⟨index, s, change⟩ := landed
    cases change with
    | updateTotpLastUsedStep id step =>
      obtain ⟨last, recorded, reached⟩ := (Option.any_eq_true ..).mp overtaken.2
      have stored : (s.totp.any fun row => row.id = id) = true := by
        obtain ⟨row, search, -⟩ := Option.bind_eq_some_iff.mp recorded
        exact List.any_eq_true.mpr ⟨row, List.mem_of_find?_eq_some search, (List.find?_some search :)⟩
      have taken : last < step := less id step (if_pos ⟨rfl, stored⟩) last recorded
      have notLess : step ≤ last := of_decide_eq_true reached
      omega
    | _ => cases overtaken

/-- What says yes has recorded a step of one authenticator, and nothing else. -/
def TakesOne (out : Routine.Outcome (MfaTables Uuid) (MfaStatement Uuid) (Except ApiError Unit)) : Prop :=
  out.answer = some (.ok ()) → ∃ s id change step, out.landed = [(s, change)] ∧ s.takes id change = some step

theorem along_verifyTotpRows (email code : String) (replayed : Bool) (rows : List (UserMfaTotp Uuid))
    (last : MfaTables Uuid) :
    (MfaRoutine.verifyTotpRows rules email code replayed rows).Along MfaTables.perform TakesOne [] last := by
  induction rows generalizing replayed last with
  | nil =>
    intro yes
    cases Option.some.inj yes
  | cons row rest ih =>
    intro w
    refine ⟨fun none_ => (nomatch none_), ?_⟩
    beta_reduce
    split
    · exact ih replayed w
    next step _ =>
      split
      · exact ih true w
      · intro s
        refine ⟨fun none_ => (nomatch none_), ?_⟩
        have taken : ∀ n, (s.perform (.updateTotpLastUsedStep row.id step)).2 = .ok n →
            s.takes row.id (.updateTotpLastUsedStep row.id step) = some step := by
          intro n made
          simp only [MfaTables.perform, MfaTables.updateTotp] at made
          split at made
          next found => exact if_pos ⟨rfl, found⟩
          next => cases made
        rcases reply : (s.perform (.updateTotpLastUsedStep row.id step)).2 with e | n
        · intro yes
          cases Option.some.inj yes
        · exact fun _ => ⟨s, row.id, _, step, rfl, taken n reply⟩

theorem along_verifyTotpPath (userId : Uuid) (email : String) (code : Option String) (last : MfaTables Uuid) :
    (MfaRoutine.verifyTotpPath rules userId email code).Along MfaTables.perform TakesOne [] last := by
  unfold MfaRoutine.verifyTotpPath
  split
  · intro yes
    cases Option.some.inj yes
  · intro w
    refine ⟨fun none_ => (nomatch none_), ?_⟩
    dsimp only
    split
    · intro yes
      cases Option.some.inj yes
    · exact along_verifyTotpRows email _ false _ w

/-- Of the requests that verify a code. -/
def VerifyTakesOne : TotpRequest Uuid →
    Routine.Outcome (MfaTables Uuid) (MfaStatement Uuid) (Except ApiError Unit) → Prop
  | .verify _ _ _, out => TakesOne out
  | .tick _, _ => True

theorem taken_of_yes {past : List (TotpEvent Uuid)} {index : Nat} {userId : Uuid} {email : String}
    {code : Option String}
    (yes : (((totpService rules).machine start).run past).answers[index]? =
      some (.verify userId email code, some (.ok ()))) :
    ∃ s id change step, Service.byIndex index (totpLog rules start past) = [(s, change)] ∧
      s.takes id change = some step := by
  have serves : ∀ request : TotpRequest Uuid, ∃ last,
      ((totpService rules).serve request).Along (totpService rules).perform (VerifyTakesOne request) [] last := by
    intro request
    refine ⟨start, ?_⟩
    cases request with
    | verify userId email code => exact along_verifyTotpPath userId email code start
    | tick micros => exact Routine.Along.of_forall (fun _ => trivial) _ _ _
  have along := (totpService rules).along_run serves start past
  obtain ⟨_, ended⟩ := along.along index _ _ (Service.task_of_answers yes)
  exact ended rfl

/-- Verifications take each step of an authenticator once, and never set the recorded step back, exactly as long
as none is overtaken between the listing, which its check for replays goes by, and its update. Each that says yes
has taken a step. -/
theorem totp_taken_once_iff (rules : MfaRules) {start : MfaTables Uuid} (keyed : start.Keyed)
    (events : List (TotpEvent Uuid)) :
    (((∀ id, (acceptedSteps rules start events id).Nodup) ∧ NeverDecreases rules start events) ↔
      EveryStep (InTurn rules start) events) ∧
    ∀ (index : Nat) (userId : Uuid) (email : String) (code : Option String),
      (((totpService rules).machine start).run events).answers[index]? =
        some (.verify userId email code, some (.ok ())) →
        ∃ s id change step, Service.byIndex index (totpLog rules start events) = [(s, change)] ∧
          s.takes id change = some step := by
  refine ⟨?_, fun index userId email code yes => taken_of_yes yes⟩
  rw [acceptedOnce_iff_sorted, inTurn_iff_takesLater keyed, takesLater_iff_sorted]

/-- One code of six digits. -/
def oneCode : MfaRules := ⟨true, true, true, fun _ _ => some fun step => if step = 0 then "123456" else ""⟩

def oneApp : MfaTables Nat := ⟨[⟨1, 2, "secret", some 0, none⟩], [], Table.empty.insert 2 (some 0), 0⟩

/-- Two logins that present the same code. -/
def codeTwice : List (TotpEvent Nat) :=
  [.arrive (.verify 2 "ada@space" (some "123456")), .arrive (.verify 2 "ada@space" (some "123456")), .step 0,
    .step 0, .step 1, .step 1, .step 0, .step 1]

/-- One after the other, the second is refused: a code is taken once. -/
theorem code_taken_once_in_turn :
    let inTurn := [.arrive (.verify 2 "ada@space" (some "123456")), .step 0, .step 0, .step 0,
      .arrive (.verify 2 "ada@space" (some "123456")), .step 1, .step 1, .step 1]
    (∀ id, (acceptedSteps oneCode oneApp inTurn id).Nodup) ∧ NeverDecreases oneCode oneApp inTurn :=
  (totp_taken_once_iff oneCode (by simp [MfaTables.Keyed, oneApp]) _).1.mpr (EveryStep.of_getElem (by decide +kernel))

/-- Both are let in. -/
theorem code_lets_in_twice :
    ¬ (acceptedSteps oneCode oneApp codeTwice 1).Nodup ∧
      (((totpService oneCode).machine oneApp).run codeTwice).answers.map (fun served => served.2.map (·.isOk)) =
        [some true, some true] := by
  decide +kernel

end Runs

end CoopSpaces
