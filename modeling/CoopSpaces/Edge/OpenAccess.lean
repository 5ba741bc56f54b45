import CoopSpaces.Edge.Deliveries

namespace CoopSpaces

/-- How often the unlock of an Open Access door is sent again. -/
def holdRefresh : Int := seconds 30

/-- A hold pulse as it went out: to which door, when, for how long, and when the hold was
then to end. -/
structure Pulse (Uuid : Type) where
  door : Uuid
  sentAt : Int
  ms : Int
  holdEnd : Int
  deriving DecidableEq

namespace Pulse
variable {Uuid : Type}

def ends (p : Pulse Uuid) : Int := p.sentAt + milliseconds p.ms

def Covers (p : Pulse Uuid) (t : Int) : Prop := p.sentAt ≤ t ∧ t < p.ends

instance (p : Pulse Uuid) (t : Int) : Decidable (p.Covers t) := inferInstanceAs (Decidable (_ ∧ _))

/-- The end of the hold came before the full forty-five seconds. -/
def CutShort (p : Pulse Uuid) : Prop := p.holdEnd - p.sentAt < seconds 45

instance (p : Pulse Uuid) : Decidable p.CutShort := inferInstanceAs (Decidable (_ < _))

/-- It was as long as its hold asked for when it was sent. -/
structure Measured (p : Pulse Uuid) : Prop where
  live : p.sentAt < p.holdEnd
  length : holdPulseMs (some p.holdEnd) p.sentAt holdRefresh = some p.ms

theorem Measured.ms_eq {p : Pulse Uuid} (measured : p.Measured) :
    p.ms = max ((min (seconds 45) (p.holdEnd - p.sentAt)) / 1000000) 1 := by
  have live := measured.live
  have length := measured.length
  have remaining : ¬ p.holdEnd - p.sentAt ≤ 0 := by omega
  have margin : holdRefresh + seconds 15 = seconds 45 := rfl
  have nonneg : 0 ≤ min (seconds 45) (p.holdEnd - p.sentAt) := by
    unfold seconds
    omega
  simp only [holdPulseMs, if_neg remaining, margin, numMilliseconds, Int.tdiv_eq_ediv_of_nonneg nonneg] at length
  exact (Option.some.inj length).symm

theorem Measured.ends_le {p : Pulse Uuid} (measured : p.Measured) :
    p.ends ≤ max p.holdEnd (p.sentAt + milliseconds 1) := by
  have live := measured.live
  have ms := measured.ms_eq
  unfold ends milliseconds
  omega

theorem Measured.lt_ends {p : Pulse Uuid} (measured : p.Measured) {t : Int}
    (within : t < p.sentAt + seconds 45) (before : p.CutShort → t + milliseconds 1 ≤ p.holdEnd) : t < p.ends := by
  have live := measured.live
  have ms := measured.ms_eq
  by_cases short : p.CutShort
  · have room := before short
    unfold CutShort at short
    unfold ends milliseconds seconds at *
    omega
  · unfold CutShort at short
    unfold ends milliseconds seconds at *
    omega

end Pulse

/-- Where keys are distinct, the first of the kept entries' values under a key is the entry's own. -/
theorem find?_filterMap_of_nodup {α β K : Type} [DecidableEq K] {key : α → K} {keep : α → Bool} {g : α → Option β}
    {items : List α} (distinct : (items.map key).Nodup) (k : K) :
    ((items.filter keep).filterMap fun a => (g a).map fun b => (key a, b)).find? (fun pair => pair.1 = k) =
      (items.find? fun a => key a = k).bind fun a => if keep a then (g a).map fun b => (k, b) else none := by
  induction items with
  | nil => rfl
  | cons a rest ih =>
    obtain ⟨fresh, others⟩ := List.nodup_cons.mp distinct
    have tail := ih others
    by_cases same : key a = k
    · have absent : (rest.find? fun b => key b = k) = none := by
        rw [List.find?_eq_none]
        intro b member found
        exact fresh (same ▸ of_decide_eq_true found ▸ List.mem_map_of_mem member)
      rw [absent] at tail
      have first : ((a :: rest).find? fun b => key b = k) = some a := List.find?_cons_of_pos (decide_eq_true same)
      rw [first, Option.bind_some]
      cases kept : keep a with
      | false => simpa [kept] using tail
      | true =>
        rcases value : g a with _ | b
        · simpa [kept, value] using tail
        · simp [kept, value, same]
    · have later : ((a :: rest).find? fun b => key b = k) = rest.find? fun b => key b = k :=
        List.find?_cons_of_neg (by simpa using same)
      rw [later]
      cases kept : keep a with
      | false => simpa [kept] using tail
      | true => rcases value : g a with _ | b <;> simpa [kept, value, same] using tail

section
variable {Uuid Amps : Type} [DecidableEq Uuid]

/-- No two entries are of one id, as the server's keys have it. -/
def Policy.Distinct (p : Policy Uuid) : Prop := (p.entries.map (·.id)).Nodup

/-- When the hold of an enabled door ends, if it has one. -/
def Policy.heldEnd (p : Policy Uuid) (door : Uuid) : Option Int :=
  (p.entries.find? fun e => e.id = door).bind fun e => if e.enabled then e.holdUntil else none

def TickAction.pulseFor (door : Uuid) : TickAction Uuid → Option Int
  | .hold other ms => if other = door then some ms else none
  | .lease _ => none

/-- A pulse is due for a door whose last is a refresh old, or that had none. -/
def due (sent : Table Uuid Int) (door : Uuid) (now refresh : Int) : Bool :=
  (sent door).all fun last => decide (refresh ≤ now - last)

/-- The length of the pulse that goes out to one door, if one does. -/
def pulseSent (held : List (Uuid × Int)) (sent : Table Uuid Int) (door : Uuid) (now refresh : Int) : Option Int :=
  (held.find? fun pair => pair.1 = door).bind fun pair => if due sent door now refresh then some pair.2 else none

/-- What is sent to one door, and what is remembered of it, whatever is sent to the others. -/
theorem sendHolds_door {now refresh : Int} (positive : 0 < refresh) (held : List (Uuid × Int)) (sent : Table Uuid Int)
    (door : Uuid) :
    let sends := ResourceCache.sendHolds now refresh held sent
    let pulse := pulseSent held sent door now refresh
    sends.1 door = (pulse.map fun _ => now).or (sent door) ∧ sends.2.filterMap (·.pulseFor door) = pulse.toList := by
  induction held generalizing sent with
  | nil => exact ⟨rfl, rfl⟩
  | cons pair rest ih =>
    obtain ⟨other, ms⟩ := pair
    unfold ResourceCache.sendHolds
    by_cases same : other = door
    · subst same
      have first : ((other, ms) :: rest).find? (fun pair => pair.1 = other) = some (other, ms) := by simp
      by_cases isDue : due sent other now refresh = true
      · have again : due (sent.insert other now) other now refresh = false := by
          simp only [due, Table.insert_self, Option.all_some, decide_eq_false_iff_not]
          omega
        have sends := ih (sent.insert other now)
        have nothing : pulseSent rest (sent.insert other now) other now refresh = none := by
          unfold pulseSent
          simp [again]
        rw [nothing] at sends
        have pulse : pulseSent ((other, ms) :: rest) sent other now refresh = some ms := by
          unfold pulseSent
          rw [first, Option.bind_some, if_pos isDue]
        rw [pulse, if_pos (show (sent other).all (fun last => decide (refresh ≤ now - last)) = true from isDue)]
        refine ⟨by simpa using sends.1, ?_⟩
        simpa [TickAction.pulseFor] using sends.2
      · have sends := ih sent
        have nothing : ∀ held, pulseSent held sent other now refresh = none := by
          intro held
          unfold pulseSent
          simp [isDue]
        rw [nothing] at sends ⊢
        rw [if_neg (show ¬ (sent other).all (fun last => decide (refresh ≤ now - last)) = true from isDue)]
        exact sends
    · have later : ∀ sent, pulseSent ((other, ms) :: rest) sent door now refresh =
          pulseSent rest sent door now refresh := by
        intro sent
        unfold pulseSent
        rw [List.find?_cons_of_neg (by simpa using same)]
      rw [later]
      split
      · have sends := ih (sent.insert other now)
        have unseen : (sent.insert other now) door = sent door := Table.insert_of_ne _ _ (Ne.symm same)
        have samePulse : pulseSent rest (sent.insert other now) door now refresh =
            pulseSent rest sent door now refresh := by
          unfold pulseSent due
          rw [unseen]
        rw [samePulse, unseen] at sends
        refine ⟨sends.1, ?_⟩
        simpa [TickAction.pulseFor, same] using sends.2
      · exact ih sent

variable {c : ResourceCache Uuid Amps}

theorem find?_holdPulsesAt (distinct : c.policy.Distinct) (door : Uuid) (now refresh : Int) :
    (c.holdPulsesAt now refresh).find? (fun pair => pair.1 = door) =
      (holdPulseMs (c.policy.heldEnd door) now refresh).map fun ms => (door, ms) := by
  unfold ResourceCache.holdPulsesAt Policy.heldEnd
  rw [find?_filterMap_of_nodup distinct]
  generalize (c.policy.entries.find? fun e => decide (e.id = door)) = entry
  cases entry with
  | none => rfl
  | some e =>
    rw [Option.bind_some, Option.bind_some]
    split <;> rfl

/-- A tick and one door: it is sent a pulse as long as its hold asks for when one is due, and
remembered from then on; a door that is not held is forgotten. -/
theorem tick_door (distinct : c.policy.Distinct) (door : Uuid) (now ttl moduleTimeout : Int) :
    let after := c.tick now ttl moduleTimeout holdRefresh
    let length := holdPulseMs (c.policy.heldEnd door) now holdRefresh
    let pulse := if due c.holdSent door now holdRefresh then length else none
    after.1.holdSent door = (pulse.map fun _ => now).or (if length.isSome then c.holdSent door else none) ∧
      after.2.filterMap (·.pulseFor door) = pulse.toList := by
  intro after length pulse
  have found : (c.holdPulsesAt now holdRefresh).find? (fun pair => pair.1 = door) = length.map fun ms => (door, ms) :=
    find?_holdPulsesAt distinct door now holdRefresh
  have positive : 0 < holdRefresh := by decide
  let kept := c.holdSent.retain fun other _ => (c.holdPulsesAt now holdRefresh).any fun h => h.1 == other
  have listed : (c.holdPulsesAt now holdRefresh).any (fun h => h.1 == door) = length.isSome := by
    have search : ((c.holdPulsesAt now holdRefresh).find? fun h => h.1 = door).isSome =
        (c.holdPulsesAt now holdRefresh).any fun h => h.1 == door := List.isSome_find?
    rw [found, Option.isSome_map] at search
    exact search.symm
  have remembered : kept door = if length.isSome then c.holdSent door else none := by
    unfold kept
    rw [Table.retain_apply]
    simp only [listed]
    cases length.isSome with
    | false => cases c.holdSent door <;> rfl
    | true => cases c.holdSent door <;> rfl
  have sends := @sendHolds_door Uuid _ now holdRefresh positive (c.holdPulsesAt now holdRefresh) kept door
  have samePulse : pulseSent (c.holdPulsesAt now holdRefresh) kept door now holdRefresh = pulse := by
    unfold pulseSent pulse
    rw [found]
    rcases isLength : length with _ | ms
    · simp
    · have same : kept door = c.holdSent door := by rw [remembered, isLength]; rfl
      rw [Option.map_some, Option.bind_some]
      unfold due
      rw [same]
  have leases : ∀ actions : List LeaseAction, (actions.map TickAction.lease).filterMap (·.pulseFor door) = [] := by
    intro actions
    rw [List.filterMap_map]
    exact List.filterMap_eq_nil_iff.mpr fun _ _ => rfl
  obtain ⟨sentNow, pulses⟩ := sends
  rw [samePulse, remembered] at sentNow
  rw [samePulse] at pulses
  refine ⟨sentNow, ?_⟩
  unfold after ResourceCache.tick
  rw [List.filterMap_append, leases, List.nil_append]
  exact pulses

end

/-- What happens to an edge over time: a payload is delivered, or the loop ticks. -/
inductive HoldEvent (Uuid : Type)
  | deliver (d : Delivery Uuid)
  | tick (ttl moduleTimeout : Int)

namespace HoldEvent
variable {Uuid Amps : Type} [DecidableEq Uuid]

def pulseOf (c : ResourceCache Uuid Amps) (now : Int) : TickAction Uuid → Option (Pulse Uuid)
  | .hold door ms => some ⟨door, now, ms, (c.policy.heldEnd door).getD now⟩
  | .lease _ => none

/-- The pulses a step sends out. -/
def pulses (c : ResourceCache Uuid Amps) : Int × HoldEvent Uuid → List (Pulse Uuid)
  | (_, .deliver _) => []
  | (now, .tick ttl moduleTimeout) => (c.tick now ttl moduleTimeout holdRefresh).2.filterMap (pulseOf c now)

def lastPulse (log : List (Pulse Uuid)) (door : Uuid) : Option (Pulse Uuid) :=
  (log.filter fun p => p.door = door).getLast?

def lastTick (events : List (Int × HoldEvent Uuid)) : Option Int :=
  (events.filterMap fun
    | (_, .deliver _) => none
    | (now, .tick _ _) => some now).getLast?

/-- Events stand in the order of their instants. -/
def InOrder (events : List (Int × HoldEvent Uuid)) : Prop := events.Pairwise fun a b => a.1 ≤ b.1

variable {events : List (Int × HoldEvent Uuid)} {past : List (Int × HoldEvent Uuid)} {c : ResourceCache Uuid Amps}

omit [DecidableEq Uuid] in
theorem lastTick_mem {t : Int} (last : lastTick events = some t) : ∃ event ∈ events, event.1 = t := by
  have member := List.mem_of_getLast? last
  obtain ⟨⟨now, event⟩, inEvents, ticks⟩ := List.mem_filterMap.mp member
  cases event with
  | deliver d => cases ticks
  | tick ttl moduleTimeout => exact ⟨_, inEvents, Option.some.inj ticks⟩

theorem filter_pulses (c : ResourceCache Uuid Amps) (now : Int) (actions : List (TickAction Uuid)) (door : Uuid) :
    (actions.filterMap (pulseOf c now)).filter (fun p => p.door = door) =
      (actions.filterMap (·.pulseFor door)).map fun ms => ⟨door, now, ms, (c.policy.heldEnd door).getD now⟩ := by
  induction actions with
  | nil => rfl
  | cons action rest ih =>
    cases action with
    | lease action => exact ih
    | hold other ms =>
      by_cases same : other = door
      · subst same
        simpa [pulseOf, TickAction.pulseFor] using ih
      · simpa [pulseOf, TickAction.pulseFor, same] using ih

/-- Since the last tick a door is covered by the pulse it was last sent, and if that was cut
short its hold ends no later. -/
structure InHand (past : List (Int × HoldEvent Uuid)) (log : List (Pulse Uuid)) (c : ResourceCache Uuid Amps)
    (door : Uuid) (p : Pulse Uuid) (tickedAt : Int) : Prop where
  last : lastPulse log door = some p
  sent : c.holdSent door = some p.sentAt
  measured : p.Measured
  ticked : lastTick past = some tickedAt
  before : p.sentAt ≤ tickedAt
  recent : tickedAt < p.sentAt + holdRefresh
  bound : p.CutShort → ∀ until_, c.policy.heldEnd door = some until_ → until_ ≤ p.holdEnd

structure HoldInv (past : List (Int × HoldEvent Uuid)) (log : List (Pulse Uuid))
    (c : ResourceCache Uuid Amps) : Prop where
  distinct : c.policy.Distinct
  inHand : ∀ door, (c.holdSent door).isSome → ∃ p ticked, InHand past log c door p ticked
  measured : ∀ p ∈ log, p.Measured

theorem holdPulseMs_isSome {holdEnd : Option Int} {now ms : Int}
    (live : holdPulseMs holdEnd now holdRefresh = some ms) :
    ∃ until_, holdEnd = some until_ ∧ now < until_ := by
  cases holdEnd with
  | none => cases live
  | some until_ =>
    refine ⟨until_, rfl, ?_⟩
    by_contra ended
    have spent : until_ - now ≤ 0 := by omega
    simp only [holdPulseMs, if_pos spent] at live
    cases live

theorem HoldInv.tick {log : List (Pulse Uuid)} (inv : HoldInv past log c) {now ttl moduleTimeout : Int}
    (after : ∀ event ∈ past, event.1 ≤ now) :
    HoldInv (past ++ [(now, .tick ttl moduleTimeout)]) (log ++ pulses c (now, .tick ttl moduleTimeout))
      (c.tick now ttl moduleTimeout holdRefresh).1 := by
  have ticks : lastTick (past ++ [(now, .tick ttl moduleTimeout)]) = some now := by simp [lastTick]
  have new := fun door => filter_pulses c now (c.tick now ttl moduleTimeout holdRefresh).2 door
  refine ⟨inv.distinct, fun door sent => ?_, ?_⟩
  · obtain ⟨remembered, sends⟩ := tick_door inv.distinct door now ttl moduleTimeout
    have newPulses := new door
    rw [sends] at newPulses
    have ofLog : lastPulse (log ++ pulses c (now, .tick ttl moduleTimeout)) door =
        (log.filter (fun p => p.door = door) ++
          (pulses c (now, .tick ttl moduleTimeout)).filter fun p => p.door = door).getLast? := by
      unfold lastPulse
      rw [List.filter_append]
    by_cases isDue : due c.holdSent door now holdRefresh = true
    · rw [if_pos isDue] at remembered newPulses
      rcases length : holdPulseMs (c.policy.heldEnd door) now holdRefresh with _ | ms
      · rw [length] at remembered
        rw [remembered] at sent
        cases sent
      · obtain ⟨until_, held, live⟩ := holdPulseMs_isSome length
        rw [length] at remembered newPulses
        rw [held] at length newPulses
        refine ⟨⟨door, now, ms, until_⟩, now, ?_, remembered, ⟨live, length⟩, ticks, le_rfl, ?_, ?_⟩
        · rw [ofLog]
          unfold pulses
          rw [newPulses]
          simp
        · have positive : 0 < holdRefresh := by decide
          simp only
          omega
        · intro _ other isEnd
          have same : other = until_ := Option.some.inj (isEnd.symm.trans held)
          exact same.le
    · rw [if_neg isDue] at remembered newPulses
      rw [Option.map_none, Option.none_or] at remembered
      have wasSent : (c.holdSent door).isSome = true ∧
          (c.tick now ttl moduleTimeout holdRefresh).1.holdSent door = c.holdSent door := by
        split at remembered
        · exact ⟨remembered ▸ sent, remembered⟩
        · rw [remembered] at sent
          cases sent
      obtain ⟨p, ticked, hand⟩ := inv.inHand door wasSent.1
      obtain ⟨event, inPast, atTick⟩ := lastTick_mem hand.ticked
      have later := after event inPast
      have notDue : now < p.sentAt + holdRefresh := by
        have recent : ¬ holdRefresh ≤ now - p.sentAt := by simpa [due, hand.sent] using isDue
        omega
      have before := hand.before
      refine ⟨p, now, ?_, wasSent.2.trans hand.sent, hand.measured, ticks, by omega, notDue, hand.bound⟩
      rw [ofLog]
      unfold pulses
      rw [newPulses]
      simpa [lastPulse] using hand.last
  · intro p member
    rcases List.mem_append.mp member with old | fresh
    · exact inv.measured p old
    · have mine : p ∈ (pulses c (now, .tick ttl moduleTimeout)).filter fun q => q.door = p.door := by
        rw [List.mem_filter]
        exact ⟨fresh, decide_eq_true rfl⟩
      obtain ⟨-, sends⟩ := tick_door inv.distinct p.door now ttl moduleTimeout
      have newPulses := new p.door
      rw [sends] at newPulses
      unfold pulses at mine
      rw [newPulses, List.mem_map] at mine
      obtain ⟨ms, isLength, made⟩ := mine
      split at isLength
      · have length := Option.mem_toList.mp isLength
        obtain ⟨until_, held, live⟩ := holdPulseMs_isSome length
        rw [held] at length made
        rw [← made]
        exact ⟨live, length⟩
      · cases isLength

omit [DecidableEq Uuid] in
theorem inOrder_snoc {event : Int × HoldEvent Uuid} (inOrder : InOrder (past ++ [event])) :
    InOrder past ∧ ∀ earlier ∈ past, earlier.1 ≤ event.1 := by
  obtain ⟨before, -, across⟩ := List.pairwise_append.mp inOrder
  exact ⟨before, fun earlier member => across earlier member event (by simp)⟩

theorem inHand_of_tick (distinct : c.policy.Distinct) {door : Uuid} {until_ now : Int}
    (held : c.policy.heldEnd door = some until_) (live : now < until_) (ttl moduleTimeout : Int) :
    ((c.tick now ttl moduleTimeout holdRefresh).1.holdSent door).isSome = true := by
  have remembered := (tick_door distinct door now ttl moduleTimeout).1
  have length : holdPulseMs (c.policy.heldEnd door) now holdRefresh =
      some (max (numMilliseconds (min (holdRefresh + seconds 15) (until_ - now))) 1) := by
    have remaining : ¬ until_ - now ≤ 0 := by omega
    rw [held]
    exact if_neg remaining
  rw [remembered, length]
  by_cases isDue : due c.holdSent door now holdRefresh = true
  · rw [if_pos isDue]
    rfl
  · rw [if_neg isDue]
    rcases sent : c.holdSent door with _ | last
    · exact absurd (by simp [due, sent]) isDue
    · rfl

variable [IdText Uuid] [Inhabited Uuid] (parseRfc3339 : String → Option Int)

def machine (start : ResourceCache Uuid Amps) :
    Machine (ResourceCache Uuid Amps) (Int × HoldEvent Uuid) (List (TickAction Uuid)) where
  start := start
  step c
    | (_, .deliver d) => (d.applyTo parseRfc3339 c, [])
    | (now, .tick ttl moduleTimeout) => c.tick now ttl moduleTimeout holdRefresh

def sentPulses (start : ResourceCache Uuid Amps) (events : List (Int × HoldEvent Uuid)) : List (Pulse Uuid) :=
  (machine parseRfc3339 start).history pulses events

/-- A delivery leaves no id twice, and moves the end of no hold past the one that its last
pulse was cut short by. -/
def Keeps (c : ResourceCache Uuid Amps) (log : List (Pulse Uuid)) : Int × HoldEvent Uuid → Prop
  | (_, .deliver d) =>
    let after := d.applyTo parseRfc3339 c
    after.policy.Distinct ∧ ∀ door p, (c.holdSent door).isSome → lastPulse log door = some p → p.CutShort →
      ∀ until_, after.policy.heldEnd door = some until_ → until_ ≤ p.holdEnd
  | (_, .tick _ _) => True

theorem holdSent_applyTo (c : ResourceCache Uuid Amps) (d : Delivery Uuid) :
    (d.applyTo parseRfc3339 c).holdSent = c.holdSent := by
  cases d with
  | policy payload =>
    unfold Delivery.applyTo ResourceCache.applyPolicy
    simp only
    split <;> rfl
  | syncAlias payload => rfl
  | doorsAlias snapshot =>
    unfold Delivery.applyTo ResourceCache.applyDoorsAlias
    simp only
    split <;> rfl

theorem HoldInv.deliver {log : List (Pulse Uuid)} (inv : HoldInv past log c) {now : Int} {d : Delivery Uuid}
    (keeps : Keeps parseRfc3339 c log (now, .deliver d)) :
    HoldInv (past ++ [(now, .deliver d)]) log (d.applyTo parseRfc3339 c) := by
  have remembered := holdSent_applyTo parseRfc3339 c d
  refine ⟨keeps.1, fun door sent => ?_, inv.measured⟩
  rw [remembered] at sent
  obtain ⟨p, ticked, hand⟩ := inv.inHand door sent
  have sameTick : lastTick (past ++ [(now, .deliver d)]) = lastTick past := by simp [lastTick]
  refine ⟨p, ticked, hand.last, ?_, hand.measured, ?_, hand.before, hand.recent, ?_⟩
  · rw [remembered]
    exact hand.sent
  · rw [sameTick]
    exact hand.ticked
  · exact keeps.2 door p sent hand.last

variable (wiring : ModuleState) (allowList : ToolGuardState Uuid) (power : PowerState Amps)

theorem holdInv_run (inOrder : InOrder events)
    (keeps : EveryStep (fun past event => Keeps parseRfc3339
      ((machine parseRfc3339 (Delivery.unfed wiring allowList power)).run past)
        (sentPulses parseRfc3339 (Delivery.unfed wiring allowList power) past) event) events) :
    HoldInv events (sentPulses parseRfc3339 (Delivery.unfed wiring allowList power) events)
      ((machine parseRfc3339 (Delivery.unfed wiring allowList power)).run events) := by
  induction events using List.reverseRecOn with
  | nil =>
    refine ⟨List.nodup_nil, fun door sent => ?_, fun p member => ?_⟩
    · cases sent
    · cases member
  | append_singleton past event ih =>
    obtain ⟨before, after⟩ := inOrder_snoc inOrder
    obtain ⟨kept, here⟩ := EveryStep.snoc_iff.mp keeps
    have inv := ih before kept
    unfold sentPulses
    rw [Machine.run_snoc, Machine.history_snoc]
    obtain ⟨now, what⟩ := event
    cases what with
    | deliver d =>
      have silent : pulses ((machine parseRfc3339 (Delivery.unfed wiring allowList power)).run past)
          (now, .deliver d) = [] :=
        rfl
      rw [silent, List.append_nil]
      exact inv.deliver parseRfc3339 here
    | tick ttl moduleTimeout => exact inv.tick after

/-- In a run whose deliveries move no hold's end past the one its last pulse was cut short by:
from the tick that finds a door's hold live to the last millisecond of the hold, every
instant up to fifteen seconds after the last tick is covered by a pulse; and no pulse, when
it is sent, extends past the hold by more than the one millisecond. -/
theorem open_access_covered (inOrder : InOrder events)
    (keeps : EveryStep (fun past event => Keeps parseRfc3339
      ((machine parseRfc3339 (Delivery.unfed wiring allowList power)).run past)
        (sentPulses parseRfc3339 (Delivery.unfed wiring allowList power) past) event) events) :
    let c := (machine parseRfc3339 (Delivery.unfed wiring allowList power)).run events
    let log := sentPulses parseRfc3339 (Delivery.unfed wiring allowList power) events
    (∀ p ∈ log, p.ends ≤ max p.holdEnd (p.sentAt + milliseconds 1)) ∧
    (∀ past now ttl moduleTimeout, events = past ++ [(now, .tick ttl moduleTimeout)] →
      ∀ door until_, c.policy.heldEnd door = some until_ → now < until_ → (c.holdSent door).isSome) ∧
    ∀ door until_ t ticked, (c.holdSent door).isSome → c.policy.heldEnd door = some until_ →
      lastTick events = some ticked → ticked ≤ t → t ≤ ticked + seconds 15 → t + milliseconds 1 ≤ until_ →
      ∃ p ∈ log, p.door = door ∧ p.Covers t := by
  intro c log
  have inv : HoldInv events log c := holdInv_run parseRfc3339 wiring allowList power inOrder keeps
  refine ⟨fun p member => (inv.measured p member).ends_le, ?_, ?_⟩
  · rintro past now ttl moduleTimeout rfl door until_ held live
    have split :
      c = (((machine parseRfc3339 (Delivery.unfed wiring allowList power)).run past).tick now ttl moduleTimeout
        holdRefresh).1 := Machine.run_snoc _ past (now, .tick ttl moduleTimeout)
    have before := holdInv_run parseRfc3339 wiring allowList power (inOrder_snoc inOrder).1
      (EveryStep.snoc_iff.mp keeps).1
    rw [split] at held ⊢
    exact inHand_of_tick before.distinct held live ttl moduleTimeout
  · intro door until_ t ticked sent held lately after within room
    obtain ⟨p, tickedAt, hand⟩ := inv.inHand door sent
    have sameTick : tickedAt = ticked := Option.some.inj (hand.ticked.symm.trans lately)
    have member : p ∈ log.filter fun q => q.door = door := List.mem_of_getLast? hand.last
    obtain ⟨inLog, atDoor⟩ := List.mem_filter.mp member
    have before := hand.before
    have recent := hand.recent
    have full : t < p.sentAt + seconds 45 := by
      unfold holdRefresh seconds at recent
      unfold seconds at within ⊢
      omega
    have cut : p.CutShort → t + milliseconds 1 ≤ p.holdEnd := by
      intro short
      have bound := hand.bound short until_ held
      omega
    exact ⟨p, inLog, of_decide_eq_true atDoor, by omega, hand.measured.lt_ends full cut⟩

section
def heldDoor (until_ : Int) : CompiledDoor HexId := ⟨.repeating 7, "Lab", true, 3000, [], [], some until_⟩

/-- The loop ticks every fifteen seconds. A hold of ten seconds is extended to a minute after five. -/
def extendedHold : List (Int × HoldEvent HexId) :=
  [(0, .deliver (.doorsAlias ⟨0, [heldDoor (seconds 10)]⟩)), (0, .tick 0 0),
    (seconds 5, .deliver (.doorsAlias ⟨seconds 5, [heldDoor (seconds 60)]⟩)), (seconds 15, .tick 0 0)]

def quietEdge : ResourceCache HexId Int := Delivery.unfed .new ⟨none, none⟩ .new

/-- From the tenth second on the door is held and no pulse covers it: the next tick finds the
last pulse half a refresh old and sends none. -/
theorem extension_leaves_gap :
    let m := machine (fun _ => none) quietEdge
    InOrder extendedHold ∧
      (m.run (extendedHold.take 3)).policy.heldEnd (.repeating 7) = some (seconds 60) ∧
      (m.run extendedHold).policy.heldEnd (.repeating 7) = some (seconds 60) ∧
      sentPulses (fun _ => none) quietEdge extendedHold = [⟨.repeating 7, 0, 10000, seconds 10⟩] ∧
      (∀ p ∈ sentPulses (fun _ => none) quietEdge extendedHold, ¬ p.Covers (seconds 12) ∧
        ¬ p.Covers (seconds 20)) := by
  intro m
  have log : sentPulses (fun _ => none) quietEdge extendedHold = [⟨.repeating 7, 0, 10000, seconds 10⟩] := by
    decide +kernel
  refine ⟨?_, ?_, ?_, log, ?_⟩
  · unfold InOrder
    decide
  · decide +kernel
  · decide +kernel
  · rw [log]
    decide +kernel

/-- A hold of two minutes, extended to three while its pulse is a full one. -/
def longHold : List (Int × HoldEvent HexId) :=
  [(0, .deliver (.doorsAlias ⟨0, [heldDoor (seconds 120)]⟩)), (0, .tick 0 0),
    (seconds 5, .deliver (.doorsAlias ⟨seconds 5, [heldDoor (seconds 180)]⟩)), (seconds 15, .tick 0 0)]

theorem long_hold_covered :
    ∃ p ∈ sentPulses (fun _ => none) quietEdge longHold, p.door = .repeating 7 ∧ p.Covers (seconds 30) := by
  have inOrder : InOrder longHold := by
    unfold InOrder
    decide
  have keeps : EveryStep (fun past event => Keeps (fun _ => none) ((machine (fun _ => none) quietEdge).run past)
      (sentPulses (fun _ => none) quietEdge past) event) longHold := by
    have split :
      longHold = ((([] ++ [(0, .deliver (.doorsAlias ⟨0, [heldDoor (seconds 120)]⟩))]) ++ [(0, .tick 0 0)]) ++
        [(seconds 5, .deliver (.doorsAlias ⟨seconds 5, [heldDoor (seconds 180)]⟩))]) ++
          [(seconds 15, .tick 0 0)] := rfl
    rw [split, EveryStep.snoc_iff, EveryStep.snoc_iff, EveryStep.snoc_iff, EveryStep.snoc_iff]
    refine ⟨⟨⟨⟨EveryStep.nil, ?_⟩, trivial⟩, ?_⟩, trivial⟩
    · refine ⟨by unfold Policy.Distinct; decide +kernel, fun door p sent => ?_⟩
      cases sent
    · refine ⟨by unfold Policy.Distinct; decide +kernel, fun door p _ last short => ?_⟩
      have log : sentPulses (fun _ => none) quietEdge
          (([] ++ [(0, .deliver (.doorsAlias ⟨0, [heldDoor (seconds 120)]⟩))]) ++ [(0, .tick 0 0)]) =
          [⟨.repeating 7, 0, 45000, seconds 120⟩] := by decide +kernel
      rw [log] at last
      obtain rfl := List.mem_singleton.mp (List.mem_filter.mp (List.mem_of_getLast? last)).1
      exact absurd short (by decide)
  obtain ⟨-, -, covered⟩ := open_access_covered (fun _ => none) .new ⟨none, none⟩ .new inOrder keeps
  exact covered (.repeating 7) (seconds 180) (seconds 30) (seconds 15) (by decide +kernel) (by decide +kernel)
    (by decide +kernel) (by decide) (by decide) (by decide)

end

end HoldEvent

end CoopSpaces
