import CoopSpaces.Lib.Machine

namespace CoopSpaces

/-- How a supervisor task came to its end. -/
inductive TaskOutcome
  | returned
  | panicked
  | cancelled
  deriving DecidableEq

inductive SupervisorVerdict
  | restart
  | stop
  deriving DecidableEq

/-- A task that panicked is to be replaced, and so is one that returned, as it never should. -/
def TaskOutcome.verdict : TaskOutcome → SupervisorVerdict
  | .returned => .restart
  | .panicked => .restart
  | .cancelled => .stop

structure TransportHealth where
  connected : Bool
  keyExchange : Option String
  supervisorRestarts : Nat

namespace TransportHealth

def markConnected (h : TransportHealth) (keyExchange : Option String) : TransportHealth :=
  { h with connected := true, keyExchange }

def markDisconnected (h : TransportHealth) : TransportHealth := { h with connected := false, keyExchange := none }

def noteSupervisorRestart (h : TransportHealth) : TransportHealth :=
  { h with connected := false, supervisorRestarts := h.supervisorRestarts + 1 }

end TransportHealth

/-- Where the supervisor is. Only while it sends does it hold a message. -/
inductive WsPhase (Wire : Type)
  | connecting
  | session
  | sending (wm : Wire)
  | pausing
  | restarting
  | stopped

def WsPhase.inHand {Wire : Type} : WsPhase Wire → List Wire
  | .sending wm => [wm]
  | _ => []

/-- The client, its outbound queue and the task that drains it; times in seconds. -/
structure WsClient (Wire : Type) where
  queue : List Wire
  phase : WsPhase Wire
  health : TransportHealth
  backoff : Nat
  restartBackoff : Nat

/-- What other tasks ask of the client, what its connection comes to, and how its task ends. -/
inductive WsEvent (Wire : Type)
  | publish (wm : Wire)
  | connected (keyExchange : Option String)
  | connectFailed
  | take
  | sent
  | sendFailed
  | closed
  | sessionFailed
  | slept
  | ended (outcome : TaskOutcome)

namespace WsClient
variable {Wire : Type}

def MAX_BACKOFF : Nat := 30

def start : WsClient Wire := ⟨[], .connecting, ⟨false, none, 0⟩, 1, 1⟩

/-- The session ended cleanly: connect again at once. -/
def sessionOver (c : WsClient Wire) : WsClient Wire :=
  { c with phase := .connecting, health := c.health.markDisconnected, backoff := 1 }

/-- The session failed: connect again after a pause. -/
def sessionLost (c : WsClient Wire) : WsClient Wire :=
  { c with phase := .pausing, health := c.health.markDisconnected }

def publish (c : WsClient Wire) (wm : Wire) : WsClient Wire :=
  match c.phase with
  -- with the receiver gone the channel takes nothing, and nobody is told
  | .stopped => c
  | _ => { c with queue := c.queue ++ [wm] }

/-- The task has ended, with whatever it held. -/
def taskEnded (c : WsClient Wire) (outcome : TaskOutcome) : WsClient Wire :=
  match outcome.verdict with
  | .restart => { c with phase := .restarting, health := c.health.noteSupervisorRestart }
  | .stop => { c with queue := [], phase := .stopped, health := c.health.markDisconnected }

def step (c : WsClient Wire) : WsEvent Wire → WsClient Wire
  | .publish wm => c.publish wm
  | .connected keyExchange =>
    match c.phase with
    | .connecting => { c with phase := .session, health := c.health.markConnected keyExchange }
    | _ => c
  | .connectFailed =>
    match c.phase with
    | .connecting => c.sessionLost
    | _ => c
  | .take =>
    match c.phase, c.queue with
    | .session, wm :: rest => { c with queue := rest, phase := .sending wm }
    | _, _ => c
  | .sent =>
    match c.phase with
    | .sending _ => { c with phase := .session }
    | _ => c
  | .sendFailed =>
    match c.phase with
    | .sending _ => c.sessionLost
    | _ => c
  | .closed =>
    match c.phase with
    | .session => c.sessionOver
    | _ => c
  | .sessionFailed =>
    match c.phase with
    | .session => c.sessionLost
    | _ => c
  | .slept =>
    match c.phase with
    | .pausing => { c with phase := .connecting, backoff := min (c.backoff * 2) MAX_BACKOFF }
    | .restarting =>
      { c with phase := .connecting, backoff := 1, restartBackoff := min (c.restartBackoff * 2) MAX_BACKOFF }
    | _ => c
  | .ended outcome =>
    match c.phase with
    | .restarting => c
    | .stopped => c
    | _ => c.taskEnded outcome

end WsClient

def wsClient (Wire : Type) : Machine (WsClient Wire) (WsEvent Wire) Unit where
  start := .start
  step c event := (c.step event, ())

namespace WsClient
variable {Wire : Type}

/-- The messages that other tasks published, in their order. -/
def published (events : List (WsEvent Wire)) : List Wire :=
  events.filterMap fun event =>
    match event with
    | .publish wm => some wm
    | _ => none

def watchSent (c : WsClient Wire) (event : WsEvent Wire) : List Wire :=
  match event with
  | .sent => c.phase.inHand
  | _ => []

/-- The messages whose send succeeded, in the order of the sends. -/
def sent (events : List (WsEvent Wire)) : List Wire := (wsClient Wire).history watchSent events

/-- The event ends a send that is under way without its having succeeded. -/
def BreaksOff (c : WsClient Wire) (event : WsEvent Wire) : Prop :=
  (∃ wm, c.phase = .sending wm) ∧ (event = .sendFailed ∨ ∃ outcome, event = .ended outcome)

/-- What still stands between the client and its messages: the one in its hand, and the queue. -/
def outstanding (c : WsClient Wire) : List Wire := c.phase.inHand ++ c.queue

/-- What was sent and what is outstanding are together what was published. -/
def Conserved (events : List (WsEvent Wire)) : Prop :=
  sent events ++ ((wsClient Wire).run events).outstanding = published events

theorem published_snoc (past : List (WsEvent Wire)) (event : WsEvent Wire) :
    published (past ++ [event]) = published past ++ published [event] := List.filterMap_append

theorem sent_snoc (past : List (WsEvent Wire)) (event : WsEvent Wire) :
    sent (past ++ [event]) = sent past ++ watchSent ((wsClient Wire).run past) event :=
  (wsClient Wire).history_snoc watchSent past event

/-- Short of its end, a step hands a message on or keeps it, unless it breaks off a send. -/
theorem step_outstanding {c : WsClient Wire} {event : WsEvent Wire} (alive : c.phase ≠ .stopped)
    (runs : event ≠ .ended .cancelled) :
    (¬ c.BreaksOff event ∧ watchSent c event ++ (c.step event).outstanding = c.outstanding ++ published [event]) ∨
      (c.BreaksOff event ∧ watchSent c event = [] ∧ published [event] = [] ∧
        ∃ wm, c.outstanding = wm :: (c.step event).outstanding) := by
  obtain ⟨queue, phase, health, backoff, restartBackoff⟩ := c
  cases event with
  | publish wm =>
    left
    cases phase with
    | stopped => exact absurd rfl alive
    | _ => simp [BreaksOff, watchSent, step, publish, outstanding, published, WsPhase.inHand]
  | take =>
    left
    cases phase with
    | session => cases queue <;> simp [BreaksOff, watchSent, step, outstanding, published, WsPhase.inHand]
    | _ => simp [BreaksOff, watchSent, step, outstanding, published, WsPhase.inHand]
  | sent =>
    left
    cases phase <;> simp [BreaksOff, watchSent, step, outstanding, published, WsPhase.inHand]
  | sendFailed =>
    cases phase with
    | sending wm =>
      right
      simp [BreaksOff, watchSent, step, sessionLost, outstanding, published, WsPhase.inHand]
    | _ =>
      left
      simp [BreaksOff, watchSent, step, outstanding, published, WsPhase.inHand]
  | ended outcome =>
    have restarts : outcome.verdict = .restart := by
      cases outcome with
      | cancelled => exact absurd rfl runs
      | _ => rfl
    cases phase with
    | sending wm =>
      right
      simp [BreaksOff, watchSent, step, taskEnded, restarts, outstanding, published, WsPhase.inHand]
    | _ =>
      left
      simp [BreaksOff, watchSent, step, taskEnded, restarts, outstanding, published, WsPhase.inHand]
  | _ =>
    left
    cases phase <;>
      simp [BreaksOff, watchSent, step, sessionLost, sessionOver, outstanding, published, WsPhase.inHand]

theorem step_alive {c : WsClient Wire} {event : WsEvent Wire} (alive : c.phase ≠ .stopped)
    (runs : event ≠ .ended .cancelled) : (c.step event).phase ≠ .stopped := by
  obtain ⟨queue, phase, health, backoff, restartBackoff⟩ := c
  cases event with
  | ended outcome =>
    have restarts : outcome.verdict = .restart := by
      cases outcome with
      | cancelled => exact absurd rfl runs
      | _ => rfl
    cases phase with
    | stopped => exact absurd rfl alive
    | _ => simp [step, taskEnded, restarts]
  | take =>
    cases phase with
    | stopped => exact absurd rfl alive
    | _ => cases queue <;> simp [step]
  | _ =>
    cases phase with
    | stopped => exact absurd rfl alive
    | _ => simp [step, publish, sessionLost, sessionOver]

/-- The account of a run: nothing is sent twice or out of turn, and what is missing was lost to a
send that was broken off. -/
structure Account (events : List (WsEvent Wire)) : Prop where
  alive : ((wsClient Wire).run events).phase ≠ .stopped
  order : (sent events ++ ((wsClient Wire).run events).outstanding).Sublist (published events)
  missing : ∃ lost,
    (sent events ++ ((wsClient Wire).run events).outstanding).length + lost = (published events).length ∧
      (lost = 0 ↔ EveryStep (fun past event => ¬ ((wsClient Wire).run past).BreaksOff event) events)

theorem Account.snoc {past : List (WsEvent Wire)} (account : Account past) {event : WsEvent Wire}
    (runs : event ≠ .ended .cancelled) : Account (past ++ [event]) := by
  obtain ⟨alive, order, lost, length, none_⟩ := account
  have after : (wsClient Wire).run (past ++ [event]) = ((wsClient Wire).run past).step event :=
    (wsClient Wire).run_snoc past event
  rcases step_outstanding alive runs with ⟨whole, kept⟩ | ⟨broken, unsent, unpublished, wm, gone⟩
  · have grown : sent (past ++ [event]) ++ ((wsClient Wire).run (past ++ [event])).outstanding =
        (sent past ++ ((wsClient Wire).run past).outstanding) ++ published [event] := by
      rw [after, sent_snoc, List.append_assoc, kept, List.append_assoc]
    refine ⟨?_, ?_, lost, ?_, ?_⟩
    · rw [after]
      exact step_alive alive runs
    · rw [grown, published_snoc]
      exact order.append (List.Sublist.refl _)
    · rw [grown, published_snoc, List.length_append, @List.length_append _ (published past)]
      omega
    · rw [EveryStep.snoc_iff, none_]
      exact (and_iff_left whole).symm
  · have shrunk : sent past ++ ((wsClient Wire).run past).outstanding =
        sent past ++ wm :: ((wsClient Wire).run (past ++ [event])).outstanding := by
      rw [after, gone]
    have unmoved : sent (past ++ [event]) = sent past := by rw [sent_snoc, unsent, List.append_nil]
    have same : published (past ++ [event]) = published past := by rw [published_snoc, unpublished, List.append_nil]
    rw [shrunk] at order length
    refine ⟨?_, ?_, lost + 1, ?_, ?_⟩
    · rw [after]
      exact step_alive alive runs
    · rw [unmoved, same]
      exact ((List.Sublist.refl _).append (List.sublist_cons_self wm _)).trans order
    · rw [unmoved, same, ← length]
      simp only [List.length_append, List.length_cons]
      omega
    · rw [EveryStep.snoc_iff]
      constructor
      · intro none_
        omega
      · rintro ⟨-, whole⟩
        exact absurd broken whole

theorem account {events : List (WsEvent Wire)} (runs : ∀ event ∈ events, event ≠ .ended .cancelled) :
    Account events := by
  induction events using List.reverseRecOn with
  | nil =>
    refine ⟨?_, List.Sublist.refl _, 0, rfl, iff_of_true rfl EveryStep.nil⟩
    intro stopped
    cases stopped
  | append_singleton past event ih =>
    have before := ih fun other there => runs other (List.mem_append_left _ there)
    exact before.snoc (runs event (List.mem_append_right _ (List.mem_singleton_self event)))

/-- The pauses are between a second and half a minute long, and the link is reported to be up just
while a session is. -/
structure Sound (c : WsClient Wire) : Prop where
  pause : 1 ≤ c.backoff ∧ c.backoff ≤ MAX_BACKOFF
  restartPause : 1 ≤ c.restartBackoff ∧ c.restartBackoff ≤ MAX_BACKOFF
  up : c.health.connected = true ↔ c.phase = .session ∨ ∃ wm, c.phase = .sending wm

theorem doubled_le {backoff : Nat} (within : 1 ≤ backoff ∧ backoff ≤ MAX_BACKOFF) :
    1 ≤ min (backoff * 2) MAX_BACKOFF ∧ min (backoff * 2) MAX_BACKOFF ≤ MAX_BACKOFF := by
  rw [MAX_BACKOFF] at within ⊢
  omega

theorem Sound.step {c : WsClient Wire} (sound : c.Sound) (event : WsEvent Wire) : (c.step event).Sound := by
  obtain ⟨queue, phase, health, backoff, restartBackoff⟩ := c
  obtain ⟨pause, restartPause, up⟩ := sound
  have first : 1 ≤ 1 ∧ 1 ≤ MAX_BACKOFF := by decide
  have lost : (sessionLost ⟨queue, phase, health, backoff, restartBackoff⟩).Sound :=
    ⟨pause, restartPause, by simp [sessionLost, TransportHealth.markDisconnected]⟩
  cases event with
  | publish wm => cases phase <;> exact ⟨pause, restartPause, by simpa [WsClient.step, publish] using up⟩
  | slept =>
    cases phase with
    | pausing => exact ⟨doubled_le pause, restartPause, by simpa [WsClient.step] using up⟩
    | restarting => exact ⟨first, doubled_le restartPause, by simpa [WsClient.step] using up⟩
    | _ => exact ⟨pause, restartPause, up⟩
  | take =>
    cases phase with
    | session => cases queue <;> exact ⟨pause, restartPause, by simpa [WsClient.step] using up⟩
    | _ => exact ⟨pause, restartPause, up⟩
  | closed =>
    cases phase with
    | session => exact ⟨first, restartPause, by simp [WsClient.step, sessionOver, TransportHealth.markDisconnected]⟩
    | _ => exact ⟨pause, restartPause, up⟩
  | ended outcome =>
    have down : (taskEnded ⟨queue, phase, health, backoff, restartBackoff⟩ outcome).Sound := by
      unfold taskEnded
      cases outcome.verdict with
      | restart => exact ⟨pause, restartPause, by simp [TransportHealth.noteSupervisorRestart]⟩
      | stop => exact ⟨pause, restartPause, by simp [TransportHealth.markDisconnected]⟩
    cases phase with
    | restarting => exact ⟨pause, restartPause, up⟩
    | stopped => exact ⟨pause, restartPause, up⟩
    | _ => exact down
  | connected keyExchange =>
    cases phase with
    | connecting => exact ⟨pause, restartPause, by simp [WsClient.step, TransportHealth.markConnected]⟩
    | _ => exact ⟨pause, restartPause, up⟩
  | sent =>
    cases phase with
    | sending wm => exact ⟨pause, restartPause, by simpa [WsClient.step] using up⟩
    | _ => exact ⟨pause, restartPause, up⟩
  | connectFailed =>
    cases phase with
    | connecting => exact lost
    | _ => exact ⟨pause, restartPause, up⟩
  | sendFailed =>
    cases phase with
    | sending wm => exact lost
    | _ => exact ⟨pause, restartPause, up⟩
  | sessionFailed =>
    cases phase with
    | session => exact lost
    | _ => exact ⟨pause, restartPause, up⟩

/-- A message stays in its turn, or is dropped. -/
theorem step_sublist (c : WsClient Wire) (event : WsEvent Wire) :
    (watchSent c event ++ (c.step event).outstanding).Sublist (c.outstanding ++ published [event]) := by
  by_cases alive : c.phase = .stopped
  · obtain ⟨queue, phase, health, backoff, restartBackoff⟩ := c
    obtain rfl : phase = .stopped := alive
    have stays : watchSent ⟨queue, .stopped, health, backoff, restartBackoff⟩ event = [] ∧
        step ⟨queue, .stopped, health, backoff, restartBackoff⟩ event =
          ⟨queue, .stopped, health, backoff, restartBackoff⟩ := by
      cases event <;> exact ⟨rfl, rfl⟩
    rw [stays.1, stays.2]
    exact List.sublist_append_left _ _
  · by_cases runs : event = .ended .cancelled
    · subst runs
      obtain ⟨queue, phase, health, backoff, restartBackoff⟩ := c
      cases phase with
      | restarting => exact List.sublist_append_left _ _
      | stopped => exact absurd rfl alive
      | _ => exact List.nil_sublist _
    · rcases step_outstanding alive runs with ⟨-, kept⟩ | ⟨-, unsent, -, wm, gone⟩
      · exact (congrArg (List.Sublist · _) kept).mpr (List.Sublist.refl _)
      · rw [unsent, gone]
        exact (List.sublist_cons_self wm _).trans (List.sublist_append_left _ _)

/-- In every run what is sent, and then what is still to be sent, is of the published messages, each at most once
and in their order, over reconnects, restarts and the shutdown; and the link is sound. -/
theorem sent_in_turn (events : List (WsEvent Wire)) :
    (sent events ++ ((wsClient Wire).run events).outstanding).Sublist (published events) ∧
      ((wsClient Wire).run events).Sound := by
  refine ⟨?_, (wsClient Wire).run_invariant (fun _ c => c.Sound) ?_ (fun past event sound => sound.step event) events⟩
  · induction events using List.reverseRecOn with
    | nil => exact List.Sublist.refl _
    | append_singleton past event ih =>
      have after : (wsClient Wire).run (past ++ [event]) = ((wsClient Wire).run past).step event :=
        (wsClient Wire).run_snoc past event
      have grown := ih.append (List.Sublist.refl (published [event]))
      rw [List.append_assoc] at grown
      rw [sent_snoc, after, published_snoc, List.append_assoc]
      exact ((step_sublist ((wsClient Wire).run past) event).append_left (sent past)).trans grown
  · have first : 1 ≤ 1 ∧ 1 ≤ MAX_BACKOFF := by decide
    exact ⟨first, first, by simp [wsClient, start]⟩

end WsClient

variable {Wire : Type}

/-- Until the program is shut down, the messages that were sent, followed by those still to be sent, are the published
ones in their order just when no send of a message taken off the queue was broken off. -/
theorem outbound_conserved_iff {events : List (WsEvent Wire)} (runs : ∀ event ∈ events, event ≠ .ended .cancelled) :
    WsClient.Conserved events ↔
      EveryStep (fun past event => ¬ ((wsClient Wire).run past).BreaksOff event) events := by
  obtain ⟨-, order, lost, length, none_⟩ := WsClient.account runs
  rw [← none_]
  constructor
  · intro conserved
    rw [conserved] at length
    omega
  · rintro rfl
    exact order.eq_of_length length

/-- A door event that the connection fails to send is neither sent nor queued any more. -/
theorem outbound_drops_event : ¬ ∀ events : List (WsEvent String),
    (∀ event ∈ events, event ≠ .ended .cancelled) → WsClient.Conserved events := by
  intro conserved
  have lost := conserved [.publish "doors/event", .connected none, .take, .sendFailed] (by simp)
  have sent : WsClient.sent [.publish "doors/event", .connected none, .take, .sendFailed] = ([] : List String) := rfl
  rw [WsClient.Conserved, sent] at lost
  cases lost

/-- Two events over two connections, the first of which is lost between the sends. -/
theorem outbound_conserved_over_reconnect :
    WsClient.Conserved [.publish "granted", .publish "denied", .connected none, .take, .sent, .sessionFailed, .slept,
      .connected none, .take, .sent] := by
  refine (outbound_conserved_iff (by simp)).mpr ?_
  rintro past event later split ⟨-, broken⟩
  have there : event ∈ past ++ event :: later := List.mem_append_right _ (List.mem_cons_self ..)
  rw [← split] at there
  rcases broken with rfl | ⟨outcome, rfl⟩
  · simp at there
  · simp at there

end CoopSpaces
