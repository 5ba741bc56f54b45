import CoopSpaces.Lib.Machine

namespace CoopSpaces

inductive Severity
  | info
  | notice
  | warning
  | critical
  deriving DecidableEq

/-- The kinds of audit events, how grave they are, and which are about the alerts themselves. -/
structure AuditEventTypes (Kind : Type) where
  all : List Kind
  severity : Kind → Severity
  aboutAlerts : Kind → Bool
  alertHeartbeat : Kind
  aboutAlerts_alertHeartbeat : aboutAlerts alertHeartbeat = true

/-- Notice and above, excluding the alerts category itself. -/
def AuditEventTypes.counted {Kind : Type} (types : AuditEventTypes Kind) : List Kind :=
  types.all.filter fun t => types.severity t ≠ .info && !types.aboutAlerts t

structure AuditRow (Kind : Type) where
  eventType : Kind
  createdAt : Int

structure AlertHeartbeatRun where
  startedAt : Int
  finishedAt : Int
  alertsRaised : Nat
  unacknowledged : Nat
  deliveriesFailed : Nat
  ok : Bool
  error : Option String

/-- How far a heartbeat has come. The alerts it counted are kept, as the places of their rows; the
program keeps how many they are. -/
inductive HeartbeatPhase
  | loading
  | counting (since : Option Int)
  | acknowledging (since : Option Int) (raised : List Nat)
  | delivering (since : Option Int) (raised : List Nat) (unacknowledged : Nat)
  | finishing (raised : List Nat) (unacknowledged deliveriesFailed : Nat) (error : Option String)
  | recording (raised : List Nat) (unacknowledged deliveriesFailed : Nat) (error : Option String)

/-- A heartbeat under way. `order` says how many were begun before it, and `written` how many
audit rows there were when it began. -/
structure Heartbeat where
  fromTicker : Bool
  startedAt : Int
  order : Nat
  written : Nat
  phase : HeartbeatPhase

/-- The event of a heartbeat. -/
structure HeartbeatBeat where
  fromTicker : Bool
  startedAt : Int
  order : Nat
  written : Nat
  raised : List Nat
  error : Option String

/-- The ticker waits, has found a heartbeat due, is in one, or has panicked. -/
inductive HeartbeatTicker
  | waiting
  | due
  | beating
  | stopped
  deriving DecidableEq

/-- The tables, in microseconds, and what runs over them. -/
structure AlertServer (Kind : Type) where
  clock : Int
  auditLogs : List (AuditRow Kind)
  acknowledged : List Nat
  failedDeliveries : List Int
  runs : List AlertHeartbeatRun
  ticker : HeartbeatTicker
  running : List Heartbeat
  begun : Nat
  beats : List HeartbeatBeat

inductive HeartbeatInput (Kind : Type)
  | pass (micros : Nat)
  /-- A row becomes visible, with the stamp of when its statement began. -/
  | audit (eventType : Kind) (delay : Nat)
  | acknowledge (row : Nat)
  | deliveryFailed
  /-- The hourly tick. -/
  | check (failure : Option String)
  | begin
  | request
  | advance (index : Nat) (failure : Option String)
  | restart

namespace AlertServer
variable {Kind : Type} [DecidableEq Kind]

def new (clock : Int) : AlertServer Kind := ⟨clock, [], [], [], [], .waiting, [], 0, []⟩

/-- When the latest recorded run started. -/
def latestAlertHeartbeatRun (s : AlertServer Kind) : Option Int := (s.runs.map (·.startedAt)).max?

def isAfter (since : Option Int) (t : Int) : Bool := since.all fun since => decide (since < t)

def countAuditRowsSince (s : AlertServer Kind) (types : List Kind) (since : Option Int) : List Nat :=
  (List.range s.auditLogs.length).filter fun i =>
    s.auditLogs[i]?.any fun row => decide (row.eventType ∈ types) && isAfter since row.createdAt

def unacknowledgedAlertCounts (s : AlertServer Kind) (types : List Kind) : Nat :=
  (List.range s.auditLogs.length).countP fun i =>
    (s.auditLogs[i]?.any fun row => decide (row.eventType ∈ types)) && decide (i ∉ s.acknowledged)

def countFailedWebhookDeliveriesSince (s : AlertServer Kind) (since : Option Int) : Nat :=
  s.failedDeliveries.countP (isAfter since)

/-- `None` where a duration of so many seconds panics. -/
def due (intervalSecs : Nat) (s : AlertServer Kind) : Option Bool :=
  if intervalSecs = 0 then some false
  else
    match s.latestAlertHeartbeatRun with
    | none => some true
    | some startedAt =>
      if intervalSecs ≤ 9223372036854775 then some (decide (intervalSecs * 1000000 ≤ s.clock - startedAt)) else none

/-- A heartbeat begins. -/
def beginHeartbeat (fromTicker : Bool) (s : AlertServer Kind) : AlertServer Kind :=
  { s with
    running := s.running ++ [⟨fromTicker, s.clock, s.begun, s.auditLogs.length, .loading⟩]
    begun := s.begun + 1 }

def setPhase (index : Nat) (h : Heartbeat) (phase : HeartbeatPhase) (s : AlertServer Kind) : AlertServer Kind :=
  { s with running := s.running.set index { h with phase } }

/-- A heartbeat takes its next step, which fails or not. -/
def advance (types : AuditEventTypes Kind) (s : AlertServer Kind) (index : Nat) (h : Heartbeat)
    (failure : Option String) : AlertServer Kind :=
  match h.phase, failure with
  | .loading, none => s.setPhase index h (.counting s.latestAlertHeartbeatRun)
  | .loading, some e => s.setPhase index h (.finishing [] 0 0 (some ("load last run: " ++ e)))
  | .counting since, none => s.setPhase index h (.acknowledging since (s.countAuditRowsSince types.counted since))
  | .counting _, some e => s.setPhase index h (.finishing [] 0 0 (some ("count alerts: " ++ e)))
  | .acknowledging since raised, none =>
    s.setPhase index h (.delivering since raised (s.unacknowledgedAlertCounts types.counted))
  | .acknowledging _ raised, some e =>
    s.setPhase index h (.finishing raised 0 0 (some ("count unacknowledged: " ++ e)))
  | .delivering since raised unacknowledged, none =>
    s.setPhase index h (.finishing raised unacknowledged (s.countFailedWebhookDeliveriesSince since) none)
  | .delivering _ raised unacknowledged, some e =>
    s.setPhase index h (.finishing raised unacknowledged 0 (some ("count failed deliveries: " ++ e)))
  -- The event first: the heartbeat is the event.
  | .finishing raised unacknowledged deliveriesFailed error, failure =>
    { s.setPhase index h (.recording raised unacknowledged deliveriesFailed error) with
      auditLogs := s.auditLogs ++ if failure.isSome then [] else [⟨types.alertHeartbeat, s.clock⟩]
      beats := s.beats ++ [⟨h.fromTicker, h.startedAt, h.order, h.written, raised, error⟩] }
  | .recording raised unacknowledged deliveriesFailed error, failure =>
    { s with
      runs := s.runs ++ if failure.isSome then []
        else [⟨h.startedAt, s.clock, raised.length, unacknowledged, deliveriesFailed, error.isNone, error⟩]
      ticker := if h.fromTicker then .waiting else s.ticker
      running := s.running.eraseIdx index }

def step (types : AuditEventTypes Kind) (intervalSecs : Nat) (s : AlertServer Kind) :
    HeartbeatInput Kind → AlertServer Kind
  | .pass micros => { s with clock := s.clock + micros }
  | .audit eventType delay => { s with auditLogs := s.auditLogs ++ [⟨eventType, s.clock - delay⟩] }
  | .acknowledge row => { s with acknowledged := row :: s.acknowledged }
  | .deliveryFailed => { s with failedDeliveries := s.failedDeliveries ++ [s.clock] }
  | .check failure =>
    if s.ticker ≠ .waiting ∨ failure.isSome then s
    else
      match s.due intervalSecs with
      | some true => { s with ticker := .due }
      | some false => s
      | none => { s with ticker := .stopped }
  | .begin => if s.ticker = .due then { s.beginHeartbeat true with ticker := .beating } else s
  | .request => s.beginHeartbeat false
  | .advance index failure =>
    match s.running[index]? with
    | none => s
    | some h => s.advance types index h failure
  | .restart => { s with ticker := .waiting, running := [] }

end AlertServer

def alertMachine {Kind : Type} [DecidableEq Kind] (types : AuditEventTypes Kind) (intervalSecs : Nat) (clock : Int) :
    Machine (AlertServer Kind) (HeartbeatInput Kind) Unit where
  start := .new clock
  step s input := (s.step types intervalSecs input, ())

namespace AlertServer
variable {Kind : Type} (types : AuditEventTypes Kind) (intervalSecs : Nat)

/-- An alert stands at this place of the audit rows. -/
def IsAlert (s : AlertServer Kind) (i : Nat) (row : AuditRow Kind) : Prop :=
  s.auditLogs[i]? = some row ∧ row.eventType ∈ types.counted

/-- Of the successful heartbeats that began after the row was written this one began first. -/
def FirstAfter (s : AlertServer Kind) (i : Nat) (b : HeartbeatBeat) : Prop :=
  i < b.written ∧ ∀ other ∈ s.beats, other.error = none → i < other.written → b.order ≤ other.order

/-- A successful heartbeat counts just the alerts that it is the first successful one after. -/
def CountsOnce (s : AlertServer Kind) : Prop :=
  ∀ b ∈ s.beats, b.error = none → ∀ i, i ∈ b.raised ↔ (∃ row, s.IsAlert types i row) ∧ s.FirstAfter i b

/-- The ticker's heartbeats start at least the interval apart. -/
def Spaced (s : AlertServer Kind) : Prop :=
  ∀ b ∈ s.beats, ∀ other ∈ s.beats, b.fromTicker = true → other.fromTicker = true → b.order < other.order →
    intervalSecs * 1000000 ≤ other.startedAt - b.startedAt

/-- An alert has been written since the latest recorded run began. -/
def Waiting (s : AlertServer Kind) : Prop :=
  ∃ row ∈ s.auditLogs, row.eventType ∈ types.counted ∧ ∀ run ∈ s.runs, run.startedAt < row.createdAt

end AlertServer

def HeartbeatPhase.hasCounted : HeartbeatPhase → Bool
  | .loading => false
  | .counting _ => false
  | _ => true

/-- Without this heartbeat's record nothing is lost or counted twice, and the ticker goes by others. -/
def Heartbeat.Dispensable (h : Heartbeat) : Prop :=
  match h.phase with
  | .recording raised _ _ _ => h.fromTicker = false ∧ raised = []
  | _ => True

namespace AlertServer
variable {Kind : Type} (types : AuditEventTypes Kind) (intervalSecs : Nat)

/-- The next step of the heartbeat may fail: there is no alert to it. The step that writes the
event goes on without it. -/
def MayFail (s : AlertServer Kind) (h : Heartbeat) : Prop :=
  match h.phase with
  | .loading => ¬ s.Waiting types
  | .counting _ => ¬ s.Waiting types
  | .acknowledging _ raised => raised = []
  | .delivering _ raised _ => raised = []
  | .finishing .. => True
  | .recording .. => h.Dispensable

/-- The step keeps clear of the window between a heartbeat's start and its count, and of
heartbeats at a time; a heartbeat fails, or goes without its record, only where there is no alert
to it. -/
def Clear (s : AlertServer Kind) : HeartbeatInput Kind → Prop
  | .audit eventType delay => eventType ∈ types.counted →
    (∀ run ∈ s.runs, run.startedAt < s.clock - delay) ∧
      ∀ h ∈ s.running, h.phase.hasCounted = true ∧ h.startedAt < s.clock - delay
  | .begin => s.ticker = .due → s.running = []
  | .request => s.running = []
  | .advance index failure => failure.isSome → ∀ h ∈ s.running[index]?, s.MayFail types h
  | .restart => ∀ h ∈ s.running, h.Dispensable
  | _ => True

section
variable [DecidableEq Kind]

instance (s : AlertServer Kind) : Decidable (s.Waiting types) :=
  inferInstanceAs (Decidable (∃ row ∈ s.auditLogs, _ ∧ ∀ run ∈ s.runs, _))

instance (h : Heartbeat) : Decidable h.Dispensable :=
  match h with
  | ⟨_, _, _, _, .loading⟩ => .isTrue trivial
  | ⟨_, _, _, _, .counting _⟩ => .isTrue trivial
  | ⟨_, _, _, _, .acknowledging ..⟩ => .isTrue trivial
  | ⟨_, _, _, _, .delivering ..⟩ => .isTrue trivial
  | ⟨_, _, _, _, .finishing ..⟩ => .isTrue trivial
  | ⟨fromTicker, _, _, _, .recording raised _ _ _⟩ => inferInstanceAs (Decidable (fromTicker = false ∧ raised = []))

instance (s : AlertServer Kind) (h : Heartbeat) : Decidable (s.MayFail types h) :=
  match h with
  | ⟨_, _, _, _, .loading⟩ => inferInstanceAs (Decidable ¬ s.Waiting types)
  | ⟨_, _, _, _, .counting _⟩ => inferInstanceAs (Decidable ¬ s.Waiting types)
  | ⟨_, _, _, _, .acknowledging _ raised⟩ => inferInstanceAs (Decidable (raised = []))
  | ⟨_, _, _, _, .delivering _ raised _⟩ => inferInstanceAs (Decidable (raised = []))
  | ⟨_, _, _, _, .finishing ..⟩ => .isTrue trivial
  | ⟨a, b, c, d, .recording raised n m e⟩ =>
    inferInstanceAs (Decidable (Heartbeat.Dispensable ⟨a, b, c, d, .recording raised n m e⟩))

instance (s : AlertServer Kind) (input : HeartbeatInput Kind) : Decidable (s.Clear types input) :=
  match input with
  | .audit eventType _ =>
    inferInstanceAs (Decidable (eventType ∈ types.counted → (∀ run ∈ s.runs, _) ∧ ∀ h ∈ s.running, _ ∧ _))
  | .begin => inferInstanceAs (Decidable (s.ticker = .due → s.running = []))
  | .request => inferInstanceAs (Decidable (s.running = []))
  | .advance index failure =>
    inferInstanceAs (Decidable (failure.isSome → ∀ h ∈ s.running[index]?, s.MayFail types h))
  | .restart => inferInstanceAs (Decidable (∀ h ∈ s.running, h.Dispensable))
  | .pass _ => .isTrue trivial
  | .acknowledge _ => .isTrue trivial
  | .deliveryFailed => .isTrue trivial
  | .check _ => .isTrue trivial

end

def Counted (s : AlertServer Kind) (i : Nat) : Prop := ∃ b ∈ s.beats, b.error = none ∧ i ∈ b.raised

/-- A recorded run began at this time or later. -/
def Settled (s : AlertServer Kind) (t : Int) : Prop := ∃ run ∈ s.runs, t ≤ run.startedAt

/-- What is so of the beats at any time. -/
structure Sound (s : AlertServer Kind) : Prop where
  rowsPast : ∀ row ∈ s.auditLogs, row.createdAt ≤ s.clock
  runsPast : ∀ run ∈ s.runs, run.startedAt ≤ s.clock
  orders : ∀ b ∈ s.beats, b.order < s.begun
  written : ∀ b ∈ s.beats, b.written ≤ s.auditLogs.length
  counts : ∀ b ∈ s.beats, b.error = none → ∀ i ∈ b.raised, i < b.written ∧ ∃ row, s.IsAlert types i row
  covers : ∀ b ∈ s.beats, b.error = none → ∀ i row, s.IsAlert types i row → i < b.written →
    ∃ other ∈ s.beats, other.error = none ∧ other.order ≤ b.order ∧ i ∈ other.raised
  once : ∀ b ∈ s.beats, ∀ other ∈ s.beats, b.error = none → other.error = none → ∀ i ∈ b.raised, i ∈ other.raised →
    b.order = other.order
  distinct : ∀ b ∈ s.beats, ∀ other ∈ s.beats, b.order = other.order → b = other
  spaced : s.Spaced intervalSecs

theorem Sound.countsOnce {s : AlertServer Kind} (sound : s.Sound types intervalSecs) : s.CountsOnce types := by
  intro b there ok i
  constructor
  · intro raised
    obtain ⟨before, row, alert⟩ := sound.counts b there ok i raised
    refine ⟨⟨row, alert⟩, before, fun other there' ok' before' => ?_⟩
    obtain ⟨earlier, there'', ok'', sooner, raised'⟩ := sound.covers other there' ok' i row alert before'
    have same := sound.once b there earlier there'' ok ok'' i raised raised'
    omega
  · rintro ⟨⟨row, alert⟩, before, first⟩
    obtain ⟨other, there', ok', sooner, raised⟩ := sound.covers b there ok i row alert before
    have later := first other there' ok' (sound.counts other there' ok' i raised).1
    rwa [sound.distinct b there other there' (by omega)]

end AlertServer

/-- The alerts a heartbeat has counted, by their places. -/
def HeartbeatPhase.raised : HeartbeatPhase → List Nat
  | .loading => []
  | .counting _ => []
  | .acknowledging _ raised => raised
  | .delivering _ raised _ => raised
  | .finishing raised _ _ _ => raised
  | .recording raised _ _ _ => raised

/-- The event is out, and the record is not. -/
def HeartbeatPhase.emitted : HeartbeatPhase → Bool
  | .recording .. => true
  | _ => false

/-- Those of them that its event has made known. -/
def HeartbeatPhase.known (phase : HeartbeatPhase) : List Nat := if phase.emitted then phase.raised else []

namespace AlertServer
variable {Kind : Type} (types : AuditEventTypes Kind) (intervalSecs : Nat)

/-- Counted is what the latest recorded run covers, and the alerts made known since. -/
def Level (s : AlertServer Kind) (known : List Nat) : Prop :=
  ∀ i row, s.IsAlert types i row → (s.Counted i ↔ s.Settled row.createdAt ∨ i ∈ known)

/-- The ticker's heartbeats are recorded. -/
def Kept (s : AlertServer Kind) : Prop := ∀ b ∈ s.beats, b.fromTicker = true → s.Settled b.startedAt

/-- When the ticker has found a heartbeat due, its heartbeats lie the interval back. -/
def DueInTime (s : AlertServer Kind) : Prop :=
  s.ticker = .due → ∀ b ∈ s.beats, b.fromTicker = true → intervalSecs * 1000000 ≤ s.clock - b.startedAt

/-- What a heartbeat counts are the alerts before its start that no recorded run covers. -/
def Exact (s : AlertServer Kind) (h : Heartbeat) : Prop :=
  ∀ i, i ∈ h.phase.raised ↔ i < h.written ∧ ∃ row, s.IsAlert types i row ∧ ¬ s.Settled row.createdAt

/-- What is so while no heartbeat runs. -/
structure Between (s : AlertServer Kind) : Prop where
  level : s.Level types []
  kept : s.Kept
  ticker : s.ticker ≠ .beating

/-- What is so while this heartbeat runs. -/
structure Beating (s : AlertServer Kind) (h : Heartbeat) : Prop where
  past : h.startedAt ≤ s.clock
  order : h.order < s.begun
  written : h.written ≤ s.auditLogs.length
  early : ∀ i row, s.IsAlert types i row → i < h.written → row.createdAt ≤ h.startedAt
  late : ∀ i row, s.IsAlert types i row → h.written ≤ i → h.phase.hasCounted = true ∧ h.startedAt < row.createdAt
  ticker : s.ticker = .beating ↔ h.fromTicker = true
  since : ∀ since, h.phase = .counting since → since = s.latestAlertHeartbeatRun
  exact : h.phase.hasCounted = true → s.Exact types h
  failed : ∀ raised unacknowledged deliveriesFailed e,
    h.phase = .finishing raised unacknowledged deliveriesFailed (some e) → raised = []
  level : s.Level types h.phase.known
  kept : h.phase.emitted = true ∧ h.fromTicker = true ∨ s.Kept
  keptOrEarlier : ∀ b ∈ s.beats, b.fromTicker = true → s.Settled b.startedAt ∨ b.startedAt ≤ h.startedAt
  ahead : h.phase.emitted = false → ∀ b ∈ s.beats, b.order < h.order
  spaced : h.phase.emitted = false → h.fromTicker = true →
    ∀ b ∈ s.beats, b.fromTicker = true → intervalSecs * 1000000 ≤ h.startedAt - b.startedAt

structure Inv (s : AlertServer Kind) : Prop where
  sound : s.Sound types intervalSecs
  due : s.DueInTime intervalSecs
  stage : s.running = [] ∧ s.Between types ∨ ∃ h, s.running = [h] ∧ s.Beating types intervalSecs h

section
variable {types intervalSecs} {s t : AlertServer Kind}

theorem settled_iff (s : AlertServer Kind) (time : Int) :
    s.Settled time ↔ ∃ latest, s.latestAlertHeartbeatRun = some latest ∧ time ≤ latest := by
  constructor
  · rintro ⟨run, there, covers⟩
    have member : run.startedAt ∈ s.runs.map (·.startedAt) := List.mem_map_of_mem there
    obtain ⟨latest, found⟩ := Option.isSome_iff_exists.mp (List.isSome_max?_of_mem member)
    have most := (List.max?_eq_some_iff.mp found).2 run.startedAt member
    exact ⟨latest, found, by omega⟩
  · rintro ⟨latest, found, covers⟩
    obtain ⟨run, there, rfl⟩ := List.mem_map.mp (List.max?_eq_some_iff.mp found).1
    exact ⟨run, there, covers⟩

theorem isAfter_latest (s : AlertServer Kind) (time : Int) :
    isAfter s.latestAlertHeartbeatRun time = true ↔ ¬ s.Settled time := by
  rw [settled_iff]
  cases latest : s.latestAlertHeartbeatRun <;> simp [isAfter]

theorem isAlert_append {i : Nat} {row : AuditRow Kind} {new : List (AuditRow Kind)}
    (grown : t.auditLogs = s.auditLogs ++ new) :
    t.IsAlert types i row ↔ s.IsAlert types i row ∨
      s.auditLogs.length ≤ i ∧ new[i - s.auditLogs.length]? = some row ∧ row.eventType ∈ types.counted := by
  simp only [IsAlert, grown, List.getElem?_append]
  split
  · have inside : ¬ s.auditLogs.length ≤ i := by omega
    simp [inside]
  · simp [show s.auditLogs.length ≤ i by omega]

theorem IsAlert.inside {i : Nat} {row : AuditRow Kind} (alert : s.IsAlert types i row) : i < s.auditLogs.length := by
  obtain ⟨inside, -⟩ := List.getElem?_eq_some_iff.mp alert.1
  exact inside

/-- Time goes by, and there may be more audit rows and recorded runs. -/
theorem Sound.later {new : List (AuditRow Kind)} (sound : s.Sound types intervalSecs) (clock : s.clock ≤ t.clock)
    (begun : s.begun ≤ t.begun) (beats : t.beats = s.beats) (grown : t.auditLogs = s.auditLogs ++ new)
    (rows : ∀ row ∈ new, row.createdAt ≤ t.clock) (runs : ∀ run ∈ t.runs, run ∈ s.runs ∨ run.startedAt ≤ t.clock) :
    t.Sound types intervalSecs where
  rowsPast := by
    intro row there
    rw [grown] at there
    rcases List.mem_append.mp there with old | fresh
    · exact Int.le_trans (sound.rowsPast row old) clock
    · exact rows row fresh
  runsPast := by
    intro run there
    rcases runs run there with old | past
    · exact Int.le_trans (sound.runsPast run old) clock
    · exact past
  orders := by
    intro b there
    rw [beats] at there
    exact Nat.lt_of_lt_of_le (sound.orders b there) begun
  written := by
    intro b there
    rw [beats] at there
    have before := sound.written b there
    simp only [grown, List.length_append]
    omega
  counts := by
    intro b there ok i raised
    rw [beats] at there
    obtain ⟨before, row, alert⟩ := sound.counts b there ok i raised
    exact ⟨before, row, (isAlert_append grown).mpr (.inl alert)⟩
  covers := by
    intro b there ok i row alert before
    rw [beats] at there ⊢
    rcases (isAlert_append grown).mp alert with old | ⟨past, -⟩
    · exact sound.covers b there ok i row old before
    · have inside := sound.written b there
      omega
  once := by
    rw [beats]
    exact sound.once
  distinct := by
    rw [beats]
    exact sound.distinct
  spaced := by
    simp only [Spaced, beats]
    exact sound.spaced

theorem Sound.same (sound : s.Sound types intervalSecs) (clock : t.clock = s.clock) (begun : s.begun ≤ t.begun)
    (beats : t.beats = s.beats) (rows : t.auditLogs = s.auditLogs) (runs : t.runs = s.runs) :
    t.Sound types intervalSecs := by
  have grown : t.auditLogs = s.auditLogs ++ [] := by rw [rows, List.append_nil]
  exact sound.later (Int.le_of_eq clock.symm) begun beats grown (by simp) fun run there => .inl (runs ▸ there)

theorem Level.later {known : List Nat} {new : List (AuditRow Kind)} (level : s.Level types known)
    (sound : s.Sound types intervalSecs) (grown : t.auditLogs = s.auditLogs ++ new) (beats : t.beats = s.beats)
    (runs : t.runs = s.runs) (inside : ∀ i ∈ known, i < s.auditLogs.length)
    (fresh : ∀ row ∈ new, row.eventType ∈ types.counted → ¬ s.Settled row.createdAt) : t.Level types known := by
  intro i row alert
  simp only [Counted, Settled, beats, runs]
  rcases (isAlert_append grown).mp alert with old | ⟨past, there, kind⟩
  · exact level i row old
  · have unsettled := fresh row (List.mem_of_getElem? there) kind
    constructor
    · rintro ⟨b, member, ok, raised⟩
      have before := (sound.counts b member ok i raised).1
      have within := sound.written b member
      omega
    · rintro (settled | known)
      · exact absurd settled unsettled
      · have within := inside i known
        omega

theorem Exact.inside {h : Heartbeat} (exact : s.Exact types h) {i : Nat} (raised : i ∈ h.phase.raised) :
    i < h.written :=
  ((exact i).mp raised).1

theorem Beating.known_inside {h : Heartbeat} (beating : s.Beating types intervalSecs h) {i : Nat}
    (known : i ∈ h.phase.known) : i < s.auditLogs.length := by
  have within := beating.written
  cases phase : h.phase with
  | recording raised unacknowledged deliveriesFailed error =>
    have exact := beating.exact (by simp [phase, HeartbeatPhase.hasCounted])
    rw [phase] at known
    have before := Exact.inside exact (i := i) (by rw [phase]; exact known)
    omega
  | _ => simp [phase, HeartbeatPhase.known, HeartbeatPhase.emitted] at known

/-- Rows may be written while a heartbeat runs, once it has counted. -/
theorem Beating.later {h : Heartbeat} {new : List (AuditRow Kind)} (beating : s.Beating types intervalSecs h)
    (sound : s.Sound types intervalSecs) (clock : s.clock ≤ t.clock) (begun : t.begun = s.begun)
    (grown : t.auditLogs = s.auditLogs ++ new) (beats : t.beats = s.beats) (runs : t.runs = s.runs)
    (ticker : t.ticker = s.ticker)
    (fresh : ∀ row ∈ new, row.eventType ∈ types.counted →
      ¬ s.Settled row.createdAt ∧ h.phase.hasCounted = true ∧ h.startedAt < row.createdAt) :
    t.Beating types intervalSecs h where
  past := Int.le_trans beating.past clock
  order := by
    rw [begun]
    exact beating.order
  written := by
    have within := beating.written
    simp only [grown, List.length_append]
    omega
  early := by
    intro i row alert before
    have within := beating.written
    rcases (isAlert_append grown).mp alert with old | ⟨past, -⟩
    · exact beating.early i row old before
    · omega
  late := by
    intro i row alert after
    rcases (isAlert_append grown).mp alert with old | ⟨-, there, kind⟩
    · exact beating.late i row old after
    · exact (fresh row (List.mem_of_getElem? there) kind).2
  ticker := by
    rw [ticker]
    exact beating.ticker
  since := by
    simp only [latestAlertHeartbeatRun, runs]
    exact beating.since
  exact := by
    intro counted i
    have within := beating.written
    have before := beating.exact counted i
    simp only [Settled, runs]
    constructor
    · intro raised
      obtain ⟨inside, row, alert, unsettled⟩ := before.mp raised
      exact ⟨inside, row, (isAlert_append grown).mpr (.inl alert), unsettled⟩
    · rintro ⟨inside, row, alert, unsettled⟩
      rcases (isAlert_append grown).mp alert with old | ⟨past, -⟩
      · exact before.mpr ⟨inside, row, old, unsettled⟩
      · omega
  failed := beating.failed
  level := beating.level.later sound grown beats runs (fun _ known => beating.known_inside known)
    fun row there kind => (fresh row there kind).1
  kept := by
    simp only [Kept, Settled, beats, runs]
    exact beating.kept
  keptOrEarlier := by
    simp only [Settled, beats, runs]
    exact beating.keptOrEarlier
  ahead := by
    rw [beats]
    exact beating.ahead
  spaced := by
    rw [beats]
    exact beating.spaced

section
variable (inv : s.Inv types intervalSecs)
include inv

/-- Time goes by, and audit rows are written. -/
theorem Inv.later {new : List (AuditRow Kind)} (clock : s.clock ≤ t.clock) (running : t.running = s.running)
    (begun : t.begun = s.begun) (grown : t.auditLogs = s.auditLogs ++ new) (beats : t.beats = s.beats)
    (runs : t.runs = s.runs) (ticker : t.ticker = s.ticker) (past : ∀ row ∈ new, row.createdAt ≤ t.clock)
    (fresh : ∀ row ∈ new, row.eventType ∈ types.counted → ¬ s.Settled row.createdAt ∧
      ∀ h ∈ s.running, h.phase.hasCounted = true ∧ h.startedAt < row.createdAt) :
    t.Inv types intervalSecs where
  sound := inv.sound.later clock (by omega) beats grown past fun run there => .inl (runs ▸ there)
  due := by
    intro due b there fromTicker
    rw [beats] at there
    have before := inv.due (ticker ▸ due) b there fromTicker
    omega
  stage := by
    rw [running]
    rcases inv.stage with ⟨idle, between⟩ | ⟨h, alone, beating⟩
    · refine .inl ⟨idle, ?_, ?_, by rw [ticker]; exact between.ticker⟩
      · exact between.level.later inv.sound grown beats runs (by simp) fun row there kind => (fresh row there kind).1
      · simp only [Kept, Settled, beats, runs]
        exact between.kept
    · refine .inr ⟨h, alone, beating.later inv.sound clock begun grown beats runs ticker fun row there kind => ?_⟩
      have apart := fresh row there kind
      exact ⟨apart.1, apart.2 h (by simp [alone])⟩

theorem Inv.kept (apart : s.ticker ≠ .beating) : s.Kept := by
  rcases inv.stage with ⟨-, between⟩ | ⟨h, -, beating⟩
  · exact between.kept
  · rcases beating.kept with ⟨-, fromTicker⟩ | kept
    · exact absurd (beating.ticker.mpr fromTicker) apart
    · exact kept

theorem Inv.ticked {ticker : HeartbeatTicker} (before : s.ticker ≠ .beating) (after : ticker ≠ .beating)
    (due : { s with ticker }.DueInTime intervalSecs) :
    { s with ticker }.Inv types intervalSecs where
  sound := inv.sound.same rfl (Nat.le_refl _) rfl rfl rfl
  due := due
  stage := by
    rcases inv.stage with ⟨idle, between⟩ | ⟨h, alone, beating⟩
    · exact .inl ⟨idle, between.level, between.kept, after⟩
    · have requested : h.fromTicker ≠ true := fun fromTicker => before (beating.ticker.mpr fromTicker)
      have neither : ticker = .beating ↔ h.fromTicker = true := by simp [after, requested]
      exact .inr ⟨h, alone, { beating with ticker := neither }⟩

/-- A heartbeat begins, and no other runs. -/
theorem Inv.begins {fromTicker : Bool} {ticker : HeartbeatTicker} (idle : s.running = [])
    (fits : ticker = .beating ↔ fromTicker = true) (found : fromTicker = true → s.ticker = .due)
    (due : { s with ticker }.DueInTime intervalSecs) :
    { s.beginHeartbeat fromTicker with ticker }.Inv types intervalSecs := by
  obtain ⟨-, between⟩ | ⟨h, alone, -⟩ := inv.stage
  · refine ⟨?_, due, .inr ⟨_, by simp [beginHeartbeat, idle]; rfl, ?_⟩⟩
    · exact inv.sound.same rfl (Nat.le_succ _) rfl rfl rfl
    · refine ⟨Int.le_refl _, Nat.lt_succ_self _, Nat.le_refl _, ?_, ?_, fits, by simp,
        by simp [HeartbeatPhase.hasCounted], by simp, between.level, .inr between.kept, ?_, ?_, ?_⟩
      · intro i row alert _
        exact inv.sound.rowsPast row (List.mem_of_getElem? alert.1)
      · intro i row alert after
        have inside : i < s.auditLogs.length := alert.inside
        have past : s.auditLogs.length ≤ i := after
        omega
      · intro b there own
        exact .inl (between.kept b there own)
      · intro _ b there
        exact inv.sound.orders b there
      · intro _ own b there fromTicker
        exact inv.due (found own) b there fromTicker
  · simp [idle] at alone

end

theorem Beating.rephased {h : Heartbeat} {phase : HeartbeatPhase} (beating : s.Beating types intervalSecs h)
    (before : h.phase.emitted = false) (after : phase.emitted = false)
    (counted : h.phase.hasCounted = true → phase.hasCounted = true)
    (since : ∀ since, phase = .counting since → since = s.latestAlertHeartbeatRun)
    (exact : phase.hasCounted = true → s.Exact types { h with phase })
    (failed : ∀ raised unacknowledged deliveriesFailed e,
      phase = .finishing raised unacknowledged deliveriesFailed (some e) → raised = []) :
    { s with running := [{ h with phase }] }.Beating types intervalSecs { h with phase } where
  past := beating.past
  order := beating.order
  written := beating.written
  early := beating.early
  late := by
    intro i row alert past
    have late := beating.late i row alert past
    exact ⟨counted late.1, late.2⟩
  ticker := beating.ticker
  since := since
  exact := exact
  failed := failed
  level := by
    have level := beating.level
    simp only [HeartbeatPhase.known, before] at level
    simp only [HeartbeatPhase.known, after]
    exact level
  kept := by
    rcases beating.kept with ⟨emitted, -⟩ | kept
    · simp [before] at emitted
    · exact .inr kept
  keptOrEarlier := beating.keptOrEarlier
  ahead := fun _ => beating.ahead before
  spaced := fun _ => beating.spaced before

theorem Inv.rephased {h : Heartbeat} {phase : HeartbeatPhase} (inv : s.Inv types intervalSecs)
    (beating : { s with running := [{ h with phase }] }.Beating types intervalSecs { h with phase }) :
    { s with running := [{ h with phase }] }.Inv types intervalSecs where
  sound := inv.sound.same rfl (Nat.le_refl _) rfl rfl rfl
  due := inv.due
  stage := .inr ⟨_, rfl, beating⟩

theorem Exact.nothing {h : Heartbeat} (none : h.phase.raised = []) (still : ¬ s.Waiting types) : s.Exact types h := by
  intro i
  simp only [none, List.not_mem_nil, false_iff]
  rintro ⟨-, row, alert, unsettled⟩
  refine still ⟨row, List.mem_of_getElem? alert.1, alert.2, fun run there => ?_⟩
  exact Int.not_le.mp fun covers => unsettled ⟨run, there, covers⟩

/-- What the event of a heartbeat adds to the counts. -/
theorem Sound.beat {h : Heartbeat} {raised : List Nat} {unacknowledged deliveriesFailed : Nat} {error : Option String}
    (sound : s.Sound types intervalSecs) (beating : s.Beating types intervalSecs h)
    (finishing : h.phase = .finishing raised unacknowledged deliveriesFailed error) :
    ({ s with beats := s.beats ++ [⟨h.fromTicker, h.startedAt, h.order, h.written, raised, error⟩] } :
      AlertServer Kind).Sound types intervalSecs := by
  have silent : h.phase.emitted = false := by simp [finishing, HeartbeatPhase.emitted]
  have exact : ∀ i, i ∈ raised ↔ i < h.written ∧ ∃ row, s.IsAlert types i row ∧ ¬ s.Settled row.createdAt := by
    have exact := beating.exact (by simp [finishing, HeartbeatPhase.hasCounted])
    simpa [Exact, finishing, HeartbeatPhase.raised] using exact
  have level : ∀ i row, s.IsAlert types i row → (s.Counted i ↔ s.Settled row.createdAt) := by
    intro i row alert
    have level := beating.level i row alert
    simpa [HeartbeatPhase.known, silent] using level
  have ahead := beating.ahead silent
  have apart : ∀ b ∈ s.beats, b.error = none → ∀ i ∈ b.raised, i ∉ raised := by
    intro b there ok i before now
    obtain ⟨-, row, alert, unsettled⟩ := (exact i).mp now
    exact unsettled ((level i row alert).mp ⟨b, there, ok, before⟩)
  refine ⟨sound.rowsPast, sound.runsPast, ?_, ?_, ?_, ?_, ?_, ?_, ?_⟩
  · intro b there
    rcases List.mem_append.mp there with old | new
    · exact sound.orders b old
    · obtain rfl := List.mem_singleton.mp new
      exact beating.order
  · intro b there
    rcases List.mem_append.mp there with old | new
    · exact sound.written b old
    · obtain rfl := List.mem_singleton.mp new
      exact beating.written
  · intro b there ok i now
    rcases List.mem_append.mp there with old | new
    · exact sound.counts b old ok i now
    · obtain rfl := List.mem_singleton.mp new
      obtain ⟨before, row, alert, -⟩ := (exact i).mp now
      exact ⟨before, row, alert⟩
  · intro b there ok i row alert before
    rcases List.mem_append.mp there with old | new
    · obtain ⟨other, member, found⟩ := sound.covers b old ok i row alert before
      exact ⟨other, List.mem_append_left _ member, found⟩
    · obtain rfl := List.mem_singleton.mp new
      by_cases settled : s.Settled row.createdAt
      · obtain ⟨other, member, ok', raised'⟩ := (level i row alert).mpr settled
        exact ⟨other, List.mem_append_left _ member, ok', Nat.le_of_lt (ahead other member), raised'⟩
      · have raised' : i ∈ raised := (exact i).mpr ⟨before, row, alert, settled⟩
        exact ⟨_, there, ok, Nat.le_refl _, raised'⟩
  · intro b there other there' ok ok' i now now'
    rcases List.mem_append.mp there with old | new <;> rcases List.mem_append.mp there' with old' | new'
    · exact sound.once b old other old' ok ok' i now now'
    · obtain rfl := List.mem_singleton.mp new'
      exact absurd now' (apart b old ok i now)
    · obtain rfl := List.mem_singleton.mp new
      exact absurd now (apart other old' ok' i now')
    · rw [List.mem_singleton.mp new, List.mem_singleton.mp new']
  · intro b there other there' same
    rcases List.mem_append.mp there with old | new <;> rcases List.mem_append.mp there' with old' | new'
    · exact sound.distinct b old other old' same
    · obtain rfl := List.mem_singleton.mp new'
      exact absurd same (Nat.ne_of_lt (ahead b old))
    · obtain rfl := List.mem_singleton.mp new
      exact absurd same.symm (Nat.ne_of_lt (ahead other old'))
    · rw [List.mem_singleton.mp new, List.mem_singleton.mp new']
  · intro b there other there' own own' sooner
    rcases List.mem_append.mp there with old | new <;> rcases List.mem_append.mp there' with old' | new'
    · exact sound.spaced b old other old' own own' sooner
    · obtain rfl := List.mem_singleton.mp new'
      exact beating.spaced silent own' b old own
    · obtain rfl := List.mem_singleton.mp new
      exact absurd sooner (Nat.not_lt.mpr (Nat.le_of_lt (ahead other old')))
    · rw [List.mem_singleton.mp new, List.mem_singleton.mp new'] at sooner
      exact absurd sooner (Nat.lt_irrefl _)

section
variable (inv : s.Inv types intervalSecs)
include inv

theorem Inv.emits {h : Heartbeat} {raised : List Nat} {unacknowledged deliveriesFailed : Nat} {error : Option String}
    (beating : s.Beating types intervalSecs h)
    (finishing : h.phase = .finishing raised unacknowledged deliveriesFailed error) :
    ({ s with
      beats := s.beats ++ [⟨h.fromTicker, h.startedAt, h.order, h.written, raised, error⟩]
      running := [{ h with phase := .recording raised unacknowledged deliveriesFailed error }] } :
      AlertServer Kind).Inv types intervalSecs := by
  have silent : h.phase.emitted = false := by simp [finishing, HeartbeatPhase.emitted]
  have kept : s.Kept := by
    rcases beating.kept with ⟨emitted, -⟩ | kept
    · simp [silent] at emitted
    · exact kept
  refine ⟨?_, ?_, .inr ⟨_, rfl, ?_⟩⟩
  · exact (inv.sound.beat beating finishing).same rfl (Nat.le_refl _) rfl rfl rfl
  · intro due b there own
    rcases List.mem_append.mp there with old | new
    · exact inv.due due b old own
    · obtain rfl := List.mem_singleton.mp new
      have beats := beating.ticker.mpr own
      exact absurd (due.symm.trans beats) (by simp)
  refine ⟨beating.past, beating.order, beating.written, beating.early, ?_, beating.ticker, by simp, ?_, by simp,
    ?_, ?_, ?_,
    by simp [HeartbeatPhase.emitted], by simp [HeartbeatPhase.emitted]⟩
  · intro i row alert after
    exact ⟨rfl, (beating.late i row alert after).2⟩
  · intro _
    have exact := beating.exact (by simp [finishing, HeartbeatPhase.hasCounted])
    simp only [Exact, finishing, HeartbeatPhase.raised] at exact
    exact exact
  · intro i row alert
    have level := beating.level i row alert
    simp only [HeartbeatPhase.known, silent, Bool.false_eq_true, if_false, List.not_mem_nil, or_false] at level
    simp only [HeartbeatPhase.known, HeartbeatPhase.emitted, HeartbeatPhase.raised, if_true]
    have split : (∃ b ∈ s.beats ++ [⟨h.fromTicker, h.startedAt, h.order, h.written, raised, error⟩],
        b.error = none ∧ i ∈ b.raised) ↔ s.Counted i ∨ error = none ∧ i ∈ raised := by
      simp only [List.mem_append, List.mem_singleton, or_and_right, exists_or, exists_eq_left]
      rfl
    have ok : i ∈ raised → error = none := by
      intro now
      cases outcome : error with
      | none => rfl
      | some e =>
        have none := beating.failed raised unacknowledged deliveriesFailed e (by rw [finishing, outcome])
        simp [none] at now
    refine split.trans ?_
    rw [level]
    exact or_congr Iff.rfl (and_iff_right_of_imp ok)
  · by_cases own : h.fromTicker = true
    · exact .inl ⟨rfl, own⟩
    · refine .inr fun b there own' => ?_
      rcases List.mem_append.mp there with old | new
      · exact kept b old own'
      · obtain rfl := List.mem_singleton.mp new
        exact absurd own' own
  · intro b there own
    rcases List.mem_append.mp there with old | new
    · exact .inl (kept b old own)
    · obtain rfl := List.mem_singleton.mp new
      exact .inr (Int.le_refl _)

/-- A run is recorded, and its heartbeat is over. -/
theorem Inv.records {h : Heartbeat} {run : AlertHeartbeatRun} (beating : s.Beating types intervalSecs h)
    (emitted : h.phase.emitted = true) (start : run.startedAt = h.startedAt) :
    { s with
      runs := s.runs ++ [run]
      ticker := if h.fromTicker then .waiting else s.ticker
      running := [] }.Inv types intervalSecs := by
  have settled (time : Int) : { s with runs := s.runs ++ [run] }.Settled time ↔
      s.Settled time ∨ time ≤ h.startedAt := by
    simp only [Settled, List.mem_append, List.mem_singleton, or_and_right, exists_or, exists_eq_left, start]
  have counted : h.phase.hasCounted = true := by
    cases phase : h.phase <;> simp [phase, HeartbeatPhase.emitted] at emitted
    rfl
  have known : h.phase.known = h.phase.raised := by simp [HeartbeatPhase.known, emitted]
  refine ⟨?_, ?_, .inl ⟨rfl, ?_, ?_, ?_⟩⟩
  · refine inv.sound.later (Int.le_refl _) (Nat.le_refl _) rfl (List.append_nil _).symm (by simp)
      fun other there => ?_
    rcases List.mem_append.mp there with old | new
    · exact .inl old
    · rw [List.mem_singleton.mp new, start]
      exact .inr beating.past
  · intro due
    simp only at due
    split at due
    · simp at due
    · exact inv.due due
  · intro i row alert
    have level := beating.level i row alert
    rw [known] at level
    simp only [List.not_mem_nil, or_false]
    refine level.trans (Iff.trans ?_ (settled row.createdAt).symm)
    refine or_congr_right' fun unsettled => ?_
    constructor
    · intro now
      exact beating.early i row alert (Exact.inside (beating.exact counted) now)
    · intro covered
      refine (beating.exact counted i).mpr ⟨?_, row, alert, unsettled⟩
      by_contra after
      have late := (beating.late i row alert (Nat.not_lt.mp after)).2
      omega
  · intro b there own
    exact (settled b.startedAt).mpr (beating.keptOrEarlier b there own)
  · have ticker := beating.ticker
    split
    · simp
    · rename_i requested
      exact fun beats => requested (ticker.mp beats)

/-- The heartbeats under way are lost, and could be spared. -/
theorem Inv.drops {ticker : HeartbeatTicker} (spare : ∀ h ∈ s.running, h.Dispensable) (after : ticker ≠ .beating)
    (due : { s with ticker }.DueInTime intervalSecs) : { s with ticker, running := [] }.Inv types intervalSecs := by
  refine ⟨?_, due, .inl ⟨rfl, ?_⟩⟩
  · exact inv.sound.same rfl (Nat.le_refl _) rfl rfl rfl
  rcases inv.stage with ⟨-, between⟩ | ⟨h, alone, beating⟩
  · exact ⟨between.level, between.kept, after⟩
  · have spare := spare h (by simp [alone])
    have level := beating.level
    have kept := beating.kept
    cases phase : h.phase with
    | recording raised unacknowledged deliveriesFailed error =>
      obtain ⟨requested, none⟩ : h.fromTicker = false ∧ raised = [] := by
        simpa [Heartbeat.Dispensable, phase] using spare
      simp only [requested, Bool.false_eq_true, and_false, false_or] at kept
      simp only [phase, none, HeartbeatPhase.known, HeartbeatPhase.emitted, HeartbeatPhase.raised, if_true] at level
      exact ⟨level, kept, after⟩
    | _ =>
      simp only [phase, HeartbeatPhase.emitted, Bool.false_eq_true, false_and, false_or] at kept
      simp only [phase, HeartbeatPhase.known, HeartbeatPhase.emitted, Bool.false_eq_true, if_false] at level
      exact ⟨level, kept, after⟩

theorem Inv.goes_on {h : Heartbeat} {phase : HeartbeatPhase} (beating : s.Beating types intervalSecs h)
    (before : h.phase.emitted = false) (after : phase.emitted = false) (counted : phase.hasCounted = true)
    (exact : s.Exact types { h with phase }) (since : ∀ since, phase ≠ .counting since)
    (failed : ∀ raised unacknowledged deliveriesFailed e,
      phase = .finishing raised unacknowledged deliveriesFailed (some e) → raised = []) :
    { s with running := [{ h with phase }] }.Inv types intervalSecs :=
  inv.rephased (beating.rephased before after (fun _ => counted) (fun time same => absurd same (since time))
    (fun _ => exact)
    failed)

theorem Inv.gives_up {h : Heartbeat} {unacknowledged : Nat} {e : String} (beating : s.Beating types intervalSecs h)
    (before : h.phase.emitted = false)
    (nothing : s.Exact types { h with phase := .finishing [] unacknowledged 0 (some e) }) :
    { s with running := [{ h with phase := .finishing [] unacknowledged 0 (some e) }] }.Inv types intervalSecs := by
  refine inv.goes_on beating before rfl rfl nothing ?_ ?_
  · simp
  · intro raised unacknowledged deliveriesFailed e same
    simp only [HeartbeatPhase.finishing.injEq] at same
    exact same.1.symm

end

theorem inv_new (clock : Int) : (new clock : AlertServer Kind).Inv types intervalSecs := by
  refine ⟨⟨?_, ?_, ?_, ?_, ?_, ?_, ?_, ?_, ?_⟩, ?_, .inl ⟨rfl, ?_, ?_, ?_⟩⟩ <;>
    simp [new, DueInTime, Level, Kept, IsAlert, Spaced]

theorem due_apart (due : s.due intervalSecs = some true) {time : Int} (settled : s.Settled time) :
    intervalSecs * 1000000 ≤ s.clock - time := by
  obtain ⟨latest, found, before⟩ := (s.settled_iff time).mp settled
  simp only [AlertServer.due, found] at due
  split at due
  · simp at due
  · split at due
    · have apart : intervalSecs * 1000000 ≤ s.clock - latest := by simpa using due
      omega
    · simp at due

end

end AlertServer

namespace AlertServer
variable {Kind : Type} [DecidableEq Kind] {types : AuditEventTypes Kind} {intervalSecs : Nat} {s : AlertServer Kind}

theorem mem_countAuditRowsSince {kinds : List Kind} {since : Option Int} {i : Nat} :
    i ∈ s.countAuditRowsSince kinds since ↔
      ∃ row, s.auditLogs[i]? = some row ∧ row.eventType ∈ kinds ∧ isAfter since row.createdAt = true := by
  simp only [countAuditRowsSince, List.mem_filter, List.mem_range]
  constructor
  · rintro ⟨-, counted⟩
    obtain ⟨row, there, kind⟩ := (Option.any_eq_true _ _).mp counted
    simp only [Bool.and_eq_true, decide_eq_true_eq] at kind
    exact ⟨row, there, kind⟩
  · rintro ⟨row, there, kind, after⟩
    obtain ⟨inside, -⟩ := List.getElem?_eq_some_iff.mp there
    exact ⟨inside, by simp [there, kind, after]⟩

theorem Inv.checks (inv : s.Inv types intervalSecs) (failure : Option String) :
    (s.step types intervalSecs (.check failure)).Inv types intervalSecs := by
  by_cases off : s.ticker ≠ .waiting ∨ failure.isSome
  · simpa only [step, if_pos off] using inv
  · have waiting : s.ticker = .waiting := by
      by_contra other
      exact off (.inl other)
    have apart : s.ticker ≠ .beating := by simp [waiting]
    simp only [step, if_neg off]
    cases due : s.due intervalSecs with
    | none => exact inv.ticked apart (by simp) (by simp [DueInTime])
    | some now =>
      cases now with
      | false => exact inv
      | true =>
        refine inv.ticked apart (by simp) fun _ b there own => ?_
        exact due_apart due (inv.kept apart b there own)

theorem Beating.counts {h : Heartbeat} {since : Option Int} (beating : s.Beating types intervalSecs h)
    (counting : h.phase = .counting since) :
    s.Exact types { h with phase := .acknowledging since (s.countAuditRowsSince types.counted since) } := by
  intro i
  obtain rfl := beating.since since counting
  simp only [HeartbeatPhase.raised, mem_countAuditRowsSince, isAfter_latest]
  constructor
  · rintro ⟨row, there, kind, unsettled⟩
    refine ⟨?_, row, ⟨there, kind⟩, unsettled⟩
    by_contra after
    have late := (beating.late i row ⟨there, kind⟩ (Nat.not_lt.mp after)).1
    simp [counting, HeartbeatPhase.hasCounted] at late
  · rintro ⟨-, row, ⟨there, kind⟩, unsettled⟩
    exact ⟨row, there, kind, unsettled⟩

theorem Inv.advances {index : Nat} {h : Heartbeat} {failure : Option String} (inv : s.Inv types intervalSecs)
    (there : s.running[index]? = some h) (clear : s.Clear types (.advance index failure)) :
    (s.advance types index h failure).Inv types intervalSecs := by
  rcases inv.stage with ⟨idle, -⟩ | ⟨only, alone, beating⟩
  · simp [idle] at there
  obtain ⟨rfl, rfl⟩ : index = 0 ∧ only = h := by
    rw [alone, List.getElem?_singleton] at there
    simpa using there
  have allowed := fun failed => clear failed only there
  have exact := beating.exact
  cases phase : only.phase with
  | loading =>
    have silent : only.phase.emitted = false := by rw [phase]; rfl
    cases failure with
    | none =>
      simp only [advance, phase, setPhase, alone, List.set_cons_zero]
      refine inv.rephased (beating.rephased silent rfl ?_ ?_ ?_ ?_) <;> simp [phase, HeartbeatPhase.hasCounted]
    | some e =>
      have still : ¬ s.Waiting types := by simpa [MayFail, phase] using allowed rfl
      simp only [advance, phase, setPhase, alone, List.set_cons_zero]
      exact inv.gives_up beating silent (Exact.nothing rfl still)
  | counting since =>
    have silent : only.phase.emitted = false := by rw [phase]; rfl
    cases failure with
    | none =>
      simp only [advance, phase, setPhase, alone, List.set_cons_zero]
      refine inv.goes_on beating silent rfl rfl (beating.counts phase) ?_ ?_ <;> simp
    | some e =>
      have still : ¬ s.Waiting types := by simpa [MayFail, phase] using allowed rfl
      simp only [advance, phase, setPhase, alone, List.set_cons_zero]
      exact inv.gives_up beating silent (Exact.nothing rfl still)
  | acknowledging since raised =>
    have silent : only.phase.emitted = false := by rw [phase]; rfl
    have exact := beating.exact (by rw [phase]; rfl)
    simp only [Exact, phase, HeartbeatPhase.raised] at exact
    cases failure with
    | none =>
      simp only [advance, phase, setPhase, alone, List.set_cons_zero]
      refine inv.goes_on beating silent rfl rfl exact ?_ ?_ <;> simp
    | some e =>
      obtain rfl : raised = [] := by simpa [MayFail, phase] using allowed rfl
      simp only [advance, phase, setPhase, alone, List.set_cons_zero]
      exact inv.gives_up beating silent exact
  | delivering since raised unacknowledged =>
    have silent : only.phase.emitted = false := by rw [phase]; rfl
    have exact := beating.exact (by rw [phase]; rfl)
    simp only [Exact, phase, HeartbeatPhase.raised] at exact
    cases failure with
    | none =>
      simp only [advance, phase, setPhase, alone, List.set_cons_zero]
      refine inv.goes_on beating silent rfl rfl exact ?_ ?_ <;> simp
    | some e =>
      obtain rfl : raised = [] := by simpa [MayFail, phase] using allowed rfl
      simp only [advance, phase, setPhase, alone, List.set_cons_zero]
      exact inv.gives_up beating silent exact
  | finishing raised unacknowledged deliveriesFailed error =>
    simp only [advance, phase, setPhase, alone, List.set_cons_zero]
    have beat := inv.emits beating phase
    refine beat.later (Int.le_refl _) rfl rfl rfl rfl rfl rfl ?_ ?_
    · intro row written
      split at written
      · simp at written
      · obtain rfl := List.mem_singleton.mp written
        exact Int.le_refl _
    · intro row written kind
      split at written
      · simp at written
      · rw [List.mem_singleton.mp written] at kind
        simp [AuditEventTypes.counted, types.aboutAlerts_alertHeartbeat] at kind
  | recording raised unacknowledged deliveriesFailed error =>
    have emitted : only.phase.emitted = true := by rw [phase]; rfl
    cases failure with
    | none =>
      simp only [advance, phase, alone, List.eraseIdx_cons_zero, Option.isSome_none, Bool.false_eq_true, if_false]
      exact inv.records beating emitted rfl
    | some e =>
      have spare : only.Dispensable := by simpa [MayFail, phase] using allowed rfl
      have requested : only.fromTicker = false := by
        simp only [Heartbeat.Dispensable, phase] at spare
        exact spare.1
      have apart : s.ticker ≠ .beating := by
        intro beats
        simpa [requested] using beating.ticker.mp beats
      simp only [advance, phase, alone, List.eraseIdx_cons_zero, Option.isSome_some, if_true, List.append_nil,
        requested, Bool.false_eq_true, if_false]
      exact inv.drops (by simpa [alone] using spare) apart inv.due

/-- A clear step keeps the counts right. -/
theorem Inv.step (inv : s.Inv types intervalSecs) {input : HeartbeatInput Kind} (clear : s.Clear types input) :
    (s.step types intervalSecs input).Inv types intervalSecs := by
  cases input with
  | pass micros =>
    have forward : s.clock ≤ s.clock + micros := by omega
    exact inv.later forward rfl rfl (List.append_nil _).symm rfl rfl rfl (by simp) (by simp)
  | audit eventType delay =>
    refine inv.later (Int.le_refl _) rfl rfl rfl rfl rfl rfl ?_ ?_
    · intro row written
      rw [List.mem_singleton.mp written]
      simp only [AlertServer.step]
      omega
    · intro row written kind
      rw [List.mem_singleton.mp written] at kind ⊢
      obtain ⟨apart, counted⟩ := clear kind
      refine ⟨?_, counted⟩
      rintro ⟨run, there, covers⟩
      exact absurd (apart run there) (Int.not_lt.mpr covers)
  | acknowledge row =>
    exact inv.later (Int.le_refl _) rfl rfl (List.append_nil _).symm rfl rfl rfl (by simp) (by simp)
  | deliveryFailed =>
    exact inv.later (Int.le_refl _) rfl rfl (List.append_nil _).symm rfl rfl rfl (by simp) (by simp)
  | check failure => exact inv.checks failure
  | begin =>
    by_cases found : s.ticker = .due
    · simp only [AlertServer.step, if_pos found]
      exact inv.begins (clear found) (by simp) (fun _ => found) (by simp [DueInTime])
    · simpa only [AlertServer.step, if_neg found] using inv
  | request =>
    have idle : s.running = [] := clear
    have ticker : s.ticker = .beating ↔ false = true := by
      rcases inv.stage with ⟨-, between⟩ | ⟨h, alone, -⟩
      · simp [between.ticker]
      · simp [idle] at alone
    exact inv.begins idle ticker (by simp) inv.due
  | advance index failure =>
    simp only [AlertServer.step]
    split
    · exact inv
    · rename_i h there
      exact inv.advances there clear
  | restart => exact inv.drops clear (by simp) (by simp [DueInTime])

end AlertServer

/-- In every run whose steps keep clear of them, each successful heartbeat counts the alerts it is the first
one after, and the ticker's heartbeats are the interval apart. -/
theorem alertMachine_countsOnce {Kind : Type} [DecidableEq Kind] (types : AuditEventTypes Kind) (intervalSecs : Nat)
    (clock : Int) {inputs : List (HeartbeatInput Kind)}
    (clear : EveryStep (fun past input => ((alertMachine types intervalSecs clock).run past).Clear types input)
      inputs)
    {past : List (HeartbeatInput Kind)} (front : past <+: inputs) :
    ((alertMachine types intervalSecs clock).run past).CountsOnce types ∧
      ((alertMachine types intervalSecs clock).run past).Spaced intervalSecs := by
  have inv : ((alertMachine types intervalSecs clock).run past).Inv types intervalSecs :=
    (alertMachine types intervalSecs clock).run_keeps (fun s => s.Inv types intervalSecs) (AlertServer.inv_new clock)
      (fun _ _ inv clear => inv.step clear) clear front
  exact ⟨inv.sound.countsOnce, inv.sound.spaced⟩

/-- Some of the event types. -/
def someTypes : AuditEventTypes String where
  all := ["user_login", "failed_login_attempt", "alert_heartbeat"]
  severity t := if t = "user_login" then .info else .notice
  aboutAlerts t := decide (t = "alert_heartbeat")
  alertHeartbeat := "alert_heartbeat"
  aboutAlerts_alertHeartbeat := by decide

def wholeHeartbeat : List (HeartbeatInput String) := List.replicate 6 (.advance 0 none)

/-- A failed login before the first heartbeat, and one after it. -/
def twoLogins : List (HeartbeatInput String) :=
  .audit "failed_login_attempt" 0 :: .check none :: .begin :: wholeHeartbeat ++
    .pass 1000000 :: .audit "failed_login_attempt" 0 :: .check none :: .begin :: wholeHeartbeat

theorem twoLogins_countedOnce :
    ((alertMachine someTypes 1 0).run twoLogins).CountsOnce someTypes ∧
      ((alertMachine someTypes 1 0).run twoLogins).Spaced 1 :=
  alertMachine_countsOnce someTypes 1 0 (EveryStep.of_getElem (by decide +kernel)) List.prefix_rfl

/-- A failed login while the first of two heartbeats counts. -/
def loginMeanwhile : List (HeartbeatInput String) :=
  .request :: .advance 0 none :: .pass 1 :: .audit "failed_login_attempt" 0 ::
    (wholeHeartbeat.drop 1 ++ .pass 1 :: .request :: wholeHeartbeat)

/-- Both heartbeats count it. -/
theorem loginMeanwhile_countedTwice :
    ¬ ((alertMachine someTypes 604800 0).run loginMeanwhile).CountsOnce someTypes := by
  have emitted : ((alertMachine someTypes 604800 0).run loginMeanwhile).beats =
      [⟨false, 0, 0, 0, [0], none⟩, ⟨false, 2, 1, 2, [0], none⟩] := by rfl
  intro once
  have first := (once ⟨false, 0, 0, 0, [0], none⟩ (by simp [emitted]) rfl 0).mp (by simp)
  exact absurd first.2.1 (Nat.lt_irrefl 0)

end CoopSpaces
