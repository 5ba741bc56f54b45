import CoopSpaces.Edge.Reconcile
import CoopSpaces.Edge.Resources

namespace CoopSpaces

/-- The server's side of one resource: a tool's status, and the open session of a
room or of a metered tool. -/
structure Station where
  status : ToolStatus
  session : Bool
  metered : Bool
  deriving DecidableEq

namespace Station

def inUse (s : Station) : Kind → Bool
  | .tool => s.status = .inUse
  | .door => s.session

/-- A scan that comes by the resource path, and what it answers. `admitted` is
the server's own answer for the card. A tool that is not idle refuses. -/
def scan (s : Station) (kind : Kind) (admitted : Bool) : Station × Bool :=
  match kind with
  | .tool =>
    if admitted && s.status = .idle then
      ({ s with status := .inUse, session := s.session || s.metered }, true)
    else (s, false)
  | .door => ({ s with session := s.session || admitted }, admitted)

def doorsEvent (s : Station) (granted : Bool) : Station := { s with session := s.session || granted }

/-- A stop. A tool's is refused for a card nobody knows; a door's asks for none. -/
def stop (s : Station) (kind : Kind) (known : Bool) : Station :=
  match kind with
  | .tool => if known then { s with status := .idle, session := false } else s
  | .door => { s with session := false }

def busy (s : Station) (kind : Kind) : Bool := s.inUse kind || s.session

theorem stop_idle {s : Station} {kind : Kind} {known : Bool} (heard : kind = .tool → known = true) :
    (s.stop kind known).busy kind = false := by
  cases kind
  · simp [stop, heard rfl, busy, inUse]
  · simp [stop, busy, inUse]

theorem scan_busy {s : Station} {kind : Kind} {admitted : Bool} (idle : s.busy kind = false)
    (busy : (s.scan kind admitted).1.busy kind = true) : (s.scan kind admitted).2 = true := by
  cases kind
  · simp only [scan] at busy ⊢
    split
    · rfl
    · rename_i refused
      rw [if_neg refused, idle] at busy
      cases busy
  · simp only [Station.busy, inUse, Bool.or_self] at idle
    simpa only [scan, Station.busy, inUse, idle, Bool.false_or, Bool.or_self] using busy

end Station

inductive Verdict
  | allow
  | deny
  | askServer
  deriving DecidableEq

/-- One resource between its edge and the server: a tool, or a room. Each message
the edge receives is a task, and what travels to the server arrives in any order. -/
structure Protocol where
  edge : ModuleState
  server : Station
  /-- The last message the edge received was a stop. -/
  stopped : Bool
  scans : Nat
  /-- Scans the edge said yes to, each with its instant, about to open the session. -/
  deciding : List Int
  /-- Scans put to the server, and scans it answered. -/
  asking : List Int
  answered : List (Int × Bool)
  /-- Stops received and not yet run, each with its card if the device sent one. -/
  stops : List (Option String)
  /-- Forwarded scans, door events and forwarded stops on their way. -/
  forwarded : Nat
  events : List Bool
  posted : List (Option String)

inductive ProtocolStep
  | receiveScan
  | receiveStop (card : Option String)
  | decide (verdict : Verdict) (now : Int)
  | openSession (i : Nat) (reported : Bool)
  | serveAsk (i : Nat) (admitted : Bool)
  | hearAnswer (i : Nat) (readable reported : Bool)
  | runStop (i : Nat) (now : Int)
  | serveScan (admitted : Bool)
  | serveEvent (i : Nat)
  | serveStop (i : Nat) (known : Bool)
  -- An earlier poll's answer, whatever it says and however old it is.
  | poll (claimed : Bool) (asOf now : Int)
  deriving DecidableEq

namespace Protocol
variable (kind : Kind) (resource : String)

/-- What a scan's task reports once it is decided: a door's event either way, a
tool's scan when the edge itself said yes. -/
def report (w : Protocol) (authorized reported : Bool) : Protocol :=
  match kind with
  | .door => { w with events := w.events ++ [authorized] }
  | .tool => if authorized && reported then { w with forwarded := w.forwarded + 1 } else w

/-- Both polls, the sync and the wiring snapshot, end in this reconcile. -/
def reconcile (w : Protocol) (claimed : Bool) (asOf now : Int) : ModuleState :=
  w.edge.reconcileTracked (if claimed then [resource] else []) [resource] now asOf

def step (w : Protocol) : ProtocolStep → Protocol
  | .receiveScan => { w with scans := w.scans + 1, stopped := false }
  | .receiveStop card => { w with stops := w.stops ++ [card], stopped := true }
  | .decide verdict now =>
    match w.scans, verdict with
    | 0, _ => w
    | n + 1, .allow => { w with scans := n, deciding := w.deciding ++ [now] }
    | n + 1, .deny => { w with scans := n }.report kind false false
    | n + 1, .askServer => { w with scans := n, asking := w.asking ++ [now] }
  | .openSession i reported =>
    match w.deciding[i]? with
    | none => w
    | some now =>
      { w with deciding := w.deciding.eraseIdx i, edge := w.edge.openSession resource now none }.report kind
        true reported
  | .serveAsk i admitted =>
    match w.asking[i]? with
    | none => w
    | some now =>
      { w with
        asking := w.asking.eraseIdx i
        answered := w.answered ++ [(now, (w.server.scan kind admitted).2)]
        server := (w.server.scan kind admitted).1 }
  | .hearAnswer i readable reported =>
    match w.answered[i]? with
    | none => w
    | some (now, answer) =>
      let heard := { w with answered := w.answered.eraseIdx i }
      -- The session opens at the instant the task began, before it asked.
      if answer && readable then { heard with edge := w.edge.openSession resource now none }.report kind true reported
      else heard.report kind false reported
  | .runStop i now =>
    match w.stops[i]? with
    | none => w
    | some card =>
      { w with
        stops := w.stops.eraseIdx i
        edge := w.edge.closeSession resource now
        posted := w.posted ++ [card] }
  | .serveScan admitted =>
    match w.forwarded with
    | 0 => w
    | n + 1 => { w with forwarded := n, server := (w.server.scan kind admitted).1 }
  | .serveEvent i =>
    match w.events[i]? with
    | none => w
    | some granted => { w with events := w.events.eraseIdx i, server := w.server.doorsEvent granted }
  | .serveStop i known =>
    match w.posted[i]? with
    | none => w
    | some card => { w with posted := w.posted.eraseIdx i, server := w.server.stop kind (card.isNone || known) }
  | .poll claimed asOf now => { w with edge := w.reconcile resource claimed asOf now }

def rest (wiring : Option ToolModuleStatePayload) (metered : Bool) : Protocol where
  edge := { ModuleState.new with snapshot := wiring }
  server := ⟨.idle, false, metered⟩
  stopped := false
  scans := 0
  deciding := []
  asking := []
  answered := []
  stops := []
  forwarded := 0
  events := []
  posted := []

def run (w : Protocol) (steps : List ProtocolStep) : Protocol := steps.foldl (step kind resource) w

/-- Every task has run and every message has been handled. -/
structure Handled (w : Protocol) : Prop where
  scans : w.scans = 0
  deciding : w.deciding = []
  asking : w.asking = []
  answered : w.answered = []
  stops : w.stops = []
  forwarded : w.forwarded = 0
  events : w.events = []
  posted : w.posted = []

def opens (w : Protocol) : ProtocolStep → Bool
  | .openSession i _ => (w.deciding[i]?).isSome
  | .hearAnswer i readable _ => readable && (w.answered[i]?).any (·.2)
  | _ => false

def starts (w : Protocol) : ProtocolStep → Bool
  | .serveAsk i admitted => (w.asking[i]?).isSome && (w.server.scan kind admitted).2
  | .serveScan admitted => w.forwarded ≠ 0 && (w.server.scan kind admitted).2
  | .serveEvent i => w.events[i]? = some true
  | _ => false

def refuses (w : Protocol) : ProtocolStep → Bool
  | .serveStop i known => kind = .tool && !known && (w.posted[i]?).any (·.isSome)
  | _ => false

/-- The stops a step leaves on their way to the server. -/
def postedAfter (w : Protocol) : ProtocolStep → List (Option String)
  | .serveStop i _ => w.posted.eraseIdx i
  | _ => w.posted

/-- Once a stop was the last thing received, a session that is opened at the edge
still has a stop to come there; what starts at the server still has one to come
there; and so has what a refused stop leaves running. -/
structure Orderly (w : Protocol) (next : ProtocolStep) : Prop where
  opens : w.opens next = true → w.edge.localSessions (w.edge.toolKey resource) = none → w.stopped = true →
    w.stops ≠ []
  starts : w.starts kind next = true → w.server.busy kind = false → w.stopped = true → w.stops ≠ [] ∨ w.posted ≠ []
  refuses : w.refuses kind next = true → w.server.busy kind = true → w.stopped = true →
    w.stops ≠ [] ∨ w.postedAfter next ≠ []

/-- Every step of a run is orderly where it is taken. -/
def OrderlyFrom (w : Protocol) : List ProtocolStep → Prop
  | [] => True
  | next :: later => w.Orderly kind resource next ∧ (w.step kind resource next).OrderlyFrom later

structure Settling (w : Protocol) : Prop where
  edge : w.edge.localSessions (w.edge.toolKey resource) ≠ none → w.stopped = true → w.stops ≠ []
  server : w.server.busy kind = true → w.stopped = true → w.stops ≠ [] ∨ w.posted ≠ []

section Report
variable {kind : Kind} {w : Protocol} {authorized reported : Bool}

theorem report_eq : w.report kind authorized reported =
    { w with
      events := (w.report kind authorized reported).events
      forwarded := (w.report kind authorized reported).forwarded } := by
  unfold report
  cases kind
  · dsimp only
    split <;> rfl
  · rfl

@[simp] theorem report_edge : (w.report kind authorized reported).edge = w.edge := by rw [report_eq]

@[simp] theorem report_server : (w.report kind authorized reported).server = w.server := by rw [report_eq]

@[simp] theorem report_stopped : (w.report kind authorized reported).stopped = w.stopped := by rw [report_eq]

@[simp] theorem report_stops : (w.report kind authorized reported).stops = w.stops := by rw [report_eq]

@[simp] theorem report_posted : (w.report kind authorized reported).posted = w.posted := by rw [report_eq]

end Report

namespace Settling
variable {kind : Kind} {resource : String} {w v : Protocol}

section
variable (settling : w.Settling kind resource)
include settling

theorem of_same (edge : v.edge = w.edge) (server : v.server = w.server) (stopped : v.stopped = w.stopped)
    (stops : v.stops = w.stops) (posted : v.posted = w.posted) : v.Settling kind resource := by
  refine ⟨?_, ?_⟩
  · rw [edge, stopped, stops]
    exact settling.edge
  · rw [server, stopped, stops, posted]
    exact settling.server

theorem opened (fair : w.edge.localSessions (w.edge.toolKey resource) = none → w.stopped = true → w.stops ≠ [])
    (server : v.server = w.server) (stopped : v.stopped = w.stopped) (stops : v.stops = w.stops)
    (posted : v.posted = w.posted) : v.Settling kind resource := by
  refine ⟨fun _ => ?_, ?_⟩
  · rw [stopped, stops]
    by_cases closed : w.edge.localSessions (w.edge.toolKey resource) = none
    · exact fair closed
    · exact settling.edge closed
  · rw [server, stopped, stops, posted]
    exact settling.server

theorem started
    (fair : w.server.busy kind = false → v.server.busy kind = true → w.stopped = true → w.stops ≠ [] ∨ w.posted ≠ [])
    (edge : v.edge = w.edge) (stopped : v.stopped = w.stopped) (stops : v.stops = w.stops)
    (posted : v.posted = w.posted) : v.Settling kind resource := by
  refine ⟨?_, fun busy => ?_⟩
  · rw [edge, stopped, stops]
    exact settling.edge
  · rw [stopped, stops, posted]
    rcases idle : w.server.busy kind with _ | _
    · exact fair idle busy
    · exact settling.server idle

theorem step {next : ProtocolStep} (orderly : w.Orderly kind resource next) :
    (w.step kind resource next).Settling kind resource := by
  cases next with
  | receiveScan => exact ⟨fun _ stopped => (by cases stopped), fun _ stopped => (by cases stopped)⟩
  | receiveStop card =>
    have waiting : (w.step kind resource (.receiveStop card)).stops ≠ [] := by simp [Protocol.step]
    exact ⟨fun _ _ => waiting, fun _ _ => .inl waiting⟩
  | decide verdict now =>
    rcases due : w.scans with _ | n
    · simpa only [Protocol.step, due] using settling
    · cases verdict
      all_goals
        simp only [Protocol.step, due]
        exact settling.of_same (by simp) (by simp) (by simp) (by simp) (by simp)
  | openSession i reported =>
    rcases due : w.deciding[i]? with _ | now
    · simpa only [Protocol.step, due] using settling
    · simp only [Protocol.step, due]
      have fair := orderly.opens (by simp [opens, due])
      exact settling.opened fair (by simp) (by simp) (by simp) (by simp)
  | serveAsk i admitted =>
    rcases due : w.asking[i]? with _ | now
    · simpa only [Protocol.step, due] using settling
    · simp only [Protocol.step, due]
      refine settling.started ?_ rfl rfl rfl rfl
      intro idle busy
      exact orderly.starts (by simp [starts, due, Station.scan_busy idle busy]) idle
  | hearAnswer i readable reported =>
    rcases due : w.answered[i]? with _ | ⟨now, answer⟩
    · simpa only [Protocol.step, due] using settling
    · simp only [Protocol.step, due]
      split
      · rename_i yes
        obtain ⟨granted, read⟩ := Bool.and_eq_true_iff.mp yes
        have fair := orderly.opens (by simp [opens, due, granted, read])
        exact settling.opened fair (by simp) (by simp) (by simp) (by simp)
      · exact settling.of_same (by simp) (by simp) (by simp) (by simp) (by simp)
  | runStop i now =>
    rcases due : w.stops[i]? with _ | card
    · simpa only [Protocol.step, due] using settling
    · simp only [Protocol.step, due]
      refine ⟨fun held => absurd ?_ held, fun _ _ => .inr (by simp)⟩
      exact Table.erase_self _ _
  | serveScan admitted =>
    rcases due : w.forwarded with _ | n
    · simpa only [Protocol.step, due] using settling
    · simp only [Protocol.step, due]
      refine settling.started ?_ rfl rfl rfl rfl
      intro idle busy
      exact orderly.starts (by simp [starts, due, Station.scan_busy idle busy]) idle
  | serveEvent i =>
    rcases due : w.events[i]? with _ | granted
    · simpa only [Protocol.step, due] using settling
    · simp only [Protocol.step, due]
      refine settling.started ?_ rfl rfl rfl rfl
      intro idle busy
      have yes : granted = true := by
        rcases granted with _ | _
        · rw [Station.doorsEvent, Bool.or_false, idle] at busy
          cases busy
        · rfl
      exact orderly.starts (by simp [starts, due, yes]) idle
  | serveStop i known =>
    rcases due : w.posted[i]? with _ | card
    · simpa only [Protocol.step, due] using settling
    · simp only [Protocol.step, due]
      refine ⟨settling.edge, fun busy => ?_⟩
      by_cases heard : kind = .tool → (card.isNone || known) = true
      · rw [Station.stop_idle heard] at busy
        cases busy
      · obtain ⟨rfl, unheard⟩ := Classical.not_imp.mp heard
        obtain ⟨named, unknown⟩ := Bool.or_eq_false_iff.mp (Bool.not_eq_true _ ▸ unheard)
        have unchanged : w.server.stop .tool (card.isNone || known) = w.server := by
          simp [Station.stop, named, unknown]
        rw [unchanged] at busy
        refine orderly.refuses ?_ busy
        rcases card with _ | card
        · cases named
        · simp [refuses, due, unknown]
  | poll claimed asOf now =>
    refine ⟨fun held => settling.edge fun none_ => ?_, settling.server⟩
    obtain ⟨session, found⟩ := Option.ne_none_iff_exists'.mp held
    have before : w.edge.localSessions (w.edge.toolKey resource) = some session :=
      (ModuleState.reconcileTracked_localSessions.mp found).1
    rw [none_] at before
    cases before

theorem run {steps : List ProtocolStep} (orderly : w.OrderlyFrom kind resource steps) :
    (w.run kind resource steps).Settling kind resource := by
  induction steps generalizing w with
  | nil => exact settling
  | cons next later ih => exact ih (settling.step orderly.1) orderly.2

end

end Settling

theorem rest_settling (kind : Kind) (resource : String) (wiring : Option ToolModuleStatePayload) (metered : Bool) :
    (rest wiring metered).Settling kind resource := by
  refine ⟨fun held => absurd rfl held, fun busy => ?_⟩
  cases kind <;> cases busy

theorem poll_idle {kind : Kind} {resource : String} {w : Protocol} (idle : w.server.inUse kind = false)
    (closed : w.edge.localSessions (w.edge.toolKey resource) = none) (asOf now later : Int) :
    (w.reconcile resource (w.server.inUse kind) asOf now).inUse (w.edge.toolKey resource) later = false := by
  rw [← Bool.not_eq_true, ModuleState.inUse_iff, idle]
  rintro (synced | ⟨session, held, -⟩)
  · rcases ModuleState.reconcileTracked_syncedInUse.mp synced with ⟨⟨_, claimed, -⟩, -⟩ | ⟨-, untracked⟩
    · cases claimed
    · exact untracked ⟨resource, List.mem_singleton_self _, rfl⟩
  · have before := (ModuleState.reconcileTracked_localSessions.mp held).1
    rw [closed] at before
    cases before

end Protocol

/-- In every orderly run from rest whose last message was a stop, once all of it
has been handled the resource is idle at the server with no session open, and so
is it at the edge, after the next poll that reports on it too. -/
theorem stop_is_final (kind : Kind) (resource : String) (wiring : Option ToolModuleStatePayload) (metered : Bool)
    {steps : List ProtocolStep} (orderly : (Protocol.rest wiring metered).OrderlyFrom kind resource steps)
    (stopped : ((Protocol.rest wiring metered).run kind resource steps).stopped = true)
    (handled : ((Protocol.rest wiring metered).run kind resource steps).Handled) :
    let w := (Protocol.rest wiring metered).run kind resource steps
    w.server.inUse kind = false ∧ w.server.session = false ∧
      w.edge.localSessions (w.edge.toolKey resource) = none ∧
      ∀ asOf now later,
        (w.reconcile resource (w.server.inUse kind) asOf now).inUse (w.edge.toolKey resource) later = false := by
  intro w
  have settling : w.Settling kind resource := (Protocol.rest_settling kind resource wiring metered).run orderly
  have closed : w.edge.localSessions (w.edge.toolKey resource) = none := by
    by_contra held
    exact settling.edge held stopped handled.stops
  have idle : w.server.busy kind = false := by
    rw [← Bool.not_eq_true]
    intro busy
    rcases settling.server busy stopped with waiting | travelling
    · exact waiting handled.stops
    · exact travelling handled.posted
  obtain ⟨unused, ended⟩ := Bool.or_eq_false_iff.mp idle
  exact ⟨unused, ended, closed, Protocol.poll_idle unused closed⟩

def crossed : List ProtocolStep :=
  [.receiveScan, .decide .allow 0, .openSession 0 true, .receiveStop none, .runStop 0 (seconds 5), .serveStop 0 true,
    .serveScan true]

/-- All handled, the saw is in use at the server, and the next poll energizes it again. -/
theorem crossed_stop_is_not_final :
    let w := (Protocol.rest none false).run .tool "saw" crossed
    w.stopped = true ∧ w.Handled ∧ w.server.inUse .tool = true ∧
      (w.reconcile "saw" (w.server.inUse .tool) (seconds 6) (seconds 7)).inUse "saw" (seconds 7) = true := by
  exact ⟨by decide, ⟨by decide, by decide, by decide, by decide, by decide, by decide, by decide, by decide⟩,
    by decide, by decide⟩

/-- The same with the messages in the order they were sent. -/
def inOrder : List ProtocolStep :=
  [.receiveScan, .decide .allow 0, .openSession 0 true, .receiveStop none, .runStop 0 (seconds 5), .serveScan true,
    .serveStop 0 true]

theorem stop_is_final_in_order :
    ((Protocol.rest none false).run .tool "saw" inOrder).server.inUse .tool = false := by
  have orderly : (Protocol.rest none false).OrderlyFrom .tool "saw" inOrder := by
    refine ⟨⟨?_, ?_, ?_⟩, ⟨?_, ?_, ?_⟩, ⟨?_, ?_, ?_⟩, ⟨?_, ?_, ?_⟩, ⟨?_, ?_, ?_⟩, ⟨?_, ?_, ?_⟩, ⟨?_, ?_, ?_⟩, trivial⟩
    all_goals decide
  exact (stop_is_final .tool "saw" none false orderly (by decide)
    ⟨by decide, by decide, by decide, by decide, by decide, by decide, by decide, by decide⟩).1

end CoopSpaces
