import CoopSpaces.Lib.Since
import CoopSpaces.Edge.Resources
import Mathlib.Data.List.AList

namespace CoopSpaces

def numSeconds (micros : Int) : Int := micros.tdiv 1000000

/-- The two signs that a tool is powered. -/
structure PowerEvidence where
  relayReportedOn : Bool
  drawObserved : Bool

def PowerEvidence.any (evidence : PowerEvidence) : Bool := evidence.relayReportedOn || evidence.drawObserved

def isUnauthorizedPower (evidence : PowerEvidence) (leaseValid : Bool) (secondsObserved debounceSecs : Int) : Bool :=
  if leaseValid || !evidence.any then false
  else decide (debounceSecs ≤ secondsObserved)

/-- A tool's last reading, and since when it has been powered without a break. -/
structure PowerReading (Amps : Type) where
  lastDrawAmps : Option Amps
  lastRelayOn : Option Bool
  powerEvidenceSince : Option Int

structure BypassConfig (Amps : Type) where
  /-- Whether a draw is at `unauthorized_power_draw_amps` or above. -/
  atDraw : Amps → Bool
  unauthorizedPowerDebounceSecs : Int

structure ReportedPower (Amps : Type) where
  drawNow : Option Amps
  relayOn : Option Bool

variable {Uuid Amps : Type}

def BypassConfig.evidence (config : BypassConfig Amps) (draw : Option Amps) (relay : Option Bool) :
    PowerEvidence where
  relayReportedOn := relay.getD false
  drawObserved := (draw.map config.atDraw).getD false

def BypassConfig.evidenceOf (config : BypassConfig Amps) (reading : PowerReading Amps) : PowerEvidence :=
  config.evidence reading.lastDrawAmps reading.lastRelayOn

/-- What the server keeps of its tools' power: one row for a tool's
reading, and of the audit trail the findings, each with the time it was written. -/
structure BypassState (Uuid Amps : Type) where
  status : Table Uuid ToolStatus
  power : AList fun _ : Uuid => PowerReading Amps
  reports : List (Uuid × Int)
  now : Int

inductive BypassEvent (Uuid Amps : Type)
  | powerReport (toolId : Uuid) (report : ReportedPower Amps)
  | setStatus (toolId : Uuid) (status : ToolStatus)
  | sweep
  | tick (micros : Nat)

namespace BypassState
variable [DecidableEq Uuid] (config : BypassConfig Amps) (s : BypassState Uuid Amps)

def getToolPowerState (toolId : Uuid) : Option (PowerReading Amps) := s.power.lookup toolId

def upsertToolPowerState (toolId : Uuid) (reading : PowerReading Amps) : BypassState Uuid Amps :=
  { s with power := s.power.insert toolId reading }

/-- The clock restarts only when an unbroken run of being powered ends. -/
def powerReport (toolId : Uuid) (req : ReportedPower Amps) : BypassState Uuid Amps :=
  if (s.status toolId).isSome then
    let powered := (config.evidence req.drawNow req.relayOn).any
    let previous := s.getToolPowerState toolId
    s.upsertToolPowerState toolId
      { lastDrawAmps := req.drawNow
        lastRelayOn := req.relayOn
        powerEvidenceSince := if powered then (previous.bind (·.powerEvidenceSince)).or (some s.now) else none }
  else s

def latestUnauthorizedPowerReport (toolId : Uuid) : Option Int :=
  ((s.reports.filter fun row => row.1 = toolId).map (·.2)).max?

/-- Whether the sweep writes a finding for a reading. -/
def writesFinding (toolId : Uuid) (reading : PowerReading Amps) : Bool :=
  match s.status toolId with
  | none => false
  | some status =>
    let authorized := decide (status = .inUse)
    let secondsObserved := (reading.powerEvidenceSince.map fun t => numSeconds (s.now - t)).getD 0
    let finding := isUnauthorizedPower (config.evidenceOf reading) authorized secondsObserved
      config.unauthorizedPowerDebounceSecs
    let reported := match s.latestUnauthorizedPowerReport toolId, reading.powerEvidenceSince with
      | some reportedAt, some since => decide (since ≤ reportedAt)
      | some _, none => true
      | none, _ => false
    finding && !reported

/-- The tools a sweep writes a finding for. -/
def findings : List Uuid := (s.power.entries.filter fun row => s.writesFinding config row.1 row.2).map (·.1)

/-- The latest reports are read before the first finding is written. -/
def checkUnauthorizedPower : BypassState Uuid Amps :=
  { s with reports := s.reports ++ (s.findings config).map fun toolId => (toolId, s.now) }

def step : BypassEvent Uuid Amps → BypassState Uuid Amps
  | .powerReport toolId req => s.powerReport config toolId req
  | .setStatus toolId status =>
    if (s.status toolId).isSome then { s with status := s.status.insert toolId status } else s
  | .sweep => s.checkUnauthorizedPower config
  | .tick micros => { s with now := s.now + micros }

/-- By its last report the tool is powered. -/
def Powered (toolId : Uuid) : Prop :=
  ∃ reading, s.getToolPowerState toolId = some reading ∧ (config.evidenceOf reading).any = true

/-- The tool is powered and the server has not turned it on. -/
def Unauthorized (toolId : Uuid) : Prop := s.Powered config toolId ∧ s.status toolId ≠ some .inUse

end BypassState

/-- The server from the tools it has, before any report. -/
def bypassMachine [DecidableEq Uuid] (config : BypassConfig Amps) (status : Table Uuid ToolStatus) :
    Machine (BypassState Uuid Amps) (BypassEvent Uuid Amps) Unit where
  start := { status := status, power := ∅, reports := [], now := 0 }
  step s event := (s.step config event, ())

section Runs
variable [DecidableEq Uuid] (config : BypassConfig Amps) (status : Table Uuid ToolStatus)

abbrev bypassRun (past : List (BypassEvent Uuid Amps)) : BypassState Uuid Amps :=
  (bypassMachine config status).run past

/-- At that time, and ever since, the tool was powered without authorization. -/
def UnauthorizedSince (past : List (BypassEvent Uuid Amps)) (toolId : Uuid) (since : Int) : Prop :=
  HeldSince (fun earlier => (bypassRun config status earlier).now = since)
    (fun earlier => (bypassRun config status earlier).Unauthorized config toolId) past

/-- The stretch the tool is in has lasted the debounce. -/
def PastDebounce (past : List (BypassEvent Uuid Amps)) (toolId : Uuid) : Prop :=
  ∃ since, UnauthorizedSince config status past toolId since ∧
    config.unauthorizedPowerDebounceSecs ≤ numSeconds ((bypassRun config status past).now - since)

/-- In the stretch the tool is in, a sweep has written a finding for it. -/
def FoundInStretch (past : List (BypassEvent Uuid Amps)) (toolId : Uuid) : Prop :=
  HeldSince (fun earlier => ∃ before, earlier = before ++ [.sweep] ∧
    toolId ∈ (bypassRun config status before).findings config)
    (fun earlier => (bypassRun config status earlier).Unauthorized config toolId) past

/-- A sweep writes one finding for each tool whose stretch has lasted the debounce and has none yet,
and no other. -/
def SweepsRight (past : List (BypassEvent Uuid Amps)) : Prop :=
  ∀ toolId, (toolId ∈ (bypassRun config status past).findings config ↔
      PastDebounce config status past toolId ∧ ¬ FoundInStretch config status past toolId) ∧
    ((bypassRun config status past).findings config).count toolId ≤ 1

end Runs

namespace BypassState
variable [DecidableEq Uuid] {config : BypassConfig Amps} {s : BypassState Uuid Amps} {toolId : Uuid} {since : Int}

/-- Since when, by the evidence clock, the tool has been powered. -/
def PoweredSince (s : BypassState Uuid Amps) (toolId : Uuid) (since : Int) : Prop :=
  ∃ reading, s.getToolPowerState toolId = some reading ∧ reading.powerEvidenceSince = some since

/-- There is a finding for the tool from that time or later. -/
def ReportedSince (s : BypassState Uuid Amps) (toolId : Uuid) (since : Int) : Prop :=
  ∃ reportedAt, (toolId, reportedAt) ∈ s.reports ∧ since ≤ reportedAt

theorem latest_iff : (∃ reportedAt, s.latestUnauthorizedPowerReport toolId = some reportedAt ∧ since ≤ reportedAt) ↔
    s.ReportedSince toolId since := by
  have listed : ∀ reportedAt, reportedAt ∈ (s.reports.filter fun row => row.1 = toolId).map (·.2) ↔
      (toolId, reportedAt) ∈ s.reports := by
    intro reportedAt
    simp only [List.mem_map, List.mem_filter, decide_eq_true_eq]
    constructor
    · rintro ⟨row, ⟨member, rfl⟩, rfl⟩
      exact member
    · intro member
      exact ⟨_, ⟨member, rfl⟩, rfl⟩
  constructor
  · rintro ⟨reportedAt, latest, later⟩
    exact ⟨reportedAt, (listed reportedAt).mp (List.max?_mem latest), later⟩
  · rintro ⟨reportedAt, member, later⟩
    have inList := (listed reportedAt).mpr member
    rcases found : s.latestUnauthorizedPowerReport toolId with _ | latest
    · rw [latestUnauthorizedPowerReport, List.max?_eq_none_iff] at found
      rw [found] at inList
      cases inList
    · have bound := (List.max?_le_iff found).mp le_rfl reportedAt inList
      exact ⟨latest, rfl, later.trans bound⟩

/-- What a sweep's reading of the state goes by: only its tools have readings, and a reading with
evidence of power says since when. -/
structure Coherent (config : BypassConfig Amps) (s : BypassState Uuid Amps) : Prop where
  known : ∀ toolId reading, s.getToolPowerState toolId = some reading → (s.status toolId).isSome
  clocked : ∀ toolId reading, s.getToolPowerState toolId = some reading →
    ((config.evidenceOf reading).any = true ↔ reading.powerEvidenceSince.isSome)
  past : ∀ toolId since, s.PoweredSince toolId since → since ≤ s.now

theorem findings_nodup : (s.findings config).Nodup :=
  (List.filter_sublist.map _).nodup s.power.nodupKeys

theorem writesFinding_iff {status : ToolStatus} {reading : PowerReading Amps} (known : s.status toolId = some status)
    (clock : reading.powerEvidenceSince = some since) : s.writesFinding config toolId reading = true ↔
      ((config.evidenceOf reading).any = true ∧ status ≠ .inUse) ∧
        config.unauthorizedPowerDebounceSecs ≤ numSeconds (s.now - since) ∧ ¬ s.ReportedSince toolId since := by
  have reported : s.ReportedSince toolId since ↔
      (match s.latestUnauthorizedPowerReport toolId, some since with
        | some reportedAt, some since => decide (since ≤ reportedAt)
        | some _, none => true
        | none, _ => false) = true := by
    rw [← latest_iff]
    rcases s.latestUnauthorizedPowerReport toolId with _ | reportedAt
    · simp
    · simp
  rw [reported]
  simp only [writesFinding, known, clock, isUnauthorizedPower, Option.map_some, Option.getD_some]
  by_cases inUse : status = .inUse
  · simp [inUse]
  · rcases (config.evidenceOf reading).any with _ | _
    · simp
    · simp [inUse]

theorem mem_findings_iff (coherent : s.Coherent config) : toolId ∈ s.findings config ↔
    s.Unauthorized config toolId ∧ ∃ since, s.PoweredSince toolId since ∧
      config.unauthorizedPowerDebounceSecs ≤ numSeconds (s.now - since) ∧ ¬ s.ReportedSince toolId since := by
  have row : toolId ∈ s.findings config ↔
      ∃ reading, s.getToolPowerState toolId = some reading ∧ s.writesFinding config toolId reading = true := by
    simp only [findings, List.mem_map, List.mem_filter]
    constructor
    · rintro ⟨⟨_, reading⟩, ⟨member, writes⟩, rfl⟩
      exact ⟨reading, AList.mem_lookup_iff.mpr member, writes⟩
    · rintro ⟨reading, found, writes⟩
      exact ⟨⟨toolId, reading⟩, ⟨AList.mem_lookup_iff.mp found, writes⟩, rfl⟩
  rw [row]
  constructor
  · rintro ⟨reading, found, writes⟩
    obtain ⟨status, known⟩ := Option.isSome_iff_exists.mp (coherent.known toolId reading found)
    have powered : (config.evidenceOf reading).any = true := by
      by_contra off
      simp [writesFinding, known, isUnauthorizedPower, off] at writes
    obtain ⟨since, clock⟩ := Option.isSome_iff_exists.mp ((coherent.clocked toolId reading found).mp powered)
    obtain ⟨⟨-, notInUse⟩, lasted, unreported⟩ := (writesFinding_iff known clock).mp writes
    have idle : s.status toolId ≠ some .inUse := fun inUse => notInUse (Option.some.inj (known.symm.trans inUse))
    exact ⟨⟨⟨reading, found, powered⟩, idle⟩, since, ⟨reading, found, clock⟩, lasted, unreported⟩
  · rintro ⟨⟨⟨reading, found, powered⟩, idle⟩, since, ⟨same, again, clock⟩, lasted, unreported⟩
    obtain rfl := Option.some.inj (found.symm.trans again)
    obtain ⟨status, known⟩ := Option.isSome_iff_exists.mp (coherent.known toolId reading found)
    have notInUse : status ≠ .inUse := fun inUse => idle (inUse ▸ known)
    exact ⟨reading, found, (writesFinding_iff known clock).mpr ⟨⟨powered, notInUse⟩, lasted, unreported⟩⟩

theorem getToolPowerState_powerReport (req : ReportedPower Amps) (other : Uuid) :
    (s.powerReport config toolId req).getToolPowerState other =
      if other = toolId ∧ (s.status toolId).isSome then
        some { lastDrawAmps := req.drawNow
               lastRelayOn := req.relayOn
               powerEvidenceSince := if (config.evidence req.drawNow req.relayOn).any then
                   ((s.getToolPowerState toolId).bind (·.powerEvidenceSince)).or (some s.now)
                 else none }
      else s.getToolPowerState other := by
  unfold powerReport
  split
  next known =>
    by_cases same : other = toolId
    · subst same
      rw [if_pos ⟨rfl, known⟩]
      exact AList.lookup_insert _
    · rw [if_neg fun both => same both.1]
      exact AList.lookup_insert_ne same
  next unknown => rw [if_neg fun both => unknown both.2]

variable {event : BypassEvent Uuid Amps}

theorem getToolPowerState_step (other : ∀ req, event ≠ .powerReport toolId req) :
    (s.step config event).getToolPowerState toolId = s.getToolPowerState toolId := by
  cases event with
  | powerReport named req =>
    have different : ¬ (toolId = named ∧ (s.status named).isSome) := fun both => other req (both.1 ▸ rfl)
    exact (getToolPowerState_powerReport req toolId).trans (if_neg different)
  | setStatus named status =>
    simp only [step]
    split
    · rfl
    · rfl
  | sweep => rfl
  | tick micros => rfl

theorem status_powerReport (named : Uuid) (req : ReportedPower Amps) :
    (s.powerReport config named req).status = s.status := by
  unfold powerReport
  split
  · rfl
  · rfl

theorem status_step (other : ∀ status, event ≠ .setStatus toolId status) :
    (s.step config event).status toolId = s.status toolId := by
  cases event with
  | powerReport named req => exact congrFun (status_powerReport named req) toolId
  | setStatus named status =>
    simp only [step]
    split
    · exact Table.insert_of_ne _ _ fun same => other status (same ▸ rfl)
    · rfl
  | sweep => rfl
  | tick micros => rfl

theorem status_known (event : BypassEvent Uuid Amps) (known : (s.status toolId).isSome) :
    ((s.step config event).status toolId).isSome := by
  by_cases names : ∃ status, event = .setStatus toolId status
  · obtain ⟨status, rfl⟩ := names
    simp [step, known]
  · rw [status_step fun status same => names ⟨status, same⟩]
    exact known

theorem now_step (event : BypassEvent Uuid Amps) : s.now ≤ (s.step config event).now := by
  cases event with
  | powerReport named req =>
    simp only [step, powerReport]
    split
    · exact le_rfl
    · exact le_rfl
  | setStatus named status =>
    simp only [step]
    split
    · exact le_rfl
    · exact le_rfl
  | sweep => exact le_rfl
  | tick micros =>
    have forward : s.now ≤ s.now + micros := by omega
    exact forward

theorem Coherent.step (coherent : s.Coherent config) (event : BypassEvent Uuid Amps) :
    (s.step config event).Coherent config := by
  have later : s.now ≤ (s.step config event).now := now_step event
  -- A tool's new reading is of a tool there is, and its clock goes on or starts now.
  have fresh : ∀ toolId reading, (s.step config event).getToolPowerState toolId = some reading →
      (s.status toolId).isSome ∧ ((config.evidenceOf reading).any = true ↔ reading.powerEvidenceSince.isSome) ∧
        ∀ since, reading.powerEvidenceSince = some since → since ≤ s.now := by
    intro toolId reading found
    have old : s.getToolPowerState toolId = some reading → (s.status toolId).isSome ∧
        ((config.evidenceOf reading).any = true ↔ reading.powerEvidenceSince.isSome) ∧
        ∀ since, reading.powerEvidenceSince = some since → since ≤ s.now := fun was =>
      ⟨coherent.known toolId reading was, coherent.clocked toolId reading was,
        fun since clock => coherent.past toolId since ⟨reading, was, clock⟩⟩
    by_cases names : ∃ req, event = .powerReport toolId req
    · obtain ⟨req, rfl⟩ := names
      rw [BypassState.step, getToolPowerState_powerReport] at found
      split at found
      next both =>
        obtain rfl := Option.some.inj found
        refine ⟨both.2, ?_, ?_⟩
        · simp only [BypassConfig.evidenceOf]
          split
          next powered => simp [powered]
          next off => simp [off]
        · intro since clock
          simp only at clock
          split at clock
          · rcases Option.or_eq_some_iff.mp clock with before | ⟨-, now⟩
            · obtain ⟨previous, was, started⟩ := Option.bind_eq_some_iff.mp before
              exact coherent.past toolId since ⟨previous, was, started⟩
            · exact (Option.some.inj now).ge
          · cases clock
      next => exact old found
    · rw [getToolPowerState_step fun req same => names ⟨req, same⟩] at found
      exact old found
  constructor
  · exact fun toolId reading found => status_known event (fresh toolId reading found).1
  · exact fun toolId reading found => (fresh toolId reading found).2.1
  · rintro toolId since ⟨reading, found, clock⟩
    exact ((fresh toolId reading found).2.2 since clock).trans later

theorem Coherent.powered_iff (coherent : s.Coherent config) : s.Powered config toolId ↔
    ∃ since, s.PoweredSince toolId since := by
  constructor
  · rintro ⟨reading, found, powered⟩
    obtain ⟨since, clock⟩ := Option.isSome_iff_exists.mp ((coherent.clocked toolId reading found).mp powered)
    exact ⟨since, reading, found, clock⟩
  · rintro ⟨since, reading, found, clock⟩
    exact ⟨reading, found, (coherent.clocked toolId reading found).mpr (Option.isSome_of_eq_some clock)⟩

theorem PoweredSince.unique {other : Int} (one : s.PoweredSince toolId since)
    (two : s.PoweredSince toolId other) : since = other := by
  obtain ⟨reading, found, clock⟩ := one
  obtain ⟨again, same, clock'⟩ := two
  obtain rfl := Option.some.inj (found.symm.trans same)
  exact Option.some.inj (clock.symm.trans clock')

/-- While a tool stays powered its clock goes on. -/
theorem PoweredSince.step (before : s.PoweredSince toolId since) (coherent : (s.step config event).Coherent config)
    (powered : (s.step config event).Powered config toolId) : (s.step config event).PoweredSince toolId since := by
  obtain ⟨old, was, started⟩ := before
  by_cases names : ∃ req, event = .powerReport toolId req
  · obtain ⟨req, rfl⟩ := names
    obtain ⟨after, reading, found, clock⟩ := coherent.powered_iff.mp powered
    refine ⟨reading, found, ?_⟩
    rw [BypassState.step, getToolPowerState_powerReport] at found
    split at found
    next =>
      obtain rfl := Option.some.inj found
      simp only at clock ⊢
      split at clock
      next on => simp [on, was, started]
      next => cases clock
    next =>
      obtain rfl := Option.some.inj (was.symm.trans found)
      exact started
  · exact ⟨old, (getToolPowerState_step fun req same => names ⟨req, same⟩).trans was, started⟩

theorem reports_step {report : Uuid × Int} (event : BypassEvent Uuid Amps) (member : report ∈ s.reports) :
    report ∈ (s.step config event).reports := by
  cases event with
  | powerReport named req =>
    simp only [step, powerReport]
    split
    · exact member
    · exact member
  | setStatus named status =>
    simp only [step]
    split
    · exact member
    · exact member
  | sweep => exact List.mem_append_left _ member
  | tick micros => exact member

theorem mem_reports_of_step {reportedAt : Int} (member : (toolId, reportedAt) ∈ (s.step config event).reports) :
    (toolId, reportedAt) ∈ s.reports ∨ event = .sweep ∧ toolId ∈ s.findings config := by
  cases event with
  | powerReport named req =>
    simp only [step, powerReport] at member
    split at member
    · exact .inl member
    · exact .inl member
  | setStatus named status =>
    simp only [step] at member
    split at member
    · exact .inl member
    · exact .inl member
  | sweep =>
    rcases List.mem_append.mp member with old | new
    · exact .inl old
    · obtain ⟨other, found, same⟩ := List.mem_map.mp new
      exact .inr ⟨rfl, (Prod.mk.inj same).1 ▸ found⟩
  | tick micros => exact .inl member

/-- Power comes on with a report about the tool, and its clock starts then. -/
theorem Coherent.comes_on (coherent : s.Coherent config) (off : ¬ s.Powered config toolId)
    (on : (s.step config event).Powered config toolId) (clock : (s.step config event).PoweredSince toolId since) :
    (∃ req, event = .powerReport toolId req) ∧ since = s.now ∧ (s.step config event).now = s.now := by
  by_cases names : ∃ req, event = .powerReport toolId req
  · refine ⟨names, ?_⟩
    obtain ⟨req, rfl⟩ := names
    obtain ⟨reading, found, started⟩ := clock
    have wasOff : (s.getToolPowerState toolId).bind (·.powerEvidenceSince) = none := by
      by_contra some_
      obtain ⟨before, was⟩ := Option.ne_none_iff_exists'.mp some_
      obtain ⟨previous, atPrevious, running⟩ := Option.bind_eq_some_iff.mp was
      exact off (coherent.powered_iff.mpr ⟨before, previous, atPrevious, running⟩)
    have still : (s.step config (.powerReport toolId req)).now = s.now := by
      simp only [BypassState.step, powerReport]
      split
      · rfl
      · rfl
    refine ⟨?_, still⟩
    rw [BypassState.step, getToolPowerState_powerReport] at found
    split at found
    next =>
      obtain rfl := Option.some.inj found
      simp only [wasOff, Option.none_or] at started
      split at started
      · exact (Option.some.inj started).symm
      · cases started
    next => exact absurd (coherent.powered_iff.mpr ⟨since, reading, found, started⟩) off
  · obtain ⟨reading, found, powered⟩ := on
    rw [getToolPowerState_step fun req same => names ⟨req, same⟩] at found
    exact absurd ⟨reading, found, powered⟩ off

theorem mem_reports_sweep (found : toolId ∈ s.findings config) : (toolId, s.now) ∈ (s.step config .sweep).reports :=
  List.mem_append_right _ (List.mem_map.mpr ⟨toolId, found, rfl⟩)

end BypassState

section Runs
variable [DecidableEq Uuid] {config : BypassConfig Amps} {status : Table Uuid ToolStatus}
  {past : List (BypassEvent Uuid Amps)} {toolId : Uuid} {since : Int}

theorem bypassRun_snoc (event : BypassEvent Uuid Amps) :
    bypassRun config status (past ++ [event]) = (bypassRun config status past).step config event :=
  (bypassMachine config status).run_snoc past event

theorem coherent_run (past : List (BypassEvent Uuid Amps)) : (bypassRun config status past).Coherent config := by
  refine (bypassMachine config status).run_invariant (fun _ s => s.Coherent config) ?_ ?_ past
  · constructor
    · rintro toolId reading (found : none = some reading)
      cases found
    · rintro toolId reading (found : none = some reading)
      cases found
    · rintro toolId since ⟨reading, (found : none = some reading), -⟩
      cases found
  · exact fun past event coherent => coherent.step event

theorem UnauthorizedSince.powered (held : UnauthorizedSince config status past toolId since) :
    ∃ started, (bypassRun config status past).PoweredSince toolId started ∧ started ≤ since := by
  induction past using List.reverseRecOn with
  | nil =>
    obtain ⟨⟨reading, (found : none = some reading), -⟩, -⟩ := HeldSince.keep held
    cases found
  | append_singleton past event ih =>
    have powered := (HeldSince.keep held).1
    obtain ⟨-, now | before⟩ := HeldSince.snoc_iff.mp held
    · obtain ⟨started, clock⟩ := (coherent_run _).powered_iff.mp powered
      exact ⟨started, clock, now ▸ (coherent_run _).past toolId started clock⟩
    · obtain ⟨started, clock, earlier⟩ := ih before
      have coherent := @coherent_run Uuid Amps _ config status (past ++ [event])
      rw [bypassRun_snoc] at coherent powered ⊢
      exact ⟨started, clock.step coherent powered, earlier⟩

/-- A finding in the stretch is one since the power came on. -/
theorem FoundInStretch.reported (held : FoundInStretch config status past toolId) :
    ∃ started, (bypassRun config status past).PoweredSince toolId started ∧
      (bypassRun config status past).ReportedSince toolId started := by
  induction past using List.reverseRecOn with
  | nil =>
    obtain ⟨⟨reading, (found : none = some reading), -⟩, -⟩ := HeldSince.keep held
    cases found
  | append_singleton past event ih =>
    have powered := (HeldSince.keep held).1
    have coherent := @coherent_run Uuid Amps _ config status (past ++ [event])
    obtain ⟨-, ⟨before, split, found⟩ | earlier⟩ := HeldSince.snoc_iff.mp held
    · obtain ⟨rfl, same⟩ := List.append_inj' split rfl
      obtain rfl := List.singleton_inj.mp same
      rw [bypassRun_snoc] at coherent powered ⊢
      obtain ⟨started, clock⟩ := coherent.powered_iff.mp powered
      have bound : started ≤ (bypassRun config status past).now := coherent.past toolId started clock
      exact ⟨started, clock, _, BypassState.mem_reports_sweep found, bound⟩
    · obtain ⟨started, clock, reportedAt, member, later⟩ := ih earlier
      rw [bypassRun_snoc] at coherent powered ⊢
      exact ⟨started, clock.step coherent powered, reportedAt, BypassState.reports_step event member, later⟩

theorem numSeconds_mono {a b : Int} (le : a ≤ b) : numSeconds a ≤ numSeconds b := Int.tdiv_le_tdiv (by decide) le

/-- The tool's power has been on for the debounce and no finding was written since, but part of that time
the tool was in use: the stretch itself is still short. -/
def OnSinceItsUse (config : BypassConfig Amps) (status : Table Uuid ToolStatus)
    (past : List (BypassEvent Uuid Amps)) (toolId : Uuid) : Prop :=
  ∃ since, (bypassRun config status past).PoweredSince toolId since ∧
    ¬ (bypassRun config status past).ReportedSince toolId since ∧
      config.unauthorizedPowerDebounceSecs ≤ numSeconds ((bypassRun config status past).now - since) ∧
    (bypassRun config status past).Unauthorized config toolId ∧ ¬ PastDebounce config status past toolId

/-- The stretch has lasted the debounce without a finding, but one was written earlier in the same time of
power. -/
def FoundBeforeItsUse (config : BypassConfig Amps) (status : Table Uuid ToolStatus)
    (past : List (BypassEvent Uuid Amps)) (toolId : Uuid) :
    Prop :=
  ∃ since, (bypassRun config status past).PoweredSince toolId since ∧
    (bypassRun config status past).ReportedSince toolId since ∧ PastDebounce config status past toolId ∧
      ¬ FoundInStretch config status past toolId

theorem PastDebounce.powered (lasted : PastDebounce config status past toolId) :
    (bypassRun config status past).Unauthorized config toolId ∧
      ∃ started, (bypassRun config status past).PoweredSince toolId started ∧
      config.unauthorizedPowerDebounceSecs ≤ numSeconds ((bypassRun config status past).now - started) := by
  obtain ⟨since, held, enough⟩ := lasted
  obtain ⟨started, clock, earlier⟩ := held.powered
  have longer : (bypassRun config status past).now - since ≤ (bypassRun config status past).now - started := by omega
  exact ⟨HeldSince.keep held, started, clock, enough.trans (numSeconds_mono longer)⟩

theorem sweepsRight_iff : SweepsRight config status past ↔
    ∀ toolId, ¬ OnSinceItsUse config status past toolId ∧ ¬ FoundBeforeItsUse config status past toolId := by
  have coherent := @coherent_run Uuid Amps _ config status past
  constructor
  · intro right toolId
    obtain ⟨exact_, -⟩ := right toolId
    rw [BypassState.mem_findings_iff coherent] at exact_
    constructor
    · rintro ⟨since, clock, unreported, lasted, unauthorized, short⟩
      exact short (exact_.mp ⟨unauthorized, since, clock, lasted, unreported⟩).1
    · rintro ⟨since, clock, reported, lasted, unfound⟩
      obtain ⟨-, other, clock', -, unreported⟩ := exact_.mpr ⟨lasted, unfound⟩
      exact unreported (clock.unique clock' ▸ reported)
  · intro neither toolId
    obtain ⟨notEarly, notMasked⟩ := neither toolId
    refine ⟨?_, List.nodup_iff_count_le_one.mp BypassState.findings_nodup toolId⟩
    rw [BypassState.mem_findings_iff coherent]
    constructor
    · rintro ⟨unauthorized, since, clock, lasted, unreported⟩
      have long : PastDebounce config status past toolId := by
        by_contra short
        exact notEarly ⟨since, clock, unreported, lasted, unauthorized, short⟩
      refine ⟨long, fun found => ?_⟩
      obtain ⟨other, clock', reported⟩ := found.reported
      exact unreported (clock.unique clock' ▸ reported)
    · rintro ⟨lasted, unfound⟩
      obtain ⟨unauthorized, since, clock, enough⟩ := lasted.powered
      exact ⟨unauthorized, since, clock, enough, fun reported => notMasked ⟨since, clock, reported, lasted, unfound⟩⟩

/-- A step that takes no powered tool out of use. A report that a tool has come to be powered is not in the very
instant in which a finding about it was written. -/
def SwitchesOffFirst (config : BypassConfig Amps) (s : BypassState Uuid Amps) : BypassEvent Uuid Amps → Prop
  | .setStatus toolId status => s.status toolId = some .inUse → status ≠ .inUse → ¬ s.Powered config toolId
  | .powerReport toolId _ =>
    ¬ s.Powered config toolId → ∀ reportedAt, (toolId, reportedAt) ∈ s.reports → reportedAt < s.now
  | _ => True

/-- What such steps keep: the evidence clock of a tool that is powered without authorization is its stretch's. -/
def ClockIsStretchs (config : BypassConfig Amps) (status : Table Uuid ToolStatus)
    (past : List (BypassEvent Uuid Amps))
    (s : BypassState Uuid Amps) : Prop :=
  ∀ toolId since, s.Unauthorized config toolId → s.PoweredSince toolId since →
    UnauthorizedSince config status past toolId since ∧
      (s.ReportedSince toolId since → FoundInStretch config status past toolId)

theorem clockIsStretchs_step (event : BypassEvent Uuid Amps)
    (before : ClockIsStretchs config status past (bypassRun config status past))
    (first : SwitchesOffFirst config (bypassRun config status past) event) :
    ClockIsStretchs config status (past ++ [event]) (bypassRun config status (past ++ [event])) := by
  intro toolId since unauthorized clock
  have coherent := @coherent_run Uuid Amps _ config status past
  have after := @coherent_run Uuid Amps _ config status (past ++ [event])
  have kept : (bypassRun config status (past ++ [event])).Unauthorized config toolId := unauthorized
  rw [bypassRun_snoc] at unauthorized clock after ⊢
  by_cases was : (bypassRun config status past).Powered config toolId
  · have idle : (bypassRun config status past).status toolId ≠ some .inUse := by
      intro inUse
      by_cases names : ∃ status, event = .setStatus toolId status
      · obtain ⟨status, rfl⟩ := names
        refine first inUse ?_ was
        rintro rfl
        refine unauthorized.2 ?_
        simp [BypassState.step, inUse]
      · rw [← BypassState.status_step fun status same => names ⟨status, same⟩] at inUse
        exact unauthorized.2 inUse
    obtain ⟨started, running⟩ := coherent.powered_iff.mp was
    obtain rfl := clock.unique (running.step after unauthorized.1)
    obtain ⟨held, tells⟩ := before toolId since ⟨was, idle⟩ running
    refine ⟨HeldSince.snoc_iff.mpr ⟨kept, .inr held⟩, ?_⟩
    rintro ⟨reportedAt, member, later⟩
    rcases BypassState.mem_reports_of_step member with old | ⟨rfl, found⟩
    · exact HeldSince.snoc_iff.mpr ⟨kept, .inr (tells ⟨reportedAt, old, later⟩)⟩
    · exact HeldSince.snoc_iff.mpr ⟨kept, .inl ⟨past, rfl, found⟩⟩
  · obtain ⟨⟨req, rfl⟩, rfl, now⟩ := coherent.comes_on was unauthorized.1 clock
    have start : (bypassRun config status (past ++ [.powerReport toolId req])).now =
        (bypassRun config status past).now := by
      rw [bypassRun_snoc]
      exact now
    refine ⟨HeldSince.snoc_iff.mpr ⟨kept, .inl start⟩, ?_⟩
    rintro ⟨reportedAt, member, later⟩
    rcases BypassState.mem_reports_of_step member with old | ⟨isSweep, -⟩
    · have earlier := first was reportedAt old
      omega
    · cases isSweep

/-- The sweep's findings follow the stretches exactly as long as no sweep comes to a tool whose evidence clock
began before its stretch and tells otherwise; and so in every run in which a tool is switched off before it goes
out of use. -/
theorem unauthorized_power_found_once_per_stretch (config : BypassConfig Amps) (status : Table Uuid ToolStatus)
    (events : List (BypassEvent Uuid Amps)) :
    (EveryStep (fun past event => event = .sweep → SweepsRight config status past) events ↔
      EveryStep (fun past event => event = .sweep →
        ∀ toolId, ¬ OnSinceItsUse config status past toolId ∧ ¬ FoundBeforeItsUse config status past toolId) events) ∧
    (EveryStep (fun past event => SwitchesOffFirst config (bypassRun config status past) event) events →
      ∀ past, past <+: events → SweepsRight config status past) := by
  refine ⟨EveryStep.congr fun past event => ?_, fun every past front => ?_⟩
  · rw [sweepsRight_iff]
  · have tells : ClockIsStretchs config status past (bypassRun config status past) := by
      refine (bypassMachine config status).run_keeps_past (ClockIsStretchs config status) ?_ ?_ every front
      · rintro toolId since ⟨⟨reading, (found : none = some reading), -⟩, -⟩
        cases found
      · intro past event before first
        have kept := clockIsStretchs_step event before first
        rwa [bypassRun_snoc] at kept
    rw [sweepsRight_iff]
    intro toolId
    constructor
    · rintro ⟨since, clock, -, lasted, unauthorized, short⟩
      exact short ⟨since, (tells toolId since unauthorized clock).1, lasted⟩
    · rintro ⟨since, clock, reported, lasted, unfound⟩
      exact unfound ((tells toolId since lasted.powered.1 clock).2 reported)

/-- A debounce of five seconds. -/
def latheBypass : BypassConfig Nat := ⟨fun draw => decide (1 ≤ draw), 5⟩

def latheInUse : List (BypassEvent Nat Nat) := [.setStatus 1 .inUse, .powerReport 1 ⟨none, some true⟩, .tick 10000000]

/-- A lathe whose relay is still closed as it goes out of use after ten seconds is found at once. -/
theorem switched_off_lathe_is_found :
    ¬ ∀ (config : BypassConfig Nat) (status : Table Nat ToolStatus) (events : List (BypassEvent Nat Nat)),
      EveryStep (fun past event => event = .sweep → SweepsRight config status past) events := by
  intro always
  let lathe : Table Nat ToolStatus := fun _ => some .idle
  have right : SweepsRight latheBypass lathe (latheInUse ++ [.setStatus 1 .idle]) :=
    always latheBypass lathe (latheInUse ++ [.setStatus 1 .idle] ++ [.sweep]) _ .sweep [] rfl rfl
  have found : 1 ∈ (bypassRun latheBypass lathe (latheInUse ++ [.setStatus 1 .idle])).findings latheBypass :=
    by decide +kernel
  obtain ⟨since, held, lasted⟩ := ((right 1).1.mp found).1
  obtain ⟨-, now | before⟩ := HeldSince.snoc_iff.mp held
  · rw [← now, Int.sub_self] at lasted
    exact absurd lasted (by decide)
  · have inUse : (bypassRun latheBypass lathe latheInUse).status 1 = some .inUse := by decide +kernel
    exact (HeldSince.keep before).2 inUse

end Runs

end CoopSpaces
