import CoopSpaces.Lib.Alternation
import CoopSpaces.Server.Bypass

namespace CoopSpaces

inductive LivenessTransition
  | wentSilent
  | returned
  | noChange
  deriving DecidableEq

/-- A module that has never reported is silent. -/
def isSilent (secondsSinceSeen : Option Int) (thresholdSecs : Int) : Bool :=
  match secondsSinceSeen with
  | none => true
  | some secs => decide (thresholdSecs < secs)

/-- What was silent is what was last recorded, not what was last observed. -/
def classifyLiveness (secondsSinceSeen : Option Int) (thresholdSecs : Int) (previouslyReportedSilent : Bool) :
    LivenessTransition :=
  match isSilent secondsSinceSeen thresholdSecs, previouslyReportedSilent with
  | true, false => .wentSilent
  | false, true => .returned
  | _, _ => .noChange

inductive AuditValue
  | text (s : String)
  | number (n : Int)
  | null
  deriving DecidableEq

/-- A row of the audit trail. -/
structure AuditEntry where
  eventType : String
  eventData : List (String × AuditValue)
  createdAt : Int
  deriving DecidableEq

/-- A field of a row's data as text, as the database reads it. -/
def AuditEntry.dataText (row : AuditEntry) (key : String) : Option String :=
  (row.eventData.find? fun field => field.1 = key).bind fun field =>
    match field.2 with
    | .text s => some s
    | .number n => some (toString n)
    | .null => none

/-- A binding of a device, as the sweep reads it. -/
structure BoundModule (Uuid : Type) where
  name : String
  role : String
  deviceId : Uuid
  deriving DecidableEq

structure SeenDevice where
  name : String
  lastSeenAt : Option Int
  deleted : Bool
  deriving DecidableEq

structure LivenessState (Uuid : Type) where
  now : Int
  /-- `module_silence_secs` of the server that runs now. -/
  moduleSilenceSecs : Int
  devices : AList fun _ : Uuid => SeenDevice
  bindings : AList fun _ : Uuid => BoundModule Uuid
  auditLogs : List AuditEntry

/-- How a sweep asks about those it watches, and what it writes of them. What it writes it reads back. -/
structure Trail (Uuid Subject : Type) [IdText Uuid] where
  types : List String
  key : String
  reads : AuditEntry → String
  silent : String
  returned : String
  subjects : LivenessState Uuid → List Subject
  id : Subject → Uuid
  lastSeenAt : Subject → Option Int
  write : Subject → String → Option Int → Int → Int → AuditEntry
  apart : silent ≠ returned
  distinct : ∀ s, ((subjects s).map id).Nodup
  typed : ∀ subject state secs threshold stamp, state = silent ∨ state = returned →
    (write subject state secs threshold stamp).eventType ∈ types
  keyed : ∀ subject state secs threshold stamp,
    (write subject state secs threshold stamp).dataText key = some (IdText.toText (id subject))
  read : ∀ subject state secs threshold stamp, reads (write subject state secs threshold stamp) = state
  stamped : ∀ subject state secs threshold stamp, (write subject state secs threshold stamp).createdAt = stamp

namespace Trail
variable {Uuid Subject : Type} [IdText Uuid] (trail : Trail Uuid Subject) (s : LivenessState Uuid)

def rows (auditLogs : List AuditEntry) : List AuditEntry := auditLogs.filter fun row => row.eventType ∈ trail.types

/-- The rows of a trail about one id. -/
def rowsOf (auditLogs : List AuditEntry) (id : String) : List AuditEntry :=
  (trail.rows auditLogs).filter fun row => row.dataText trail.key = some id

/-- What is recorded of an id, row after row. -/
def recorded (auditLogs : List AuditEntry) (id : String) : List String := (trail.rowsOf auditLogs id).map trail.reads

def recordedOf (subject : Subject) : List String := trail.recorded s.auditLogs (IdText.toText (trail.id subject))

/-- What the latest row of an id records. -/
def latestRecord (auditLogs : List AuditEntry) (id : String) : Option String :=
  ((trail.rowsOf auditLogs id).insertionSort fun a b => b.createdAt ≤ a.createdAt).head?.map trail.reads

def secondsSinceSeen (subject : Subject) : Option Int :=
  (trail.lastSeenAt subject).map fun t => numSeconds (s.now - t)

/-- The sweep finds a subject silent. -/
def silentNow (subject : Subject) : Bool := isSilent (trail.secondsSinceSeen s subject) s.moduleSilenceSecs

/-- What the sweep finds to record of a subject. -/
def finding (subject : Subject) : Option String :=
  let recorded := trail.latestRecord s.auditLogs (IdText.toText (trail.id subject))
  let previouslySilent := (recorded.map fun e => decide (e = trail.silent)).getD false
  match classifyLiveness (trail.secondsSinceSeen s subject) s.moduleSilenceSecs previouslySilent with
  | .noChange => none
  | .wentSilent => some trail.silent
  | .returned => some trail.returned

/-- The rows of one pass. Each is stamped when it is written, before the pass is over. -/
def written (stamps : Uuid → Nat) (took : Nat) : List AuditEntry :=
  (trail.subjects s).filterMap fun subject => (trail.finding s subject).map fun state =>
    trail.write subject state (trail.secondsSinceSeen s subject) s.moduleSilenceSecs
      (s.now + min (stamps (trail.id subject)) took)

def sweep (stamps : Uuid → Nat) (took : Nat) : LivenessState Uuid :=
  { s with
    now := s.now + took + 1
    auditLogs := s.auditLogs ++ trail.written s stamps took }

/-- What a step leaves of a trail when it is no sweep of the trail. -/
structure Leaves (s s' : LivenessState Uuid) : Prop where
  rows : trail.rows s'.auditLogs = trail.rows s.auditLogs
  forward : s.now ≤ s'.now

/-- The rows of an id come one after another, and record silence and return in turn. -/
structure InOrder : Prop where
  increasing : ∀ id, (trail.rowsOf s.auditLogs id).Pairwise fun a b => a.createdAt < b.createdAt
  past : ∀ id, ∀ row ∈ trail.rowsOf s.auditLogs id, row.createdAt < s.now
  alternates : ∀ id, Alternates trail.silent trail.returned (trail.recorded s.auditLogs id)

variable {trail} {s} {s' : LivenessState Uuid} {subject : Subject} {stamps : Uuid → Nat} {took : Nat}

@[simp] theorem rows_nil : trail.rows [] = [] := rfl

@[simp] theorem rows_append (front back : List AuditEntry) :
    trail.rows (front ++ back) = trail.rows front ++ trail.rows back :=
  List.filter_append ..

@[simp] theorem rowsOf_append (front back : List AuditEntry) (id : String) :
    trail.rowsOf (front ++ back) id = trail.rowsOf front id ++ trail.rowsOf back id := by
  simp only [rowsOf, rows_append, List.filter_append]

@[simp] theorem recorded_append (front back : List AuditEntry) (id : String) :
    trail.recorded (front ++ back) id = trail.recorded front id ++ trail.recorded back id := by
  simp only [recorded, rowsOf_append, List.map_append]

theorem Leaves.rowsOf (leaves : trail.Leaves s s') (id : String) :
    trail.rowsOf s'.auditLogs id = trail.rowsOf s.auditLogs id := by
  rw [Trail.rowsOf, leaves.rows, ← Trail.rowsOf]

theorem Leaves.recorded (leaves : trail.Leaves s s') (id : String) :
    trail.recorded s'.auditLogs id = trail.recorded s.auditLogs id := by
  rw [Trail.recorded, leaves.rowsOf id, ← Trail.recorded]

theorem InOrder.latestRecord_eq (inOrder : trail.InOrder s) (id : String) :
    trail.latestRecord s.auditLogs id = (trail.recorded s.auditLogs id).getLast? := by
  rw [latestRecord, recorded, head?_insertionSort_of_increasing (inOrder.increasing id), List.getLast?_map]

theorem InOrder.leaves (inOrder : trail.InOrder s) (leaves : trail.Leaves s s') : trail.InOrder s' where
  increasing id := leaves.rowsOf id ▸ inOrder.increasing id
  past id row there := (inOrder.past id row (leaves.rowsOf id ▸ there)).trans_le leaves.forward
  alternates id := leaves.recorded id ▸ inOrder.alternates id

theorem InOrder.finding_eq (inOrder : trail.InOrder s) (subject : Subject) :
    trail.finding s subject =
      if ((trail.recordedOf s subject).getLast? = some trail.silent ↔ trail.silentNow s subject = true) then none
      else some (if trail.silentNow s subject then trail.silent else trail.returned) := by
  have asked : ((trail.latestRecord s.auditLogs (IdText.toText (trail.id subject))).map fun e => decide
    (e = trail.silent)).getD false =
      decide ((trail.recordedOf s subject).getLast? = some trail.silent) := by
    rw [inOrder.latestRecord_eq, ← recordedOf]
    rcases (trail.recordedOf s subject).getLast? with _ | last <;> simp
  simp only [finding, asked, classifyLiveness]
  rw [← silentNow]
  by_cases last : (trail.recordedOf s subject).getLast? = some trail.silent <;>
    rcases now : trail.silentNow s subject <;> simp [last]

theorem finding_mem {state : String} (found : trail.finding s subject = some state) :
    state = trail.silent ∨ state = trail.returned := by
  rw [finding] at found
  split at found
  · cases found
  · exact .inl (Option.some.inj found).symm
  · exact .inr (Option.some.inj found).symm

theorem InOrder.written_eq_nil (inOrder : trail.InOrder s) (asRecorded : ∀ subject ∈ trail.subjects s,
    (trail.recordedOf s subject).getLast? = some trail.silent ↔ trail.silentNow s subject = true) :
    trail.written s stamps took = [] := by
  refine List.filterMap_eq_nil_iff.mpr fun subject there => ?_
  rw [inOrder.finding_eq, if_pos (asRecorded subject there), Option.map_none]

theorem rows_written : trail.rows (trail.written s stamps took) = trail.written s stamps took := by
  refine List.filter_eq_self.mpr fun row there => ?_
  obtain ⟨subject, -, made⟩ := List.mem_filterMap.mp there
  obtain ⟨state, found, rfl⟩ := Option.map_eq_some_iff.mp made
  exact decide_eq_true (trail.typed _ _ _ _ _ (finding_mem found))

theorem Leaves.of_eq (same : s'.auditLogs = s.auditLogs) (forward : s.now ≤ s'.now) : trail.Leaves s s' where
  rows := by rw [same]
  forward := forward

theorem Leaves.of_sweep {Other : Type} {other : Trail Uuid Other} (apart : ∀ t ∈ other.types, t ∉ trail.types)
    (stamps : Uuid → Nat) (took : Nat) :
    trail.Leaves s (other.sweep s stamps took) where
  rows := by
    have none : trail.rows (other.written s stamps took) = [] := by
      refine List.filter_eq_nil_iff.mpr fun row there typed => ?_
      have kind : row.eventType ∈ other.types := by
        rw [← rows_written] at there
        exact of_decide_eq_true (List.mem_filter.mp there).2
      exact apart _ kind (of_decide_eq_true typed)
    rw [Trail.sweep, rows_append, none, List.append_nil]
  forward := by
    simp only [Trail.sweep]
    omega

theorem rowsOf_written (there : subject ∈ trail.subjects s) :
    trail.rowsOf (trail.written s stamps took) (IdText.toText (trail.id subject)) =
      ((trail.finding s subject).map fun state =>
      trail.write subject state (trail.secondsSinceSeen s subject) s.moduleSilenceSecs
        (s.now + min (stamps (trail.id subject)) took)).toList := by
  rw [rowsOf, rows_written]
  refine filter_filterMap_of_key (trail.distinct s) there fun other _ row made => ?_
  obtain ⟨state, -, rfl⟩ := Option.map_eq_some_iff.mp made
  rw [decide_eq_true_iff, trail.keyed, Option.some_inj]
  exact IdText.toText_injective.eq_iff

theorem rowsOf_written_of_absent {id : String}
    (absent : ∀ subject ∈ trail.subjects s, IdText.toText (trail.id subject) ≠ id) :
    trail.rowsOf (trail.written s stamps took) id = [] := by
  rw [rowsOf, rows_written]
  refine filter_filterMap_eq_nil fun subject there row made about => ?_
  obtain ⟨state, -, rfl⟩ := Option.map_eq_some_iff.mp made
  rw [decide_eq_true_iff, trail.keyed, Option.some_inj] at about
  exact absent subject there about

theorem recorded_written (there : subject ∈ trail.subjects s) :
    trail.recorded (trail.written s stamps took) (IdText.toText (trail.id subject)) =
      (trail.finding s subject).toList := by
  rw [recorded, rowsOf_written there]
  rcases trail.finding s subject with _ | state
  · rfl
  · simp only [Option.map_some, Option.toList_some, List.map_cons, List.map_nil, trail.read]

theorem recordedOf_sweep (there : subject ∈ trail.subjects s) :
    trail.recordedOf (trail.sweep s stamps took) subject = trail.recordedOf s subject ++
      (trail.finding s subject).toList := by
  rw [recordedOf, sweep, recorded_append, recorded_written there, ← recordedOf]

theorem InOrder.last_recorded_sweep (inOrder : trail.InOrder s) (there : subject ∈ trail.subjects s) :
    (trail.recordedOf (trail.sweep s stamps took) subject).getLast? = some trail.silent ↔
      trail.silentNow s subject = true := by
  rw [recordedOf_sweep there, inOrder.finding_eq]
  split
  · rename_i same
    rw [Option.toList_none, List.append_nil]
    exact same
  · rw [Option.toList_some, List.getLast?_concat, Option.some_inj]
    rcases trail.silentNow s subject with _ | _
    · exact iff_of_false trail.apart.symm (by simp)
    · exact iff_of_true rfl rfl

/-- Of an id a pass writes nothing, or the other of the two states than the last, once. -/
theorem InOrder.rowsOf_written_cases (inOrder : trail.InOrder s) (stamps : Uuid → Nat) (took : Nat) (id : String) :
    trail.rowsOf (trail.written s stamps took) id = [] ∨
      ∃ row, trail.rowsOf (trail.written s stamps took) id = [row] ∧ s.now ≤ row.createdAt ∧
        row.createdAt ≤ s.now + took ∧
          trail.reads row = if (trail.recorded s.auditLogs id).getLast? = some trail.silent then trail.returned
          else trail.silent := by
  by_cases among : ∃ subject ∈ trail.subjects s, IdText.toText (trail.id subject) = id
  · obtain ⟨subject, there, rfl⟩ := among
    rw [rowsOf_written there, inOrder.finding_eq]
    split
    · exact .inl rfl
    · rename_i differs
      refine .inr ⟨_, rfl, ?_, ?_, ?_⟩
      · rw [trail.stamped]
        omega
      · rw [trail.stamped]
        omega
      · rw [trail.read]
        by_cases last : (trail.recorded s.auditLogs (IdText.toText (trail.id subject))).getLast? = some trail.silent
        · rw [if_pos last, if_neg fun now => differs (iff_of_true last now)]
        · rw [if_neg last, if_pos (by_contra fun quiet => differs (iff_of_false last quiet))]
  · exact .inl (rowsOf_written_of_absent fun subject there same => among ⟨subject, there, same⟩)

/-- A sweep keeps the rows in order, those it adds included. -/
theorem InOrder.sweep (inOrder : trail.InOrder s) (stamps : Uuid → Nat) (took : Nat) :
    trail.InOrder (trail.sweep s stamps took) where
  increasing id := by
    rw [Trail.sweep, rowsOf_append, List.pairwise_append]
    rcases inOrder.rowsOf_written_cases stamps took id with none | ⟨row, one, after, -, -⟩
    · rw [none]
      exact ⟨inOrder.increasing id, .nil, fun _ _ _ there => nomatch there⟩
    · rw [one]
      refine ⟨inOrder.increasing id, List.pairwise_singleton .., fun a old b there => ?_⟩
      obtain rfl := List.mem_singleton.mp there
      exact (inOrder.past id a old).trans_le after
  past id row there := by
    simp only [Trail.sweep, rowsOf_append, List.mem_append] at there ⊢
    rcases there with old | added
    · have before := inOrder.past id row old
      omega
    · rcases inOrder.rowsOf_written_cases stamps took id with none | ⟨row', one, -, within, -⟩
      · rw [none] at added
        cases added
      · rw [one, List.mem_singleton] at added
        subst added
        omega
  alternates id := by
    rw [Trail.sweep, recorded_append]
    rcases inOrder.rowsOf_written_cases stamps took id with none | ⟨row, one, -, -, next⟩
    · rw [recorded, recorded, none, List.map_nil, List.append_nil]
      exact inOrder.alternates id
    · rw [show trail.recorded (trail.written s stamps took) id = [trail.reads row] by rw [recorded, one]; rfl]
      exact ((inOrder.alternates id).snoc_iff trail.apart).mpr next

end Trail

namespace LivenessState
variable {Uuid : Type} [DecidableEq Uuid] (s : LivenessState Uuid)

/-- Every device bound to a tool, once for each binding. -/
def boundModulesWithLiveness : List (Uuid × BoundModule Uuid × Option Int) :=
  s.bindings.entries.filterMap fun row =>
    ((s.devices.lookup row.2.deviceId).filter fun device => !device.deleted).map fun device =>
      (row.1, row.2, device.lastSeenAt)

/-- The devices that are bound to nothing. -/
def unboundDevicesWithLiveness : List (Uuid × String × Option Int) :=
  (s.devices.entries.filter fun row => !row.2.deleted &&
    decide (row.1 ∉ s.bindings.entries.map fun b => b.2.deviceId)).map
    fun row => (row.1, row.2.name, row.2.lastSeenAt)

theorem boundModulesWithLiveness_nodup : (s.boundModulesWithLiveness.map (·.1)).Nodup := by
  have keys : (s.bindings.entries.map Sigma.fst).Nodup := s.bindings.nodupKeys
  refine keys.sublist ?_
  rw [boundModulesWithLiveness]
  induction s.bindings.entries with
  | nil => exact List.Sublist.slnil
  | cons row rest ih =>
    rw [List.filterMap_cons]
    split
    · exact ih.cons _
    · rename_i subject found
      obtain ⟨device, -, rfl⟩ := Option.map_eq_some_iff.mp found
      exact ih.cons_cons _

theorem unboundDevicesWithLiveness_nodup : (s.unboundDevicesWithLiveness.map (·.1)).Nodup := by
  have keys : (s.devices.entries.map Sigma.fst).Nodup := s.devices.nodupKeys
  rw [unboundDevicesWithLiveness, List.map_map]
  exact keys.sublist (List.filter_sublist.map _)

end LivenessState

section Trails
variable {Uuid : Type} [DecidableEq Uuid] [IdText Uuid]

def secondsField : Option Int → AuditValue
  | none => .null
  | some secs => .number secs

/-- The sweep of the bindings: the kind of a row is what it records. -/
def moduleTrail : Trail Uuid (Uuid × BoundModule Uuid × Option Int) where
  types := ["tool_module_silent", "tool_module_returned"]
  key := "module_id"
  reads row := row.eventType
  silent := "tool_module_silent"
  returned := "tool_module_returned"
  subjects := LivenessState.boundModulesWithLiveness
  id subject := subject.1
  lastSeenAt subject := subject.2.2
  write subject state secs threshold stamp := ⟨state, [("module_id", .text (IdText.toText subject.1)),
    ("module_name", .text subject.2.1.name), ("role", .text subject.2.1.role),
      ("device_id", .text (IdText.toText subject.2.1.deviceId)), ("seconds_since_seen", secondsField secs),
        ("threshold_secs", .number threshold),
    ("note", .text "silence only; the cause (power, network, or removal) is not distinguishable from here")], stamp⟩
  apart := by decide
  distinct := LivenessState.boundModulesWithLiveness_nodup
  typed _ state _ _ _ both := by rcases both with rfl | rfl <;> simp
  keyed _ _ _ _ _ := rfl
  read _ _ _ _ _ := rfl
  stamped _ _ _ _ _ := rfl

/-- The sweep of the other devices: one kind of row, and in its data what it records. -/
def deviceTrail : Trail Uuid (Uuid × String × Option Int) where
  types := ["edge_isolation_reported"]
  key := "device_id"
  reads row := (row.dataText "state").getD "silent"
  silent := "silent"
  returned := "returned"
  subjects := LivenessState.unboundDevicesWithLiveness
  id subject := subject.1
  lastSeenAt subject := subject.2.2
  write subject state secs threshold stamp :=
    ⟨"edge_isolation_reported", [("device_id", .text (IdText.toText subject.1)),
    ("device_name", .text subject.2.1), ("state", .text state), ("seconds_since_seen", secondsField secs),
    ("threshold_secs", .number threshold), ("detected_by", .text "server_inference"),
    ("note", .text ("inferred from silence; an isolated edge cannot report its own isolation, " ++
      "so this is late and one-sided"))], stamp⟩
  apart := by decide
  distinct := LivenessState.unboundDevicesWithLiveness_nodup
  typed _ _ _ _ _ _ := by simp
  keyed _ _ _ _ _ := rfl
  read _ _ _ _ _ := rfl
  stamped _ _ _ _ _ := rfl

inductive LivenessEvent (Uuid : Type)
  | sweepOnce (stamps : Uuid → Nat) (took : Nat)
  | sweepUnboundDevices (stamps : Uuid → Nat) (took : Nat)
  | touchDeviceLastSeen (deviceId : Uuid)
  | registerDevice (deviceId : Uuid) (name : String)
  | deleteDevice (deviceId : Uuid)
  | bind (moduleId : Uuid) (binding : BoundModule Uuid)
  | unbind (moduleId : Uuid)
  | restart (moduleSilenceSecs : Int)
  | createAuditLog (row : AuditEntry)
  | tick (micros : Nat)

namespace LivenessState
variable (s : LivenessState Uuid)

def sweepOnce (stamps : Uuid → Nat) (took : Nat) : LivenessState Uuid := moduleTrail.sweep s stamps took

def sweepUnboundDevices (stamps : Uuid → Nat) (took : Nat) : LivenessState Uuid := deviceTrail.sweep s stamps took

def touchDeviceLastSeen (deviceId : Uuid) : LivenessState Uuid :=
  match s.devices.lookup deviceId with
  | some device =>
    if device.deleted then s
    else { s with devices := s.devices.insert deviceId { device with lastSeenAt := some s.now } }
  | none => s

def deleteDevice (deviceId : Uuid) : LivenessState Uuid :=
  match s.devices.lookup deviceId with
  | some device => { s with devices := s.devices.insert deviceId { device with deleted := true } }
  | none => s

/-- Rows of these kinds are written by the sweeps alone. -/
def createAuditLog (row : AuditEntry) : LivenessState Uuid :=
  if row.eventType ∈ ["tool_module_silent", "tool_module_returned", "edge_isolation_reported"] then s
  else { s with auditLogs := s.auditLogs ++ [row] }

def step : LivenessEvent Uuid → LivenessState Uuid
  | .sweepOnce stamps took => s.sweepOnce stamps took
  | .sweepUnboundDevices stamps took => s.sweepUnboundDevices stamps took
  | .touchDeviceLastSeen deviceId => s.touchDeviceLastSeen deviceId
  | .registerDevice deviceId name =>
    if (s.devices.lookup deviceId).isSome then s
      else { s with devices := s.devices.insert deviceId ⟨name, none, false⟩ }
  | .deleteDevice deviceId => s.deleteDevice deviceId
  | .bind moduleId binding => { s with bindings := s.bindings.insert moduleId binding }
  | .unbind moduleId => { s with bindings := s.bindings.erase moduleId }
  | .restart moduleSilenceSecs => { s with moduleSilenceSecs := moduleSilenceSecs }
  | .createAuditLog row => s.createAuditLog row
  | .tick micros => { s with now := s.now + micros }

end LivenessState

/-- The server over its database, from the day the trail is empty. -/
def livenessMachine (moduleSilenceSecs : Int) : Machine (LivenessState Uuid) (LivenessEvent Uuid) Unit where
  start := ⟨0, moduleSilenceSecs, ∅, ∅, []⟩
  step s event := (s.step event, ())

abbrev livenessRun (moduleSilenceSecs : Int) (past : List (LivenessEvent Uuid)) : LivenessState Uuid :=
  (livenessMachine moduleSilenceSecs).run past

namespace Trail
variable {Subject : Type} (trail : Trail Uuid Subject)

/-- Whom the later sweep finds the earlier one found, and as silent. -/
def Unchanged (s s' : LivenessState Uuid) : Prop :=
  ∀ subject ∈ trail.subjects s', ∃ earlier ∈ trail.subjects s,
    trail.id earlier = trail.id subject ∧ trail.silentNow s earlier = trail.silentNow s' subject

/-- The laws of a trail: what is recorded of an id alternates, a sweep records a subject's silence when it is not
what was recorded last and records nothing else, and sweeps that find no change record nothing. -/
structure Laws (sweepEvent : (Uuid → Nat) → Nat → LivenessEvent Uuid) (moduleSilenceSecs : Int) : Prop where
  alternate : ∀ (past : List (LivenessEvent Uuid)) id,
    Alternates trail.silent trail.returned (trail.recorded (livenessRun moduleSilenceSecs past).auditLogs id)
  writes : ∀ (past : List (LivenessEvent Uuid)) stamps took,
    ∀ subject ∈ trail.subjects (livenessRun moduleSilenceSecs past),
      trail.recordedOf (livenessRun moduleSilenceSecs (past ++ [sweepEvent stamps took])) subject =
      trail.recordedOf (livenessRun moduleSilenceSecs past) subject ++
        if ((trail.recordedOf (livenessRun moduleSilenceSecs past) subject).getLast? = some trail.silent ↔
          trail.silentNow (livenessRun moduleSilenceSecs past) subject = true) then []
        else [if trail.silentNow (livenessRun moduleSilenceSecs past) subject then trail.silent else trail.returned]
  others : ∀ (past : List (LivenessEvent Uuid)) event id, (∀ stamps took, event = sweepEvent stamps took →
      ∀ subject ∈ trail.subjects (livenessRun moduleSilenceSecs past), IdText.toText (trail.id subject) ≠ id) →
    trail.rowsOf (livenessRun moduleSilenceSecs (past ++ [event])).auditLogs id =
      trail.rowsOf (livenessRun moduleSilenceSecs past).auditLogs id
  quiet : ∀ (past : List (LivenessEvent Uuid)) stamps took later,
    EveryStep (fun front event => ∀ stamps' took', event = sweepEvent stamps' took' → trail.Unchanged
      (livenessRun moduleSilenceSecs past)
        (livenessRun moduleSilenceSecs (past ++ [sweepEvent stamps took] ++ front))) later →
    trail.rows (livenessRun moduleSilenceSecs (past ++ [sweepEvent stamps took] ++ later)).auditLogs =
      trail.rows (livenessRun moduleSilenceSecs (past ++ [sweepEvent stamps took])).auditLogs

variable {trail} {s s' : LivenessState Uuid}

omit [DecidableEq Uuid] in
theorem Leaves.of_createAuditLog
    (kinds : ∀ t ∈ trail.types, t ∈ ["tool_module_silent", "tool_module_returned", "edge_isolation_reported"])
    (row : AuditEntry) : trail.Leaves s (s.createAuditLog row) := by
  rw [LivenessState.createAuditLog]
  split
  · exact .of_eq rfl le_rfl
  · rename_i other
    refine ⟨?_, le_rfl⟩
    have none : trail.rows [row] = [] := List.filter_eq_nil_iff.mpr fun row' there typed =>
      other (List.mem_singleton.mp there ▸ kinds _ (of_decide_eq_true typed))
    rw [rows_append, none, List.append_nil]

/-- Apart from the sweeps nothing writes rows of these kinds. -/
theorem Leaves.of_event (kinds : ∀ t ∈ trail.types,
    t ∈ ["tool_module_silent", "tool_module_returned", "edge_isolation_reported"])
    {event : LivenessEvent Uuid} (modules : ∀ stamps took, event ≠ .sweepOnce stamps took)
    (devices : ∀ stamps took, event ≠ .sweepUnboundDevices stamps took) : trail.Leaves s (s.step event) := by
  cases event with
  | sweepOnce stamps took => exact absurd rfl (modules stamps took)
  | sweepUnboundDevices stamps took => exact absurd rfl (devices stamps took)
  | touchDeviceLastSeen deviceId =>
    rw [LivenessState.step, LivenessState.touchDeviceLastSeen]
    split
    · split <;> exact .of_eq rfl le_rfl
    · exact .of_eq rfl le_rfl
  | registerDevice deviceId name =>
    rw [LivenessState.step]
    split <;> exact .of_eq rfl le_rfl
  | deleteDevice deviceId =>
    rw [LivenessState.step, LivenessState.deleteDevice]
    split <;> exact .of_eq rfl le_rfl
  | bind moduleId binding => exact .of_eq rfl le_rfl
  | unbind moduleId => exact .of_eq rfl le_rfl
  | restart moduleSilenceSecs => exact .of_eq rfl le_rfl
  | createAuditLog row => exact .of_createAuditLog kinds row
  | tick micros => exact .of_eq rfl (Int.le_add_of_nonneg_right (Int.natCast_nonneg micros))

section Runs
variable {sweepEvent : (Uuid → Nat) → Nat → LivenessEvent Uuid} {moduleSilenceSecs : Int}

/-- How a trail's own sweep and the other events act on it. -/
structure StepsOf (trail : Trail Uuid Subject) (sweepEvent : (Uuid → Nat) → Nat → LivenessEvent Uuid) : Prop where
  own : ∀ (s : LivenessState Uuid) stamps took, s.step (sweepEvent stamps took) = trail.sweep s stamps took
  others : ∀ (s : LivenessState Uuid) event, (∀ stamps took, event ≠ sweepEvent stamps took) →
    trail.Leaves s (s.step event)

variable (steps : StepsOf trail sweepEvent)
include steps

theorem StepsOf.inOrder (past : List (LivenessEvent Uuid)) : trail.InOrder (livenessRun moduleSilenceSecs past) := by
  have empty : trail.InOrder (@livenessMachine Uuid _ _ moduleSilenceSecs).start :=
    ⟨fun _ => .nil, fun _ _ there => absurd there List.not_mem_nil, fun _ => .nil⟩
  refine Machine.run_invariant _ (fun _ s => trail.InOrder s) empty ?_ past
  intro past event inOrder
  by_cases own : ∃ stamps took, event = sweepEvent stamps took
  · obtain ⟨stamps, took, rfl⟩ := own
    have swept := inOrder.sweep stamps took
    rw [← steps.own] at swept
    exact swept
  · exact inOrder.leaves (steps.others _ event fun stamps took same => own ⟨stamps, took, same⟩)

theorem StepsOf.run_sweep (past : List (LivenessEvent Uuid)) (stamps : Uuid → Nat) (took : Nat) :
    livenessRun moduleSilenceSecs (past ++ [sweepEvent stamps took]) =
      trail.sweep (livenessRun moduleSilenceSecs past) stamps took :=
  (Machine.run_snoc _ past _).trans (steps.own _ stamps took)

theorem StepsOf.run_other (past : List (LivenessEvent Uuid)) {event : LivenessEvent Uuid}
    (other : ∀ stamps took, event ≠ sweepEvent stamps took) :
    trail.Leaves (livenessRun moduleSilenceSecs past) (livenessRun moduleSilenceSecs (past ++ [event])) := by
  have leaves := steps.others (livenessRun moduleSilenceSecs past) event other
  rwa [livenessRun, livenessRun, Machine.run_snoc]

theorem StepsOf.laws (moduleSilenceSecs : Int) : trail.Laws sweepEvent moduleSilenceSecs where
  alternate past id := (steps.inOrder past).alternates id
  writes past stamps took subject there := by
    rw [steps.run_sweep, recordedOf_sweep there, (steps.inOrder past).finding_eq]
    split <;> rfl
  others past event id absent := by
    by_cases own : ∃ stamps took, event = sweepEvent stamps took
    · obtain ⟨stamps, took, rfl⟩ := own
      rw [steps.run_sweep, sweep, rowsOf_append, rowsOf_written_of_absent (absent stamps took rfl), List.append_nil]
    · exact (steps.run_other past fun stamps took same => own ⟨stamps, took, same⟩).rowsOf id
  quiet past stamps took later unchanged := by
    induction later using List.reverseRecOn with
    | nil => rw [List.append_nil]
    | append_singleton later event ih =>
      obtain ⟨before, here⟩ := EveryStep.snoc_iff.mp unchanged
      have same := ih before
      rw [← List.append_assoc]
      by_cases own : ∃ stamps' took', event = sweepEvent stamps' took'
      · obtain ⟨stamps', took', rfl⟩ := own
        rw [steps.run_sweep, sweep, rows_append, (steps.inOrder _).written_eq_nil, rows_nil, List.append_nil]
        · exact same
        · intro subject there
          obtain ⟨earlier, among, sameId, sameSilence⟩ := here stamps' took' rfl subject there
          rw [← sameSilence, recordedOf, ← sameId, recorded, rowsOf, same, ← rowsOf, ← recorded, ← recordedOf,
            steps.run_sweep]
          exact (steps.inOrder past).last_recorded_sweep among
      · exact (steps.run_other _ fun stamps' took' again => own ⟨stamps', took', again⟩).rows.trans same

end Runs

end Trail

theorem moduleTrail_steps : (@moduleTrail Uuid _ _).StepsOf .sweepOnce where
  own _ _ _ := rfl
  others s event other := by
    by_cases devices : ∃ stamps took, event = .sweepUnboundDevices stamps took
    · obtain ⟨stamps, took, rfl⟩ := devices
      exact .of_sweep (by simp [moduleTrail, deviceTrail]) stamps took
    · exact .of_event (by simp [moduleTrail]) other fun stamps took same => devices ⟨stamps, took, same⟩

theorem deviceTrail_steps : (@deviceTrail Uuid _ _).StepsOf .sweepUnboundDevices where
  own _ _ _ := rfl
  others s event other := by
    by_cases modules : ∃ stamps took, event = .sweepOnce stamps took
    · obtain ⟨stamps, took, rfl⟩ := modules
      exact .of_sweep (by simp [moduleTrail, deviceTrail]) stamps took
    · exact .of_event (by simp [deviceTrail]) (fun stamps took same => modules ⟨stamps, took, same⟩) other

theorem liveness_rows_alternate (moduleSilenceSecs : Int) :
    (@moduleTrail Uuid _ _).Laws .sweepOnce moduleSilenceSecs ∧
      (@deviceTrail Uuid _ _).Laws .sweepUnboundDevices moduleSilenceSecs :=
  ⟨moduleTrail_steps.laws moduleSilenceSecs, deviceTrail_steps.laws moduleSilenceSecs⟩

example :
    (livenessRun 300 [.registerDevice (HexId.repeating 1) "reader",
    .bind (HexId.repeating 2) ⟨"Reader", "reader", .repeating 1⟩, .sweepOnce (fun _ => 0) 5,
      .sweepOnce (fun _ => 0) 5, .touchDeviceLastSeen (.repeating 1), .restart 600, .sweepOnce (fun _ => 0) 5,
    .sweepOnce (fun _ => 0) 5]).auditLogs.map (·.eventType) = ["tool_module_silent", "tool_module_returned"] := by
  decide +kernel

end Trails

end CoopSpaces
