import CoopSpaces.Server.CalendarWindow
import CoopSpaces.Server.Sync

namespace CoopSpaces

/-- The weekday of a date; the epoch was a Thursday. -/
def DayOfWeek.fromDate (date : Int) : DayOfWeek :=
  match ((date + 3) % 7).toNat with
  | 0 => .mon
  | 1 => .tue
  | 2 => .wed
  | 3 => .thu
  | 4 => .fri
  | 5 => .sat
  | _ => .sun

/-- The site's time zone, the only instant at which a wall clock is read if there is just one, and
how stored intervals are read. -/
structure SiteZone (Json : Type) where
  tz : Tz
  single : Int → Option Int
  parseIntervals : Json → Option (List ScheduleInterval)

def SiteZone.site {Json : Type} (zone : SiteZone Json) : SiteTime Json where
  parseIntervals := zone.parseIntervals
  localTime t := (.fromDate (zone.tz.date t), zone.tz.localTime t - midnight (zone.tz.date t))

def MINUTE : Int := 60000000000

/-- Extend an end across intervals that touch or overlap it, each of them at most once. -/
def extendEnd (day : List ScheduleInterval) : Nat → Int → Int
  | 0, end_ => end_
  | fuel + 1, end_ =>
    match day.find? fun iv => decide (iv.start ≤ end_) && decide (end_ < iv.end_) with
    | some iv => extendEnd day fuel iv.end_
    | none => end_

/-- No interval extends what the loop ends with. -/
theorem find_extendEnd {day : List ScheduleInterval} {fuel : Nat} {end_ : Int}
    (enough : (day.filter fun iv => end_ < iv.end_).length ≤ fuel) :
    (day.find? fun iv => decide (iv.start ≤ extendEnd day fuel end_) &&
      decide (extendEnd day fuel end_ < iv.end_)) = none := by
  induction fuel generalizing end_ with
  | zero =>
    have nothing := List.eq_nil_of_length_eq_zero (Nat.le_zero.mp enough)
    rw [List.find?_eq_none]
    intro iv member both
    rw [extendEnd, Bool.and_eq_true] at both
    exact List.filter_eq_nil_iff.mp nothing iv member both.2
  | succ fuel ih =>
    rcases found : day.find? (fun iv => decide (iv.start ≤ end_) && decide (end_ < iv.end_)) with _ | next
    · have stays : extendEnd day (fuel + 1) end_ = end_ := by rw [extendEnd, found]
      rw [stays, found]
    · have goes : extendEnd day (fuel + 1) end_ = extendEnd day fuel next.end_ := by rw [extendEnd, found]
      have both := List.find?_some found
      rw [Bool.and_eq_true, decide_eq_true_eq, decide_eq_true_eq] at both
      rw [goes]
      refine ih ?_
      -- The interval taken ends past the old end, and not past its own.
      have fewer : (day.filter fun iv => next.end_ < iv.end_).length <
          (day.filter fun iv => end_ < iv.end_).length := by
        have later : (day.filter fun iv => next.end_ < iv.end_) =
            (day.filter fun iv => end_ < iv.end_).filter fun iv => next.end_ < iv.end_ := by
          rw [List.filter_filter]
          refine List.filter_congr fun iv _ => ?_
          rw [← Bool.decide_and, decide_eq_decide]
          omega
        rw [later, List.length_filter_lt_length_iff_exists]
        exact ⟨next, List.mem_filter.mpr ⟨List.mem_of_find?_eq_some found, decide_eq_true both.2⟩, by simp⟩
      omega

/-- The end of the window that now falls inside, if it does. -/
def activeUntil {Json : Type} (zone : SiteZone Json) (intervals : List ScheduleInterval) (now : Int) : Option Int :=
  let (dow, time) := zone.site.localTime now
  let day := (intervals.filter fun iv => iv.day = dow).insertionSort fun a b => a.start ≤ b.start
  (day.find? fun iv => decide (iv.start ≤ time) && decide (time < iv.end_)).bind fun iv =>
    let naiveEnd := midnight (zone.tz.date now) + extendEnd day day.length iv.end_
    match zone.tz.earliest naiveEnd with
    | some t => some t
    | none => zone.single (naiveEnd - MINUTE)

section Tables
variable {Uuid Json : Type} [DecidableEq Uuid]

/-- The instant an Open Access door's held-unlock window ends, the latest of those open now. -/
def openAccessHoldUntilAt (zone : SiteZone Json) (rules : List (AccessRule Uuid))
    (schedules : List (Schedule Uuid Json)) (now : Int) :
    Option Int :=
  rules.foldl (fun latest rule =>
    if DoorRuleKind.parse rule.kind ≠ some .openAccess then latest
    else if DoorRuleEffect.parse rule.effect ≠ some .allow then latest
    else
      match rule.scheduleId.bind fun sid => schedules.find? fun s => s.id = sid with
      | none => latest
      | some sched =>
        match (zone.parseIntervals sched.intervals).bind (activeUntil zone · now) with
        | none => latest
        | some end_ => some (latest.elim end_ (max · end_))) none

structure DoorRow (Uuid : Type) where
  id : Uuid
  name : String
  enabled : Bool
  deriving DecidableEq

structure DoorBinding (Uuid : Type) where
  deviceId : Uuid
  resourceId : Uuid
  role : String
  pulseMs : Int
  holdOpenAccess : Bool
  createdAt : Int
  deriving DecidableEq

structure StrikeProfile where
  pulseMs : Int
  holdOpenAccess : Bool

/-- The rows a compilation asks for, in the order they are answered. -/
structure DoorTables (Uuid Json : Type) extends Database Uuid Json where
  doors : List (DoorRow Uuid)
  deviceBindings : List (DoorBinding Uuid)

namespace DoorTables
variable (db : DoorTables Uuid Json)

def listDoorsForDevice (device : Uuid) : List (DoorRow Uuid) :=
  db.doors.flatMap fun door =>
    (db.deviceBindings.filter fun b => b.resourceId = door.id ∧ b.deviceId = device ∧ b.role = "edge").map
      fun _ => door

/-- Distinct devices that coordinate at least one door. -/
def listDoorDeviceIds : List Uuid :=
  ((db.deviceBindings.filter fun b => b.role = "edge" ∧ b.resourceId ∈ db.doors.map (·.id)).map (·.deviceId)).dedup

def doorStrike (resource : Uuid) : Option StrikeProfile :=
  let rows := (db.deviceBindings.filter fun b => b.resourceId = resource ∧ b.role = "strike").insertionSort
    fun a b => a.createdAt ≤ b.createdAt
  rows.head?.map fun first => ⟨first.pulseMs, rows.all (·.holdOpenAccess)⟩

end DoorTables

/-- What one compilation reads: the tables, the settings, and the clock each time it is read. -/
structure DoorReading (Uuid Json : Type) where
  tables : DoorTables Uuid Json
  zone : SiteZone Json
  profileField : String
  cardCipher : Option CardCipher
  defaultUnlockDurationMs : Int
  clock : Nat → Int

namespace DoorReading
variable [IdText Uuid] (reading : DoorReading Uuid Json)

/-- Its strike binding's, or the site's default pulse with the hold allowed. -/
def strikeProfile (door : Uuid) : StrikeProfile :=
  (reading.tables.doorStrike door).getD ⟨reading.defaultUnlockDurationMs, true⟩

/-- The clock is read for the rules of each door, for its hold, and for the stamp. -/
def compileStateFor (device : Uuid) : DoorStateSnapshot Uuid :=
  let doors := reading.tables.listDoorsForDevice device
  if doors.isEmpty then ⟨reading.clock 0, []⟩
  else
    let compiled := doors.zipIdx.map fun (door, i) =>
      let lists := reading.tables.doorLists reading.zone.site
        (reading.clock (2 * i)) door.id reading.profileField reading.cardCipher
      let strike := reading.strikeProfile door.id
      let hold := if strike.holdOpenAccess then
          openAccessHoldUntilAt reading.zone (reading.tables.doorRules door.id) reading.tables.schedules
            (reading.clock (2 * i + 1))
        else none
      compileDoor door.id door.name door.enabled strike.pulseMs hold lists
    ⟨reading.clock (2 * doors.length), compiled⟩

end DoorReading
end Tables

/-- What comes of a device's turn: what is compiled is read, unless the database fails, and a
push gets through or not. -/
structure DoorTurn (Uuid Json : Type) where
  reading : Option (DoorReading Uuid Json)
  delivers : Bool

/-- The hashes last recorded. Beside them an observer keeps the snapshot last delivered to a device
in any way. -/
structure DoorService (Uuid : Type) where
  lastSnapshotHash : Table Uuid UInt64
  pushed : Table Uuid (DoorStateSnapshot Uuid)

inductive DoorEvent (Uuid Json : Type) where
  | publishState (device : Uuid) (turn : DoorTurn Uuid Json)
  | republishChanged (tables : Option (DoorTables Uuid Json)) (turns : Uuid → DoorTurn Uuid Json)

namespace DoorService
variable {Uuid Json : Type} [DecidableEq Uuid] [IdText Uuid] (hash : DoorStateSnapshot Uuid → UInt64)

abbrev Pushes (Uuid : Type) := List (Uuid × DoorStateSnapshot Uuid)

def publishState (s : DoorService Uuid) (device : Uuid) (turn : DoorTurn Uuid Json) :
    DoorService Uuid × Pushes Uuid :=
  match turn.reading with
  | none => (s, [])
  | some reading =>
    let snapshot := reading.compileStateFor device
    (if turn.delivers then { s with pushed := s.pushed.insert device snapshot } else s, [(device, snapshot)])

/-- One device's turn in a sweep. The hash is of all that is serialized of the snapshot. -/
def republishDevice (s : DoorService Uuid) (device : Uuid) (turn : DoorTurn Uuid Json) :
    DoorService Uuid × Pushes Uuid :=
  match turn.reading with
  | none => (s, [])
  | some reading =>
    let snapshot := reading.compileStateFor device
    if s.lastSnapshotHash device = some (hash snapshot) then (s, [])
    else if turn.delivers then
      (⟨s.lastSnapshotHash.insert device (hash snapshot), s.pushed.insert device snapshot⟩, [(device, snapshot)])
    else (s, [(device, snapshot)])

def sweep (turns : Uuid → DoorTurn Uuid Json) : DoorService Uuid → List Uuid → DoorService Uuid × Pushes Uuid
  | s, [] => (s, [])
  | s, device :: rest =>
    let (after, pushes) := republishDevice hash s device (turns device)
    let (last, more) := sweep turns after rest
    (last, pushes ++ more)

/-- Recompile per-device state and only push when the snapshot's hash has changed. -/
def republishChanged (s : DoorService Uuid) (tables : Option (DoorTables Uuid Json))
    (turns : Uuid → DoorTurn Uuid Json) :
    DoorService Uuid × Pushes Uuid :=
  match tables with
  | none => (s, [])
  | some tables => sweep hash turns s tables.listDoorDeviceIds

def machine : Machine (DoorService Uuid) (DoorEvent Uuid Json) (Pushes Uuid) where
  start := ⟨.empty, .empty⟩
  step s event :=
    match event with
    | .publishState device turn => s.publishState device turn
    | .republishChanged tables turns => s.republishChanged hash tables turns

/-- The doors compiled are those the device was last sent, in whatever order they come. -/
def Unchanged (s : DoorService Uuid) (device : Uuid) (snapshot : DoorStateSnapshot Uuid) : Prop :=
  ∃ last, s.pushed device = some last ∧ last.doors.Perm snapshot.doors

/-- A property of the snapshot compiled for each device a sweep comes to. -/
def OfEach (law : Uuid → DoorStateSnapshot Uuid → Prop) : DoorEvent Uuid Json → Prop
  | .republishChanged (some tables) turns => ∀ device ∈ tables.listDoorDeviceIds, ∀ reading,
      (turns device).reading = some reading → law device (reading.compileStateFor device)
  | _ => True

/-- Exactly what has changed since the device was last sent anything is pushed. -/
def PushesChanged (past : List (DoorEvent Uuid Json)) (event : DoorEvent Uuid Json) : Prop :=
  let s := (machine hash).run past
  OfEach (fun device snapshot => (device, snapshot) ∈ ((machine hash).step s event).2 ↔
    ¬ s.Unchanged device snapshot) event

/-- What a device's turn compiles, where a push gets through to it. -/
def deliverable (turn : DoorTurn Uuid Json) (device : Uuid) : Option (DoorStateSnapshot Uuid) :=
  if turn.delivers then turn.reading.map (·.compileStateFor device) else none

/-- The same of a sweep that comes to the device. -/
def sweptFor (device : Uuid) : DoorEvent Uuid Json → Option (DoorStateSnapshot Uuid)
  | .republishChanged (some tables) turns =>
    if device ∈ tables.listDoorDeviceIds then deliverable (turns device) device else none
  | _ => none

/-- And of any event. -/
def compiledFor (device : Uuid) : DoorEvent Uuid Json → Option (DoorStateSnapshot Uuid)
  | .publishState other turn => if other = device then deliverable turn device else none
  | event => sweptFor device event

/-- What was compiled when a push would last get through to the device, at a sweep or at any event. -/
def lastSwept (past : List (DoorEvent Uuid Json)) (device : Uuid) : Option (DoorStateSnapshot Uuid) :=
  past.reverse.findSome? (sweptFor device)

def lastCompiled (past : List (DoorEvent Uuid Json)) (device : Uuid) : Option (DoorStateSnapshot Uuid) :=
  past.reverse.findSome? (compiledFor device)

/-- Two snapshots have one hash. -/
def Collide (one other : DoorStateSnapshot Uuid) : Prop := hash one = hash other ∧ one ≠ other

/-- How a sweep finds a device. If its doors are those compiled last, then a sweep compiled them last, in the same
order, and the clock reads for the stamp what it read then, unless the hashes collide. If they are not, they are
not back at what a sweep compiled last, at the same reading of the clock, nor do the hashes collide. -/
structure Stamped (past : List (DoorEvent Uuid Json)) (device : Uuid) (snapshot : DoorStateSnapshot Uuid) : Prop where
  clock : ∀ last ∈ lastCompiled past device, last.doors.Perm snapshot.doors →
    ∃ swept ∈ lastSwept past device, swept.snapshotAt = snapshot.snapshotAt ∨ Collide hash swept snapshot
  order : ∀ last ∈ lastCompiled past device, last.doors.Perm snapshot.doors →
    ∃ swept ∈ lastSwept past device, swept.doors = snapshot.doors ∨ Collide hash swept snapshot
  back : ∀ swept ∈ lastSwept past device, swept.doors = snapshot.doors → swept.snapshotAt = snapshot.snapshotAt →
    ∃ last ∈ lastCompiled past device, last.doors.Perm snapshot.doors
  apart : ∀ swept ∈ lastSwept past device, Collide hash swept snapshot →
    ∃ last ∈ lastCompiled past device, last.doors.Perm snapshot.doors

section Steps
variable {hash : DoorStateSnapshot Uuid → UInt64} {s : DoorService Uuid} {device other : Uuid}
    {turn : DoorTurn Uuid Json}
  {turns : Uuid → DoorTurn Uuid Json} {reading : DoorReading Uuid Json}

theorem republishDevice_of_reading (read : turn.reading = some reading) :
    ((device, reading.compileStateFor device) ∈ (republishDevice hash s device turn).2 ↔
      s.lastSnapshotHash device ≠ some (hash (reading.compileStateFor device))) := by
  simp only [republishDevice, read]
  split
  · rename_i same
    exact ⟨nofun, fun differs => absurd same differs⟩
  · rename_i differs
    split
    · exact ⟨fun _ => differs, fun _ => List.mem_singleton_self _⟩
    · exact ⟨fun _ => differs, fun _ => List.mem_singleton_self _⟩

theorem publishState_state : (s.publishState device turn).1 =
    match deliverable turn device with
    | none => s
    | some snapshot => { s with pushed := s.pushed.insert device snapshot } := by
  unfold publishState deliverable
  rcases read : turn.reading with _ | reading
  · simp only [Option.map_none, ite_self]
  · cases delivers : turn.delivers with
    | true => simp only [Option.map_some, if_true]
    | false => simp only [Bool.false_eq_true, if_false]

omit [DecidableEq Uuid] [IdText Uuid] in
theorem snapshot_ext {first second : DoorStateSnapshot Uuid} (stamp : first.snapshotAt = second.snapshotAt)
    (doors : first.doors = second.doors) : first = second := by
  obtain ⟨stamp', doors'⟩ := first
  cases stamp
  cases doors
  rfl

/-- A device's turn pushes nothing to another, and leaves what is recorded of it. -/
theorem republishDevice_other (apart : other ≠ device) :
    (∀ snapshot, (other, snapshot) ∉ (republishDevice hash s device turn).2) ∧
      (republishDevice hash s device turn).1.lastSnapshotHash other = s.lastSnapshotHash other ∧
      (republishDevice hash s device turn).1.pushed other = s.pushed other := by
  have elsewhere : ∀ snapshot sent : DoorStateSnapshot Uuid, (other, snapshot) ∉ [(device, sent)] := by
    intro snapshot sent member
    exact apart (congrArg Prod.fst (List.mem_singleton.mp member))
  cases read : turn.reading with
  | none =>
    simp only [republishDevice, read]
    exact ⟨fun _ => List.not_mem_nil, trivial, trivial⟩
  | some reading =>
    simp only [republishDevice, read]
    split
    · exact ⟨fun _ => List.not_mem_nil, rfl, rfl⟩
    · split
      · exact ⟨fun snapshot => elsewhere snapshot _, Table.insert_of_ne _ _ apart, Table.insert_of_ne _ _ apart⟩
      · exact ⟨fun snapshot => elsewhere snapshot _, rfl, rfl⟩

theorem reading_of_deliverable {snapshot : DoorStateSnapshot Uuid}
    (sends : deliverable turn device = some snapshot) :
    ∃ reading, turn.reading = some reading ∧ reading.compileStateFor device = snapshot := by
  unfold deliverable at sends
  split at sends
  · exact Option.map_eq_some_iff.mp sends
  · cases sends

/-- A turn records what was deliverable and differs from what is recorded. -/
theorem republishDevice_state : (republishDevice hash s device turn).1 =
    match deliverable turn device with
    | none => s
    | some snapshot =>
      if s.lastSnapshotHash device = some (hash snapshot) then s
      else ⟨s.lastSnapshotHash.insert device (hash snapshot), s.pushed.insert device snapshot⟩ := by
  unfold republishDevice deliverable
  rcases read : turn.reading with _ | reading
  · simp only [Option.map_none, ite_self]
  · cases delivers : turn.delivers with
    | true =>
      simp only [Option.map_some, if_true]
      split
      · rfl
      · rfl
    | false =>
      simp only [Bool.false_eq_true, if_false]
      split
      · rfl
      · rfl

theorem recorded_of_turn : (republishDevice hash s device turn).1.lastSnapshotHash device =
    ((deliverable turn device).map hash).or (s.lastSnapshotHash device) := by
  rw [republishDevice_state]
  rcases deliverable turn device with _ | snapshot
  · rfl
  · dsimp only [Option.map_some, Option.some_or]
    split
    · assumption
    · exact Table.insert_self ..

theorem pushed_of_turn : (republishDevice hash s device turn).1.pushed device =
    ((deliverable turn device).filter fun snapshot => decide (s.lastSnapshotHash device ≠ some (hash snapshot))).or
      (s.pushed device) := by
  rw [republishDevice_state]
  rcases deliverable turn device with _ | snapshot
  · rfl
  · dsimp only
    split
    · rename_i same
      rw [Option.filter_some, if_neg (by simp [same]), Option.none_or]
    · rename_i differs
      rw [Option.filter_some, if_pos (decide_eq_true differs), Option.some_or]
      exact Table.insert_self ..

theorem sweep_other {devices : List Uuid} (absent : device ∉ devices) :
    (∀ snapshot, (device, snapshot) ∉ (sweep hash turns s devices).2) ∧
      (sweep hash turns s devices).1.lastSnapshotHash device = s.lastSnapshotHash device ∧
      (sweep hash turns s devices).1.pushed device = s.pushed device := by
  induction devices generalizing s with
  | nil => exact ⟨fun _ => List.not_mem_nil, rfl, rfl⟩
  | cons first rest ih =>
    have apart : device ≠ first := fun same => absent (same ▸ List.mem_cons_self)
    obtain ⟨silent, recorded, pushed⟩ := @republishDevice_other _ _ _ _ hash s _ _ (turns first) apart
    obtain ⟨still, records, pushes⟩ := @ih (republishDevice hash s first (turns first)).1
      fun there => absent (List.mem_cons_of_mem _ there)
    refine ⟨fun snapshot member => ?_, records.trans recorded, pushes.trans pushed⟩
    rcases List.mem_append.mp member with here | later
    · exact silent snapshot here
    · exact still snapshot later

theorem mem_sweep_iff {devices : List Uuid} (distinct : devices.Nodup) (listed : device ∈ devices)
    (read : (turns device).reading = some reading) :
    (device, reading.compileStateFor device) ∈ (sweep hash turns s devices).2 ↔
      s.lastSnapshotHash device ≠ some (hash (reading.compileStateFor device)) := by
  induction devices generalizing s with
  | nil => cases listed
  | cons first rest ih =>
    obtain ⟨fresh, distinct⟩ := List.nodup_cons.mp distinct
    have pushes : (sweep hash turns s (first :: rest)).2 = (republishDevice hash s first (turns first)).2 ++
        (sweep hash turns (republishDevice hash s first (turns first)).1 rest).2 := rfl
    rw [pushes, List.mem_append]
    by_cases own : device = first
    · subst own
      rw [republishDevice_of_reading read, or_iff_left ((sweep_other fresh).1 _)]
    · have later := List.mem_of_ne_of_mem own listed
      have frame := @republishDevice_other _ _ _ _ hash s _ _ (turns first) own
      rw [or_iff_right (frame.1 _), ih distinct later, frame.2.1]

/-- What a sweep does to a device it comes to is what the device's turn does. -/
theorem sweep_own {devices : List Uuid} (distinct : devices.Nodup) (listed : device ∈ devices) :
    (sweep hash turns s devices).1.lastSnapshotHash device =
        ((deliverable (turns device) device).map hash).or (s.lastSnapshotHash device) ∧
      (sweep hash turns s devices).1.pushed device = ((deliverable (turns device) device).filter fun snapshot =>
        decide (s.lastSnapshotHash device ≠ some (hash snapshot))).or (s.pushed device) := by
  induction devices generalizing s with
  | nil => cases listed
  | cons first rest ih =>
    obtain ⟨fresh, distinct⟩ := List.nodup_cons.mp distinct
    by_cases own : device = first
    · subst own
      obtain ⟨-, recorded, pushed⟩ :=
        @sweep_other _ _ _ _ hash (republishDevice hash s device (turns device)).1 _ turns
        rest fresh
      exact ⟨recorded.trans recorded_of_turn, pushed.trans pushed_of_turn⟩
    · obtain ⟨-, recorded, pushed⟩ := @republishDevice_other _ _ _ _ hash s _ _ (turns first) own
      have later := @ih (republishDevice hash s first (turns first)).1 distinct (List.mem_of_ne_of_mem own listed)
      rwa [recorded, pushed] at later

omit [IdText Uuid] in
theorem findSome_snoc {Event Found : Type} (f : Event → Option Found) (past : List Event) (event : Event) :
    (past ++ [event]).reverse.findSome? f = (f event).or (past.reverse.findSome? f) := by
  rw [List.reverse_append, List.reverse_singleton, List.singleton_append, List.findSome?_cons]
  cases f event <;> rfl

/-- The hash recorded of a device is that of what a sweep compiled last. -/
theorem recorded_run (past : List (DoorEvent Uuid Json)) (device : Uuid) :
    ((machine hash).run past).lastSnapshotHash device = (lastSwept past device).map hash := by
  induction past using List.reverseRecOn with
  | nil => rfl
  | append_singleton past event ih =>
    rw [Machine.run_snoc, lastSwept, findSome_snoc, Option.map_or, ← lastSwept, ← ih]
    match event with
    | .publishState other turn =>
      simp only [machine, publishState]
      split
      · rfl
      · dsimp only
        split
        · rfl
        · rfl
    | .republishChanged none turns => rfl
    | .republishChanged (some tables) turns =>
      simp only [machine, republishChanged, sweptFor]
      split
      · rename_i listed
        exact (sweep_own (List.nodup_dedup _) listed).1
      · rename_i absent
        exact (sweep_other absent).2.1

variable (hash) in
/-- What a device was last sent is what was last compiled for it, up to the order of its doors. -/
def Told (past : List (DoorEvent Uuid Json)) : Prop :=
  ∀ device snapshot, ((machine hash).run past).Unchanged device snapshot ↔
    ∃ last ∈ lastCompiled past device, last.doors.Perm snapshot.doors

/-- A sweep that pushes what has changed tells each device what it compiles. -/
theorem told_step {past : List (DoorEvent Uuid Json)} {event : DoorEvent Uuid Json} (told : Told hash past)
    (pushes : PushesChanged hash past event) : Told hash (past ++ [event]) := by
  intro device snapshot
  have before := told device
  unfold Unchanged at before ⊢
  rw [Machine.run_snoc, lastCompiled, findSome_snoc, ← lastCompiled]
  match event with
  | .publishState other turn =>
    have after : ((machine hash).step ((machine hash).run past) (.publishState other turn)).1 =
      (((machine hash).run past).publishState other turn).1 := rfl
    rw [after, publishState_state]
    simp only [compiledFor]
    by_cases own : other = device
    · subst own
      rw [if_pos rfl]
      rcases deliverable turn other with _ | sent
      · exact before snapshot
      · simp [Table.insert_self]
    · rw [if_neg own]
      rcases deliverable turn other with _ | sent
      · exact before snapshot
      · dsimp only
        rw [Table.insert_of_ne _ _ (Ne.symm own)]
        exact before snapshot
  | .republishChanged none turns => exact before snapshot
  | .republishChanged (some tables) turns =>
    have after : ((machine hash).step ((machine hash).run past) (.republishChanged (some tables) turns)).1 =
      (sweep hash turns ((machine hash).run past) tables.listDoorDeviceIds).1 := rfl
    rw [after]
    simp only [compiledFor, sweptFor]
    by_cases listed : device ∈ tables.listDoorDeviceIds
    · have distinct : tables.listDoorDeviceIds.Nodup := List.nodup_dedup _
      rw [if_pos listed, (sweep_own distinct listed).2]
      rcases sends : deliverable (turns device) device with _ | sent
      · exact before snapshot
      · obtain ⟨reading, read, rfl⟩ := reading_of_deliverable sends
        have pushed := (pushes device listed reading read).symm.trans (mem_sweep_iff distinct listed read)
        by_cases silent : ((machine hash).run past).lastSnapshotHash device =
          some (hash (reading.compileStateFor device))
        · -- what is not pushed has not changed
          obtain ⟨last, there, same⟩ := not_not.mp fun changed => pushed.mp changed silent
          rw [Option.filter_some, if_neg (by simp [silent]), Option.none_or, there]
          simp only [Option.some.injEq, exists_eq_left', Option.some_or, Option.mem_def]
          exact ⟨same.symm.trans, same.trans⟩
        · rw [Option.filter_some, if_pos (decide_eq_true silent)]
          rfl
    · rw [if_neg listed, (sweep_other listed).2.2]
      exact before snapshot

theorem pushesChanged_iff {past : List (DoorEvent Uuid Json)} {event : DoorEvent Uuid Json} (told : Told hash past) :
    PushesChanged hash past event ↔ OfEach (Stamped hash past) event := by
  match event with
  | .publishState device turn => exact Iff.rfl
  | .republishChanged none turns => exact Iff.rfl
  | .republishChanged (some tables) turns =>
    refine forall_congr' fun device => forall_congr' fun listed => forall_congr' fun reading =>
      forall_congr' fun read => ?_
    have pushes := @mem_sweep_iff _ _ _ _ hash ((machine hash).run past) _ _ _ _ (List.nodup_dedup _) listed read
    -- a sweep is silent where it has recorded the hash, of the same snapshot or of one that collides with it
    refine (iff_congr pushes Iff.rfl).trans ?_
    rw [ne_eq, not_iff_not, recorded_run, Option.map_eq_some_iff, told device]
    constructor
    · intro same
      have recorded : ∀ last ∈ lastCompiled past device, last.doors.Perm (reading.compileStateFor device).doors →
          ∃ swept ∈ lastSwept past device, swept = reading.compileStateFor device ∨
            Collide hash swept (reading.compileStateFor device) := by
        intro last compiled perm
        obtain ⟨swept, found, equal⟩ := same.mpr ⟨last, compiled, perm⟩
        refine ⟨swept, found, ?_⟩
        by_cases own : swept = reading.compileStateFor device
        · exact .inl own
        · exact .inr ⟨equal, own⟩
      refine ⟨fun last compiled perm => ?_, fun last compiled perm => ?_, fun swept found doors stamp => ?_,
        fun swept found collide => same.mp ⟨swept, found, collide.1⟩⟩
      · obtain ⟨swept, found, own⟩ := recorded last compiled perm
        exact ⟨swept, found, own.imp_left (congrArg DoorStateSnapshot.snapshotAt)⟩
      · obtain ⟨swept, found, own⟩ := recorded last compiled perm
        exact ⟨swept, found, own.imp_left (congrArg DoorStateSnapshot.doors)⟩
      · exact same.mp ⟨swept, found, congrArg hash (snapshot_ext stamp doors)⟩
    · intro stamped
      constructor
      · rintro ⟨swept, found, equal⟩
        by_cases own : swept = reading.compileStateFor device
        · exact stamped.back swept found (congrArg (·.doors) own) (congrArg (·.snapshotAt) own)
        · exact stamped.apart swept found ⟨equal, own⟩
      · rintro ⟨last, compiled, perm⟩
        obtain ⟨swept, found, stamp⟩ := stamped.clock last compiled perm
        obtain ⟨other, found', doors⟩ := stamped.order last compiled perm
        obtain rfl := Option.some.inj (found.symm.trans found')
        refine ⟨swept, found, ?_⟩
        rcases stamp with stamp | collide
        · rcases doors with doors | collide
          · rw [snapshot_ext stamp doors]
          · exact collide.1
        · exact collide.1

end Steps

/-- In every run, each sweep pushes exactly the doors that have changed since they were last pushed, exactly when
at each sweep the clock reads what it read when the same doors were compiled last, in the same order, or else
hashes collide. -/
theorem pushes_changed_iff {events : List (DoorEvent Uuid Json)} :
    EveryStep (PushesChanged hash) events ↔ EveryStep (fun past => OfEach (Stamped hash past)) events := by
  have both : (EveryStep (PushesChanged hash) events ↔ EveryStep (fun past => OfEach (Stamped hash past)) events) ∧
      (EveryStep (PushesChanged hash) events → Told hash events) := by
    induction events using List.reverseRecOn with
    | nil => exact ⟨⟨fun _ => .nil, fun _ => .nil⟩, fun _ device snapshot => ⟨nofun, nofun⟩⟩
    | append_singleton past event ih =>
      obtain ⟨same, told⟩ := ih
      refine ⟨?_, fun every => ?_⟩
      · rw [EveryStep.snoc_iff, EveryStep.snoc_iff, ← same]
        exact and_congr_right fun every => pushesChanged_iff (told every)
      · obtain ⟨every, last⟩ := EveryStep.snoc_iff.mp every
        exact told_step (told every) last
  exact both.1

section
def frontDoor : HexId := .repeating 1

def doorEdge : HexId := .repeating 2

/-- One door of one device, without rules and without a strike binding. -/
def oneDoor : DoorTables HexId Unit where
  users := []
  cards := []
  tools := []
  bindings := []
  schedules := []
  graph := .fromRows [] []
  assignments := []
  doorRules := fun _ => []
  lockedOut := fun _ => false
  trainingSteps := fun _ => false
  activeWaiver := fun _ _ => false
  completedSteps := fun _ _ => false
  doors := [⟨frontDoor, "Front", true⟩]
  deviceBindings := [⟨doorEdge, frontDoor, "edge", 0, true, 0⟩]

/-- The wall clock of UTC, where nothing is scheduled. -/
def utcZone : SiteZone Unit where
  tz := ⟨id, some, fun naive t same =>
    ⟨(Option.some.inj same).symm, fun u reads => by cases same; exact reads.ge⟩, nofun⟩
  single := some
  parseIntervals := fun _ => none

def oneDoorAt (now : Int) : DoorReading HexId Unit := ⟨oneDoor, utcZone, "cards", none, 3000, fun _ => now⟩

/-- A sweep of all devices at one instant, in which every push gets through. -/
def sweepAt (now : Int) : DoorEvent HexId Unit :=
  .republishChanged (some oneDoor) fun _ => ⟨some (oneDoorAt now), true⟩

/-- As good as any other hash where snapshots differ in their stamps alone. -/
def stampHash (snapshot : DoorStateSnapshot HexId) : UInt64 := .ofInt snapshot.snapshotAt

theorem ofEach_sweepAt {law : HexId → DoorStateSnapshot HexId → Prop} (now : Int) :
    OfEach law (sweepAt now) ↔ law doorEdge ((oneDoorAt now).compileStateFor doorEdge) := by
  have devices : oneDoor.listDoorDeviceIds = [doorEdge] := by decide +kernel
  constructor
  · intro each
    exact each doorEdge (devices ▸ List.mem_singleton_self _) (oneDoorAt now) rfl
  · intro holds device listed reading read
    rw [devices] at listed
    obtain rfl := List.mem_singleton.mp listed
    obtain rfl := Option.some.inj read
    exact holds

/-- Swept twice at one instant, the door is pushed once. -/
theorem one_instant_pushes_once :
    ((machine stampHash).step ((machine stampHash).run [sweepAt 0]) (sweepAt 0)).2 = [] ∧
      EveryStep (PushesChanged stampHash) [sweepAt 0, sweepAt 0] := by
  have once : lastCompiled [sweepAt 0] doorEdge = some ((oneDoorAt 0).compileStateFor doorEdge) := by decide +kernel
  have swept : lastSwept [sweepAt 0] doorEdge = some ((oneDoorAt 0).compileStateFor doorEdge) := by decide +kernel
  have stamped : EveryStep (fun past => OfEach (Stamped stampHash past)) ([] ++ [sweepAt 0] ++ [sweepAt 0]) := by
    refine EveryStep.snoc_iff.mpr
      ⟨EveryStep.snoc_iff.mpr ⟨.nil, (ofEach_sweepAt 0).mpr ⟨nofun, nofun, nofun, nofun⟩⟩, ?_⟩
    refine (ofEach_sweepAt 0).mpr ⟨fun _ _ _ => ⟨_, swept, .inl rfl⟩, fun _ _ _ => ⟨_, swept, .inl rfl⟩,
      fun _ _ _ _ => ⟨_, once, .refl _⟩, fun _ _ _ => ⟨_, once, .refl _⟩⟩
  exact ⟨by decide +kernel, (pushes_changed_iff stampHash).mpr stamped⟩

theorem second_sweep_pushes :
    ((machine stampHash).step ((machine stampHash).run [sweepAt 0]) (sweepAt MINUTE)).2 =
      [(doorEdge, (oneDoorAt MINUTE).compileStateFor doorEdge)] := by
  decide +kernel

theorem second_sweep_unchanged :
    ((machine stampHash).run [sweepAt 0]).pushed doorEdge = some ((oneDoorAt 0).compileStateFor doorEdge) ∧
      ((oneDoorAt 0).compileStateFor doorEdge).doors = ((oneDoorAt MINUTE).compileStateFor doorEdge).doors := by
  decide +kernel

/-- Two sweeps a minute apart, and nothing changes between them: the second pushes the same doors again. -/
theorem unchanged_doors_pushed_again : ¬ EveryStep (PushesChanged stampHash) [sweepAt 0, sweepAt MINUTE] := by
  intro every
  have listed : doorEdge ∈ oneDoor.listDoorDeviceIds := by decide +kernel
  have second := every [sweepAt 0] (sweepAt MINUTE) [] rfl doorEdge listed (oneDoorAt MINUTE) rfl
  refine second.mp ?_ ⟨_, second_sweep_unchanged.1, second_sweep_unchanged.2 ▸ .refl _⟩
  rw [second_sweep_pushes]
  exact List.mem_singleton_self _

end

end DoorService

end CoopSpaces
