import CoopSpaces.Server.Rooms

namespace CoopSpaces

section Ends
variable {Uuid : Type} [DecidableEq Uuid] [IdText Uuid]

theorem listed_room_ends {s : ModuleState} {t : RoomTables Uuid} {door : Uuid} {requestedAt : Option Int} {now : Int}
    (listed : t.ListsRoom door) (idle : t.inUse door = false)
    (used : (s.applyStateAt t.moduleStateSnapshot requestedAt now).inUse (IdText.toText door) now = true) :
    (s.applyStateAt t.moduleStateSnapshot requestedAt now).HoldsLocal (IdText.toText door) now := by
  rcases ModuleState.inUse_iff.mp used with synced | ⟨session, held, live⟩
  · rcases applied_syncedInUse.mp synced with ⟨⟨-, busy⟩, -⟩ | ⟨-, silent⟩
    · simp [idle] at busy
    · exact absurd listed silent
  · obtain ⟨-, -, silent | ⟨⟨-, busy⟩, -⟩ | young⟩ := applied_localSessions.mp held
    · exact absurd listed silent
    · simp [idle] at busy
    · exact ⟨session, held, live, .inl young⟩

/-- What decides, before a snapshot is applied, that a room over at the server
ends at the edge: the snapshot still lists it as a room, or the edge has a fresh
session of its own, or it has neither a claim nor a session without an end. -/
def Endable (s : ModuleState) (t : RoomTables Uuid) (door : Uuid) (now : Int) : Prop :=
  t.ListsRoom door ∨ s.HoldsLocal (IdText.toText door) now ∨
    (IdText.toText door ∉ s.syncedInUse ∧
      ∀ session, s.localSessions (IdText.toText door) = some session → session.endsAt ≠ none)

theorem unlisted_room_kept (s : ModuleState) {t : RoomTables Uuid} {door : Uuid} (requestedAt : Option Int)
    (now : Int)
    (silent : ¬ t.ListsRoom door) :
    ((s.applyStateAt t.moduleStateSnapshot requestedAt now).inUse (IdText.toText door) now = true ↔
        s.inUse (IdText.toText door) now = true) ∧
      ((s.applyStateAt t.moduleStateSnapshot requestedAt now).HoldsLocal (IdText.toText door) now ↔
        s.HoldsLocal (IdText.toText door) now) := by
  have sessions : ∀ session,
      (s.applyStateAt t.moduleStateSnapshot requestedAt now).localSessions (IdText.toText door) = some session ↔
        s.localSessions (IdText.toText door) = some session ∧ ¬ session.RunOut now := by
    intro session
    rw [applied_localSessions]
    simp only [silent, not_false_eq_true, true_or, and_true]
  have grace : (s.applyStateAt t.moduleStateSnapshot requestedAt now).localSessionGrace = s.localSessionGrace := rfl
  constructor
  · rw [ModuleState.inUse_iff, ModuleState.inUse_iff, applied_syncedInUse]
    simp only [sessions, silent, false_and, not_false_eq_true, and_true, false_or, and_assoc, and_self]
  · simp only [ModuleState.HoldsLocal, sessions, grace, and_assoc]
    refine exists_congr fun session => and_congr_right fun _ => ?_
    exact ⟨fun held => held.2, fun held => ⟨held.1, held⟩⟩

/-- At every snapshot an edge applies, in every history of the server and the
edge, a door over when it was built is in use at the edge only through a fresh
session of the edge's own, exactly where the edge was endable: the reconcile
touches no claim of a door the snapshot does not list as a room. -/
theorem room_end_reaches_lease_iff (past : List (FloorStep Uuid)) {sent : RoomTables Uuid}
    {rest : List (RoomTables Uuid)}
    (queued : (floor.run past).inFlight = sent :: rest) (door : Uuid) (requestedAt : Option Int) (now : Int) :
    let before := (floor.run past).edge
    let after := (floor.run (past ++ [.apply requestedAt now])).edge
    (sent.Over door → after.inUse (IdText.toText door) now = true → after.HoldsLocal (IdText.toText door) now) ↔
      (sent.Over door → Endable before sent door now) := by
  intro before after
  have applied : after = before.applyStateAt sent.moduleStateSnapshot requestedAt now := by
    have step : floor.run (past ++ [.apply requestedAt now]) = (floor.run past).step (.apply requestedAt now) :=
      floor.run_snoc past _
    simp only [after, before, step, Floor.step, queued]
  rw [applied]
  refine forall_congr' fun ended => ?_
  by_cases listed : sent.ListsRoom door
  · have idle : sent.inUse door = false := by
      rcases ended with idle | ⟨-, momentary⟩ | unlisted
      · exact idle
      · rw [listed.profile] at momentary
        exact absurd momentary (by decide)
      · exact absurd listed.wired unlisted
    exact ⟨fun _ => .inl listed, fun _ => listed_room_ends listed idle⟩
  · obtain ⟨used, holds⟩ := unlisted_room_kept before requestedAt now listed
    rw [used, holds, ModuleState.inUse_iff]
    simp only [Endable, listed, false_or]
    constructor
    · intro ends
      by_cases fresh : before.HoldsLocal (IdText.toText door) now
      · exact .inl fresh
      · refine .inr ⟨fun claimed => fresh (ends (.inl claimed)), ?_⟩
        intro session held open_
        have live : ¬ session.RunOut now := by
          rintro ⟨end_, ended, -⟩
          rw [open_] at ended
          cases ended
        exact fresh (ends (.inr ⟨session, held, live⟩))
    · rintro (fresh | ⟨unclaimed, ended⟩) used
      · exact fresh
      · rcases used with claimed | ⟨session, held, live⟩
        · exact absurd claimed unclaimed
        · exact ⟨session, held, live, .inr (ended session held)⟩

end Ends

def studio : HexId := ⟨List.replicate 32 ⟨5, by decide⟩, by decide⟩

def plug : DeviceBinding :=
  { id := "plug", deviceId := "plug", role := "power", name := "lights", onDisconnect := "fail_off" }

/-- A room in use when the edge last heard of it is made a momentary door, and
its session is ended. -/
def madeMomentary : List (FloorStep HexId) :=
  [.server (.addResource studio "door" "until_stopped" none), .server (.bind ⟨studio, plug⟩),
    .server (.openSession studio), .build, .apply none 0, .server (.setProfile studio "momentary"),
    .server (.closeSession studio), .build]

theorem momentary_room_stays_in_use :
    ∃ sent rest, (floor.run madeMomentary).inFlight = sent :: rest ∧ sent.Over studio ∧
      let after := (floor.run (madeMomentary ++ [.apply none (seconds 3600)])).edge
      after.inUse (IdText.toText studio) (seconds 3600) = true ∧
        ¬ after.HoldsLocal (IdText.toText studio) (seconds 3600) := by
  refine ⟨_, _, rfl, .inl rfl, by decide, ?_⟩
  rintro ⟨session, held, -⟩
  have none_ : (floor.run (madeMomentary ++ [.apply none (seconds 3600)])).edge.localSessions (IdText.toText studio) =
      none := by
    decide
  rw [none_] at held
  cases held

/-- The same room, ended while it is still a room. -/
def endedAsRoom : List (FloorStep HexId) :=
  [.server (.addResource studio "door" "until_stopped" none), .server (.bind ⟨studio, plug⟩),
    .server (.openSession studio), .build, .apply none 0, .server (.closeSession studio), .build]

theorem room_end_reaches_lease_iff_ended :
    let after := (floor.run (endedAsRoom ++ [.apply none (seconds 3600)])).edge
    after.inUse (IdText.toText studio) (seconds 3600) = true →
      after.HoldsLocal (IdText.toText studio) (seconds 3600) := by
  refine (room_end_reaches_lease_iff endedAsRoom rfl studio none (seconds 3600)).mpr ?_ (.inl rfl)
  exact fun _ => .inl ⟨by decide, by decide, by decide⟩

end CoopSpaces
