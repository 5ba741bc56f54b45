import CoopSpaces.Server.WorkshopService

namespace CoopSpaces

namespace DoorEventIn
variable {Uuid : Type} [IdText Uuid]

/-- What a door event's signature is over. -/
def signedMessage (event : DoorEventIn Uuid) : String :=
  doorsEventMessage (IdText.toText event.doorId) (event.cardId.getD "") event.granted (event.source.getD "")

omit [IdText Uuid] in
/-- The fields the signature covers; an absent text reads as the empty one. -/
def covered (event : DoorEventIn Uuid) : Uuid × String × Bool × String :=
  (event.doorId, event.cardId.getD "", event.granted, event.source.getD "")

/-- The card of the one event and the source of the other both hold the mark that parts the fields. -/
def Straddles (event other : DoorEventIn Uuid) : Prop :=
  '|' ∈ (event.cardId.getD "").toList ∧ '|' ∈ (other.source.getD "").toList

theorem bar_notMem_flag (granted : Bool) : '|' ∉ (toString granted).toList := by
  cases granted with
  | false => decide
  | true => decide

theorem flag_injective {a b : Bool} (same : toString a = toString b) : a = b := by
  cases a <;> cases b
  · rfl
  · exact absurd same (by decide)
  · exact absurd same (by decide)
  · rfl

theorem toList_signedMessage (event : DoorEventIn Uuid) : event.signedMessage.toList = "doors/event".toList ++ '|' ::
    ((IdText.toText event.doorId).toList ++ '|' :: ((event.cardId.getD "").toList ++ '|' ::
      ((toString event.granted).toList ++ '|' :: (event.source.getD "").toList))) := by
  have first : "doors/event|" = "doors/event" ++ "|" := by decide +kernel
  have mark : "|".toList = ['|'] := by decide +kernel
  unfold signedMessage doorsEventMessage
  rw [first]
  simp only [String.toList_append, mark, List.append_assoc, List.cons_append, List.nil_append]

/-- Three texts joined at a mark that the middle one does not hold: the joins tell them apart, unless the first of
the one and the last of the other both hold it. -/
theorem join3_inj {bar : Char} {a b c a' b' c' : List Char} (free : bar ∉ b) (free' : bar ∉ b')
    (same : a ++ bar :: (b ++ bar :: c) = a' ++ bar :: (b' ++ bar :: c')) (apart : ¬ (bar ∈ a ∧ bar ∈ c'))
    (apart' : ¬ (bar ∈ a' ∧ bar ∈ c)) : a = a' ∧ b = b' ∧ c = c' := by
  have fronts : bar ∉ a → bar ∉ a' → a = a' ∧ b = b' ∧ c = c' := by
    intro clear clear'
    obtain ⟨rfl, rest⟩ := join_inj_of_fronts clear clear' same
    exact ⟨rfl, join_inj_of_fronts free free' rest⟩
  have backs : bar ∉ c → bar ∉ c' → a = a' ∧ b = b' ∧ c = c' := by
    intro clear clear'
    rw [← List.cons_append, ← List.append_assoc, ← List.cons_append, ← List.append_assoc] at same
    obtain ⟨front, rfl⟩ := join_inj_of_backs clear clear' same
    obtain ⟨rfl, rfl⟩ := join_inj_of_backs free free' front
    exact ⟨rfl, rfl, rfl⟩
  have counts := congrArg (List.count bar) same
  simp only [List.count_append, List.count_cons_self, List.count_eq_zero_of_not_mem free,
    List.count_eq_zero_of_not_mem free'] at counts
  -- Counting the marks leaves only the two cases.
  by_cases inA : bar ∈ a
  · have clear' : bar ∉ c' := fun inC' => apart ⟨inA, inC'⟩
    have some_ := List.count_pos_iff.mpr inA
    rw [List.count_eq_zero_of_not_mem clear'] at counts
    by_cases inC : bar ∈ c
    · have clear : bar ∉ a' := fun inA' => apart' ⟨inA', inC⟩
      rw [List.count_eq_zero_of_not_mem clear] at counts
      omega
    · exact backs inC clear'
  · by_cases inA' : bar ∈ a'
    · have clear : bar ∉ c := fun inC => apart' ⟨inA', inC⟩
      have some_ := List.count_pos_iff.mpr inA'
      rw [List.count_eq_zero_of_not_mem inA, List.count_eq_zero_of_not_mem clear] at counts
      by_cases inC' : bar ∈ c'
      · omega
      · exact backs clear inC'
    · exact fronts inA inA'

theorem covered_eq_of_signedMessage (plain : ∀ id : Uuid, '|' ∉ (IdText.toText id).toList)
    {event other : DoorEventIn Uuid}
    (apart : ¬ event.Straddles other) (apart' : ¬ other.Straddles event)
    (same : event.signedMessage = other.signedMessage) :
    event.covered = other.covered := by
  have texts := congrArg String.toList same
  rw [toList_signedMessage, toList_signedMessage] at texts
  obtain ⟨-, rest⟩ := join_inj_of_fronts (by decide) (by decide) texts
  obtain ⟨door, rest⟩ := join_inj_of_fronts (plain event.doorId) (plain other.doorId) rest
  obtain ⟨card, flag, source⟩ :=
    join3_inj (bar_notMem_flag event.granted) (bar_notMem_flag other.granted) rest apart apart'
  have sameDoor : event.doorId = other.doorId := IdText.toText_inj.mp (String.toList_inj.mp door)
  have sameFlag : event.granted = other.granted := flag_injective (String.toList_inj.mp flag)
  simp only [covered, sameDoor, sameFlag, String.toList_inj.mp card, String.toList_inj.mp source]

end DoorEventIn

namespace WorkshopRoutine
variable {Uuid Json : Type} [LinearOrder Uuid] [IdText Uuid] {rules : WorkshopRules Json}
    {w : Workshop Uuid Json} {device : Uuid}

omit [LinearOrder Uuid] in
theorem doorsEventSigned_iff {key : List UInt8} (encrypted : rules.sync.cipher.isSome = true)
    (keyed : w.commandKeys device = some key)
    (event : DoorEventIn Uuid) : doorsEventSigned rules w device event = true ↔
      event.sig = some (rules.sign key event.signedMessage) := by
  have same : doorsEventSigned rules w device event =
      event.sig.any fun sig => constantTimeStrEq (rules.sign key event.signedMessage) sig := by
    unfold doorsEventSigned
    rw [encrypted, keyed]
    rfl
  rw [same, Option.any_eq_true]
  constructor
  · rintro ⟨sig, has, equal⟩
    rw [has, constantTimeStrEq_iff.mp equal]
  · intro has
    exact ⟨_, has, constantTimeStrEq_iff.mpr rfl⟩

theorem handleDoorsEvent_of_emptyCard (event : DoorEventIn Uuid) :
    handleDoorsEvent rules device { event with cardId := some "" } = handleDoorsEvent rules device
      { event with cardId := none } := rfl

theorem handleDoorsEvent_of_emptySource (event : DoorEventIn Uuid) :
    handleDoorsEvent rules device { event with source := some "" } = handleDoorsEvent rules device
      { event with source := none } := rfl

end WorkshopRoutine

/-- Door events that differ in the door, the card, the verdict or the source have different messages, where no
card of one and source of the other hold the separator; a signature over the one then passes for the other only
where the keyed hash itself collides. An absent text is signed, and handled, as the empty one. -/
theorem door_events_sign_apart {Uuid Json : Type} [LinearOrder Uuid] [IdText Uuid]
    (plain : ∀ id : Uuid, '|' ∉ (IdText.toText id).toList)
    (rules : WorkshopRules Json) (device : Uuid) (event other : DoorEventIn Uuid) :
    (¬ event.Straddles other → ¬ other.Straddles event → event.covered ≠ other.covered →
      event.signedMessage ≠ other.signedMessage ∧
      ∀ (w : Workshop Uuid Json) (key : List UInt8), rules.sync.cipher.isSome = true →
        w.commandKeys device = some key → WorkshopRoutine.doorsEventSigned rules w device
          { other with sig := some (rules.sign key event.signedMessage) } = true →
        rules.sign key event.signedMessage = rules.sign key other.signedMessage) ∧
    WorkshopRoutine.handleDoorsEvent rules device { event with cardId := some "" } =
      WorkshopRoutine.handleDoorsEvent rules device { event with cardId := none } ∧
    WorkshopRoutine.handleDoorsEvent rules device { event with source := some "" } =
      WorkshopRoutine.handleDoorsEvent rules device { event with source := none } := by
  refine ⟨fun apart apart' differ => ⟨?_, ?_⟩, WorkshopRoutine.handleDoorsEvent_of_emptyCard event,
    WorkshopRoutine.handleDoorsEvent_of_emptySource event⟩
  · exact fun same => differ (DoorEventIn.covered_eq_of_signedMessage plain apart apart' same)
  · intro w key encrypted keyed passes
    have right := (WorkshopRoutine.doorsEventSigned_iff encrypted keyed _).mp passes
    exact Option.some.inj right

/-- Of two badges at a room, one let in and the other not. -/
theorem door_events_sign_apart_room :
    let entered : DoorEventIn Nat := ⟨6, some "A", true, none, some "rfid", some 0, none⟩
    let refused : DoorEventIn Nat := ⟨6, some "A", false, none, some "rfid", some 0, none⟩
    entered.signedMessage ≠ refused.signedMessage := by
  intro entered refused
  have plain : ∀ id : Nat, '|' ∉ (IdText.toText id).toList := by
    intro id member
    have strokes : '|' ∈ List.replicate id 'x' := by
      rwa [IdText.toText, instIdTextNat, String.toList_ofList] at member
    exact absurd (List.eq_of_mem_replicate strokes) (by decide)
  have apart : ¬ entered.Straddles refused := fun both => absurd both.1 (by decide)
  have apart' : ¬ refused.Straddles entered := fun both => absurd both.1 (by decide)
  exact ((door_events_sign_apart plain shopRules 9 entered refused).1 apart apart' (by decide)).1

/-- The time is not signed; and a mark in a card can stand for one between the fields. -/
theorem moved_event_signs_alike :
    (¬ ∀ event other : DoorEventIn Nat, event ≠ other → event.signedMessage ≠ other.signedMessage) ∧
    (let entered : DoorEventIn Nat := ⟨6, some "A", true, none, some "B|false|C", some 0, none⟩
     let refused : DoorEventIn Nat := ⟨6, some "A|true|B", false, none, some "C", some 0, none⟩
     entered.signedMessage = refused.signedMessage) := by
  constructor
  · intro differ
    exact differ ⟨6, some "A", true, none, some "rfid", some 0, none⟩
      ⟨6, some "A", true, none, some "rfid", some 1, none⟩ (by decide) rfl
  · decide

end CoopSpaces
