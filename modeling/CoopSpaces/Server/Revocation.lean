import CoopSpaces.Server.DoorAgreement
import CoopSpaces.Server.Sync

namespace CoopSpaces

namespace Database
variable {Uuid Json : Type} [DecidableEq Uuid] [IdText Uuid]

def storedCodes (db : Database Uuid Json) (field : String) : List String :=
  db.cards.map (·.code) ++ db.users.flatMap fun u => cardsInProfile u.profile field

def doorLevels (db : Database Uuid Json) : Table Uuid Int :=
  effectiveLevelsFor db.graph db.assignments (db.activeUsers.map (·.id))

/-- A door's allow list holds a digest exactly while a rule in force is a card
rule of it, or reaches an active member it identifies. -/
theorem mem_doorLists {db : Database Uuid Json} {site : SiteTime Json} {now : Int} {door : Uuid} {field : String}
    {cipher : Option CardCipher} {digest : List UInt8} :
    hexEncode digest ∈ (db.doorLists site now door field cipher).1 ↔
      ∃ rule ∈ db.doorRules door, rule.inForce site db.schedules now = some .allow ∧
        ((DoorRuleKind.parse rule.kind = some .card ∧ rule.value = hexEncode digest) ∨
          ∃ user ∈ db.users, user.isActive = true ∧ Identifies db.cards field cipher digest user ∧
            rule.Reaches db.graph db.doorLevels user.id) := by
  rw [doorLists, (mem_expandRulesAt site).1]
  refine exists_congr fun rule => and_congr_right fun _ => and_congr_right fun _ => ?_
  rw [AccessRule.mem_tokens]
  refine or_congr_right ?_
  constructor
  · rintro ⟨id, held, holds, shown, reaches⟩
    obtain ⟨user, listed, rfl, identifies⟩ := mem_cardDigestsByUser.mp ⟨held, holds, shown⟩
    obtain ⟨member, active⟩ := List.mem_filter.mp listed
    exact ⟨user, member, active, identifies, reaches⟩
  · rintro ⟨user, member, active, identifies, reaches⟩
    have listed : user ∈ db.activeUsers := List.mem_filter.mpr ⟨member, active⟩
    obtain ⟨held, holds, shown⟩ := mem_cardDigestsByUser.mpr ⟨user, listed, rfl, identifies⟩
    exact ⟨user.id, held, holds, shown, reaches⟩

/-- A code that resolves as revoked stays out of every payload and every door's
allow list exactly while no member who may use a bound tool or is reached by a
rule still carries it in their profile, where it has no status, and no card rule
in force names it. -/
theorem revoked_card_authorizes_nothing_iff (db : Database Uuid Json) (site : SiteTime Json) (field : String)
    (gate : Option (MeteredGate Uuid)) {cipher : CardCipher} (rows : Sealed cipher db.cards) {code : String}
    {digest : List UInt8} (made : cipher.wireDigest code = some digest)
    (distinct : ∀ stored ∈ db.storedCodes field, cipher.wireDigest stored = some digest → stored = code)
    {owner : User Uuid} {card : UserCard Uuid}
    (revoked : resolveCard db.users db.cards field code (some cipher) = some (.revoked owner card)) :
    ((∀ now device, ∀ u ∈ (db.getToolguardSyncData site now device field gate (some cipher)).users,
        u.profileFieldDigest ≠ hexEncode digest) ∧
      ∀ now door, hexEncode digest ∉ (db.doorLists site now door field (some cipher)).1) ↔
    (∀ user ∈ db.users, code ∈ cardsInProfile user.profile field →
      (∀ now device, db.authorizedToolIds site now device gate user.id = []) ∧
      (user.isActive = true → ∀ now door, ∀ rule ∈ db.doorRules door,
        rule.inForce site db.schedules now = some .allow → ¬ rule.Reaches db.graph db.doorLevels user.id)) ∧
    ∀ now door, ∀ rule ∈ db.doorRules door, rule.inForce site db.schedules now = some .allow →
      DoorRuleKind.parse rule.kind = some .card → rule.value ≠ hexEncode digest := by
  have carries : ∀ user ∈ db.users, (Identifies db.cards field (some cipher) digest user ↔
      code ∈ cardsInProfile user.profile field) := by
    intro user member
    refine rows.identifies_iff made ?_ revoked ?_
    · exact fun row listed => distinct _ (List.mem_append_left _ (List.mem_map_of_mem listed))
    · exact fun value carried => distinct _ (List.mem_append_right _ (List.mem_flatMap.mpr ⟨user, member, carried⟩))
  have synced : ∀ now device, (∀ u ∈ (db.getToolguardSyncData site now device field gate (some cipher)).users,
      u.profileFieldDigest ≠ hexEncode digest) ↔
        ∀ user ∈ db.users, code ∈ cardsInProfile user.profile field →
          db.authorizedToolIds site now device gate user.id = [] := by
    intro now device
    have found : (∃ u ∈ (db.getToolguardSyncData site now device field gate (some cipher)).users,
        u.profileFieldDigest = hexEncode digest) ↔
          ∃ user ∈ db.users, Identifies db.cards field (some cipher) digest user ∧
            db.authorizedToolIds site now device gate user.id ≠ [] :=
      db.mem_syncData_users site
    constructor
    · intro absent user member carried
      by_contra some_
      obtain ⟨u, listed, same⟩ := found.mpr ⟨user, member, (carries user member).mpr carried, some_⟩
      exact absent u listed same
    · intro idle u listed same
      obtain ⟨user, member, identifies, some_⟩ := found.mp ⟨u, listed, same⟩
      exact some_ (idle user member ((carries user member).mp identifies))
  simp only [synced, mem_doorLists]
  constructor
  · rintro ⟨idle, closed⟩
    refine ⟨fun user member carried => ⟨fun now device => idle now device user member carried, ?_⟩, ?_⟩
    · intro active now door rule listed inForce reaches
      exact closed now door ⟨rule, listed, inForce,
        .inr ⟨user, member, active, (carries user member).mpr carried, reaches⟩⟩
    · exact fun now door rule listed inForce kind same => closed now door ⟨rule, listed, inForce, .inl ⟨kind, same⟩⟩
  · rintro ⟨members, cards⟩
    refine ⟨fun now device user member carried => (members user member carried).1 now device, ?_⟩
    rintro now door ⟨rule, listed, inForce, ⟨kind, same⟩ | ⟨user, member, active, identifies, reaches⟩⟩
    · exact cards now door rule listed inForce kind same
    · exact (members user member ((carries user member).mp identifies)).2 active now door rule listed inForce reaches

end Database

def paddedCipher : CardCipher where
  wireDigest code := some ((code.toByteArray.data.toList ++ List.replicate 32 0).take 32)
  length_wireDigest code bytes made := by
    obtain rfl := Option.some.inj made
    simp
  blindIndex code := code.toByteArray.data.toList

def press : HexId := ⟨List.replicate 32 ⟨1, by decide⟩, by decide⟩

def controller : HexId := ⟨List.replicate 32 ⟨2, by decide⟩, by decide⟩

/-- A tool open to all, and a member whose card was disabled. -/
def lostCard (profile : Table String ProfileValue) : Database HexId Unit where
  users := [⟨signedUp, "Member", true, profile⟩]
  cards := [⟨signedUp, "A1", some (paddedCipher.blindIndex "A1"), paddedCipher.wireDigest "A1", .disabled, 0⟩]
  tools := [⟨press, none, "Press", .idle, false, none⟩]
  bindings := [(controller, press)]
  schedules := []
  graph := noRoles
  assignments := []
  doorRules _ := []
  lockedOut _ := false
  trainingSteps _ := false
  activeWaiver _ _ := false
  completedSteps _ _ := false

def lostDigest : List UInt8 := 65 :: 49 :: List.replicate 30 0

/-- While the code is still in the member's profile, its digest still reaches the device. -/
theorem revoked_card_still_synced :
    let db := lostCard fun field => if field = "rfid" then some (.string "A1") else none
    (∃ owner card, resolveCard db.users db.cards "rfid" "A1" (some paddedCipher) = some (.revoked owner card)) ∧
      ∃ u ∈ (db.getToolguardSyncData noZone 0 controller "rfid" none (some paddedCipher)).users,
        u.profileFieldDigest = hexEncode lostDigest ∧ u.authorizedToolIds = [press] := by
  refine ⟨⟨_, _, rfl⟩, ?_⟩
  decide

theorem revoked_card_authorizes_nothing_iff_cleared :
    (∀ now device, ∀ u ∈ ((lostCard fun _ => none).getToolguardSyncData noZone now device "rfid" none
        (some paddedCipher)).users, u.profileFieldDigest ≠ hexEncode lostDigest) ∧
      ∀ now door, hexEncode lostDigest ∉
        ((lostCard fun _ => none).doorLists noZone now door "rfid" (some paddedCipher)).1 := by
  have rows : Sealed paddedCipher (lostCard fun _ => none).cards := by
    refine ⟨?_, ?_, ?_⟩
    · intro card row
      obtain rfl := List.mem_singleton.mp row
      rfl
    · intro card row digest stored
      obtain rfl := List.mem_singleton.mp row
      exact stored
    · intro card row other otherRow _ _ _
      exact (List.mem_singleton.mp row).trans (List.mem_singleton.mp otherRow).symm
  have made : paddedCipher.wireDigest "A1" = some lostDigest := by decide
  refine (Database.revoked_card_authorizes_nothing_iff
    (lostCard fun _ => none) noZone "rfid" none rows made ?_ rfl).mpr ?_
  · intro stored listed _
    exact List.mem_singleton.mp listed
  · refine ⟨?_, fun now door rule listed => by cases listed⟩
    intro user member carried
    obtain rfl := List.mem_singleton.mp member
    cases carried

end CoopSpaces
