import CoopSpaces.Edge.Deliveries
import Mathlib.Data.List.Pairwise

namespace CoopSpaces

/-- An answer but for the length of its pulse. -/
def ScanDecision.sansPulse : ScanDecision → ScanDecision
  | .allow _ => .allow none
  | other => other

/-- What of an entry a decision reads, the pulse aside. -/
def Entry.judged {Uuid : Type} (e : Entry Uuid) : Entry Uuid := { e with sessionProfile := "", pulseMs := none }

section
variable {Uuid Amps : Type} [DecidableEq Uuid]

theorem decideMember_sansPulse (members : List (Member Uuid)) (entry : Option (Entry Uuid)) (token : String)
    (strike : Option Int) :
    (ResourceCache.decideMember members entry token strike).sansPulse =
      ResourceCache.decideMember members (entry.map Entry.judged) token none := by
  unfold ResourceCache.decideMember
  rcases known : members.find? (fun m => constantTimeStrEq m.digest token) with _ | member
  · simp only [known, ScanDecision.sansPulse]
  · simp only [known]
    cases active : member.isActive with
    | false => rfl
    | true =>
      rcases entry with _ | e
      · rfl
      · by_cases authorized : e.id ∈ member.authorized
        · have mine : (some e).filter (fun f => decide (f.id ∈ member.authorized)) = some e :=
            Option.filter_some_pos (decide_eq_true authorized)
          have mineToo : (some e.judged).filter (fun f => decide (f.id ∈ member.authorized)) = some e.judged :=
            Option.filter_some_pos (decide_eq_true authorized)
          have status : e.judged.status = e.status := rfl
          simp only [Option.map_some, mine, mineToo, status]
          by_cases unavailable : e.status ≠ "" ∧ e.status ≠ "idle"
          · simp only [if_pos unavailable]
            rfl
          · simp only [if_neg unavailable]
            rfl
        · have others : (some e).filter (fun f => decide (f.id ∈ member.authorized)) = none :=
            Option.filter_some_neg (decide_eq_false authorized)
          have othersToo : (some e.judged).filter (fun f => decide (f.id ∈ member.authorized)) = none :=
            Option.filter_some_neg (decide_eq_false authorized)
          simp only [Option.map_some, others, othersToo]
          rfl

variable [IdText Uuid]

/-- Two caches that agree on the lockouts, the digester, the principals and, the pulse
aside, on the entry a name finds, answer alike at every card and every instant. -/
theorem decide_sansPulse {c c' : ResourceCache Uuid Amps} (power : c'.power = c.power)
    (digester : c'.allowList.cardDigester = c.allowList.cardDigester) (members : c'.policy.members = c.policy.members)
    {name : String} (found : (c'.policy.find name).map Entry.judged = (c.policy.find name).map Entry.judged)
    (card : String) (now : Int) : (c'.decide name card now).sansPulse = (c.decide name card now).sansPulse := by
  have digest : c'.allowList.wireDigestHex card = c.allowList.wireDigestHex card := by
    unfold ToolGuardState.wireDigestHex
    rw [digester]
  unfold ResourceCache.decide
  rw [power, digest, members]
  split
  · rfl
  · rcases here : c.policy.find name with _ | e <;> rcases there : c'.policy.find name with _ | f
    · simp only [decideMember_sansPulse]
    · rw [here, there] at found
      cases found
    · rw [here, there] at found
      cases found
    · rw [here, there] at found
      have same : f.judged = e.judged := Option.some.inj found
      have field : ∀ {β : Type} (read : Entry Uuid → β), read f.judged = read e.judged :=
        fun read => congrArg read same
      have enabled : f.enabled = e.enabled := field (·.enabled)
      have deny : f.deny = e.deny := field (·.deny)
      have hold : f.holdUntil = e.holdUntil := field (·.holdUntil)
      have allow : f.allow = e.allow := field (·.allow)
      have online : f.requiresOnline = e.requiresOnline := field (·.requiresOnline)
      simp only [enabled, deny, hold, allow, online]
      split
      · rfl
      · split
        · rfl
        · split
          · rfl
          · split
            · rfl
            · split
              · rfl
              · rw [decideMember_sansPulse, decideMember_sansPulse, Option.map_some, Option.map_some, same]

end

/-- A resource the server serves one device: a tool of its allow-list, with the kind's word
and the profile of its row and the pulse of its strike, or a compiled door with its profile. -/
inductive Served (Uuid : Type)
  | tool (t : SyncTool Uuid) (kind : String) (ofTool : kind ≠ "door") (profile : String) (strike : Option Int)
  | door (d : CompiledDoor Uuid) (profile : String)

namespace Served
variable {Uuid Amps : Type}

def tool? : Served Uuid → Option (SyncTool Uuid)
  | .tool t _ _ _ _ => some t
  | .door _ _ => none

def door? : Served Uuid → Option (CompiledDoor Uuid)
  | .tool _ _ _ _ _ => none
  | .door d _ => some d

def id : Served Uuid → Uuid
  | .tool t _ _ _ _ => t.id
  | .door d _ => d.id

def name : Served Uuid → String
  | .tool t _ _ _ _ => t.name
  | .door d _ => d.name

/-- The entry its alias makes of it. -/
def aliasEntry : Served Uuid → Entry Uuid
  | .tool t _ _ _ _ => .fromSyncTool t
  | .door d _ => .fromCompiledDoor d

variable [IdText Uuid]

def toPolicy (toRfc3339 : Int → String) : Served Uuid → ResourcePolicy
  | .tool t kind _ profile strike =>
    { id := IdText.toText t.id
      externalId := t.externalId
      name := t.name
      kind := kind
      sessionProfile := profile
      status := statusWord t.status
      requiresOnline := t.requiresOnline
      enabled := true
      pulseMs := strike
      allow := []
      deny := []
      holdUntil := none }
  | .door d profile =>
    { id := IdText.toText d.id
      externalId := none
      name := d.name
      kind := "door"
      sessionProfile := profile
      status := ""
      requiresOnline := false
      enabled := d.enabled
      pulseMs := some d.unlockDurationMs
      allow := d.allowCards
      deny := d.denyCards
      holdUntil := d.holdUnlockUntil.map toRfc3339 }

def toPrincipal (u : SyncUser Uuid) : Principal :=
  ⟨u.profileFieldDigest, u.fullName, u.isActive, u.authorizedToolIds.map IdText.toText⟩

/-- The one shape of what the server serves a device. -/
def buildResourcePolicy (toRfc3339 : Int → String) (device : Uuid) (field asOf : String) (served : List (Served Uuid))
    (users : List (SyncUser Uuid)) : ResourcePolicyPayload where
  deviceId := IdText.toText device
  asOf := asOf
  profileField := field
  resources := served.map (toPolicy toRfc3339)
  principals := users.map toPrincipal

/-- The same as the tool alias. -/
def toolSync (device : Uuid) (field : String) (served : List (Served Uuid)) (users : List (SyncUser Uuid)) :
    SyncPayload Uuid :=
  ⟨device, field, served.filterMap tool?, users⟩

/-- The same as the door alias. -/
def compiledDoors (snapshotAt : Int) (served : List (Served Uuid)) : DoorStateSnapshot Uuid :=
  ⟨snapshotAt, served.filterMap door?⟩

/-- No name names two of them. -/
def UniqueNames (served : List (Served Uuid)) : Prop :=
  served.Pairwise fun a b => ∀ name, ¬ (a.aliasEntry.named name = true ∧ b.aliasEntry.named name = true)

omit [IdText Uuid] in
theorem id_aliasEntry (r : Served Uuid) : r.aliasEntry.id = r.id := by
  cases r <;> rfl

variable {served : List (Served Uuid)} {c : ResourceCache Uuid Amps} {users : List (SyncUser Uuid)}

theorem UniqueNames.nodup_ids (unique : UniqueNames served) : (served.map id).Nodup := by
  refine List.pairwise_map.mpr (List.Pairwise.imp ?_ unique)
  intro a b apart same
  have first : a.aliasEntry.named (IdText.toText a.id) = true := by
    simp [Entry.named, id_aliasEntry]
  have second : b.aliasEntry.named (IdText.toText a.id) = true := by
    simp [Entry.named, id_aliasEntry, same]
  exact apart _ ⟨first, second⟩

/-- The entry the one shape makes of it: the alias's, with the profile and the strike's pulse. -/
def policyEntry : Served Uuid → Entry Uuid
  | .tool t _ _ profile strike => { Entry.fromSyncTool t with sessionProfile := profile, pulseMs := strike }
  | .door d profile => { Entry.fromCompiledDoor d with sessionProfile := profile }

/-- The end of its hold reads back from the text it is sent as. -/
def HoldReads (parseRfc3339 : String → Option Int) (toRfc3339 : Int → String) (r : Served Uuid) : Prop :=
  ∀ until_, r.aliasEntry.holdUntil = some until_ → parseRfc3339 (toRfc3339 until_) = some until_

variable {parseRfc3339 : String → Option Int} {toRfc3339 : Int → String}

theorem fromPolicy_toPolicy {r : Served Uuid} (reads : r.HoldReads parseRfc3339 toRfc3339) :
    Entry.fromPolicy parseRfc3339 (r.toPolicy toRfc3339) = some r.policyEntry := by
  cases r with
  | tool t kind ofTool profile strike =>
    have word : Kind.parse kind = .tool := if_neg ofTool
    simp [Entry.fromPolicy, toPolicy, policyEntry, Entry.fromSyncTool, IdText.parseStr_toText, word]
  | door d profile =>
    have word : Kind.parse "door" = .door := if_pos rfl
    have hold : (d.holdUnlockUntil.map toRfc3339).bind parseRfc3339 = d.holdUnlockUntil := by
      rcases ends : d.holdUnlockUntil with _ | until_
      · rfl
      · exact reads until_ ends
    simp [Entry.fromPolicy, toPolicy, policyEntry, Entry.fromCompiledDoor, IdText.parseStr_toText, word, hold]

theorem fromPrincipal_toPrincipal (u : SyncUser Uuid) : Member.fromPrincipal (toPrincipal u) = .fromSyncUser u := by
  have back : (u.authorizedToolIds.map IdText.toText).filterMap IdText.parseStr = u.authorizedToolIds := by
    rw [List.filterMap_map]
    have same : (IdText.parseStr ∘ IdText.toText : Uuid → Option Uuid) = some := funext IdText.parseStr_toText
    rw [same, List.filterMap_some]
  simp only [Member.fromPrincipal, toPrincipal, Member.fromSyncUser, back]

omit [IdText Uuid] in
/-- Each half of the one shape is the half its alias brings, but for profiles and pulses. -/
theorem half_policyEntry (served : List (Served Uuid)) :
    ((served.map policyEntry).filter fun e => e.kind = .tool).map Entry.judged =
        ((served.filterMap tool?).map Entry.fromSyncTool).map Entry.judged ∧
      ((served.map policyEntry).filter fun e => e.kind = .door).map Entry.judged =
        ((served.filterMap door?).map Entry.fromCompiledDoor).map Entry.judged := by
  induction served with
  | nil => exact ⟨rfl, rfl⟩
  | cons r rest ih =>
    obtain ⟨tools, doors⟩ := ih
    cases r with
    | tool t kind ofTool profile strike =>
      constructor
      · simpa [policyEntry, tool?, Entry.fromSyncTool, Entry.judged] using tools
      · simpa [policyEntry, door?, Entry.fromSyncTool, List.filterMap_cons] using doors
    | door d profile =>
      constructor
      · simpa [policyEntry, tool?, Entry.fromCompiledDoor, List.filterMap_cons] using tools
      · simpa [policyEntry, door?, Entry.fromCompiledDoor, Entry.judged] using doors

omit [IdText Uuid] in
theorem toSync_policyEntry {names : Table Uuid String} (named : ∀ r ∈ served, names r.id = some r.name) :
    (((served.map policyEntry).filter fun e => e.kind = .tool).map fun e => e.toSyncTool ((names e.id).getD "")) =
      served.filterMap tool? := by
  induction served with
  | nil => rfl
  | cons r rest ih =>
    have others := ih fun other member => named other (List.mem_cons_of_mem _ member)
    have mine := named r (List.mem_cons_self ..)
    cases r with
    | tool t kind ofTool profile strike =>
      have status := parseStatus_statusWord t.status
      simp only [id, name] at mine
      simpa [policyEntry, tool?, Entry.fromSyncTool, Entry.toSyncTool, mine, status] using others
    | door d profile =>
      simpa [policyEntry, tool?, Entry.fromCompiledDoor, List.filterMap_cons] using others

/-- A name that is both a tool's and a door's names two of what is served. -/
theorem UniqueNames.not_shared (unique : UniqueNames served) {p : Policy Uuid}
    (entries : p.entries = served.map policyEntry) (name : String) : ¬ p.Shared name := by
  rintro ⟨⟨tool, inTools, namesTool⟩, ⟨door, inDoors, namesDoor⟩⟩
  rw [Policy.mem_half, entries, List.mem_map] at inTools inDoors
  obtain ⟨⟨r, inServed, rfl⟩, isTool⟩ := inTools
  obtain ⟨⟨r', inServed', rfl⟩, isDoor⟩ := inDoors
  have named : ∀ r : Served Uuid, r.policyEntry.named name = r.aliasEntry.named name := by
    intro r
    cases r <;> rfl
  have differ : r ≠ r' := by
    rintro rfl
    rw [isTool] at isDoor
    exact Kind.noConfusion isDoor
  have symm : Std.Symm fun a b : Served Uuid =>
      ∀ name, ¬ (a.aliasEntry.named name = true ∧ b.aliasEntry.named name = true) :=
    ⟨fun a b apart name both => apart name both.symm⟩
  rw [named] at namesTool namesDoor
  exact unique.forall inServed inServed' differ name ⟨namesTool, namesDoor⟩

/-- The halves, the principals and the kiosk's view that an edge's cache holds, judged
against what the aliases of a list of resources bring. -/
structure FedWith (c c' : ResourceCache Uuid Amps) (device : Uuid) (field : String) (served : List (Served Uuid))
    (users : List (SyncUser Uuid)) : Prop where
  tools : c'.policy.half .tool = (served.filterMap tool?).map Entry.fromSyncTool
  doors : c'.policy.half .door = (served.filterMap door?).map Entry.fromCompiledDoor
  members : c'.policy.members = users.map Member.fromSyncUser
  kiosk : c'.allowList = c.allowList.applySync (toolSync device field served users)
  power : c'.power = c.power

/-- However the aliases came, their edge finds the entries of the one shape, the pulse aside. -/
theorem FedWith.find {c' unified : ResourceCache Uuid Amps} {device : Uuid} {field : String}
    (fed : FedWith c c' device field served users) (unique : UniqueNames served)
    (entries : unified.policy.entries = served.map policyEntry) (name : String) :
    (unified.policy.find name).map Entry.judged = (c'.policy.find name).map Entry.judged := by
  have judged : ∀ p : Policy Uuid,
      (p.find name).map Entry.judged =
        ({ p with entries := p.entries.map Entry.judged } : Policy Uuid).find name := by
    intro p
    unfold Policy.find
    rw [List.find?_map]
    rfl
  have halves : ∀ (p : Policy Uuid) kind,
      ({ p with entries := p.entries.map Entry.judged } : Policy Uuid).half kind =
        (p.half kind).map Entry.judged := by
    intro p kind
    unfold Policy.half
    rw [List.filter_map]
    rfl
  have both := half_policyEntry served
  rw [judged, judged]
  refine Policy.find_eq_of_halves ?_ ?_
  · intro kind
    rw [halves, halves]
    cases kind with
    | tool =>
      rw [fed.tools, ← both.1]
      unfold Policy.half
      rw [entries]
    | door =>
      rw [fed.doors, ← both.2]
      unfold Policy.half
      rw [entries]
  · rintro ⟨⟨tool, inTools, namesTool⟩, ⟨door, inDoors, namesDoor⟩⟩
    rw [halves, List.mem_map] at inTools inDoors
    obtain ⟨e, isTool, rfl⟩ := inTools
    obtain ⟨f, isDoor, rfl⟩ := inDoors
    exact unique.not_shared entries name ⟨⟨e, isTool, namesTool⟩, ⟨f, isDoor, namesDoor⟩⟩

variable [DecidableEq Uuid] [Inhabited Uuid]

theorem names_applyPolicy {device : Uuid} {field asOf : String} (unique : UniqueNames served)
    (taken : ¬ (parseRfc3339 asOf).any c.policy.isStale = true) :
    ∀ r ∈ served,
      (c.applyPolicy parseRfc3339 (buildResourcePolicy toRfc3339 device field asOf served users)).policy.names r.id =
        some r.name := by
  intro r member
  have inserted : served.foldl (fun (t : Table Uuid String) r => t.insert r.id r.name) .empty r.id = some r.name :=
    Table.foldl_insert_of_mem unique.nodup_ids member .empty
  unfold ResourceCache.applyPolicy buildResourcePolicy
  simp only [if_neg taken]
  rw [List.foldl_map]
  refine Eq.trans (congrFun ?_ r.id) inserted
  refine List.foldl_ext _ _ _ fun names r _ => ?_
  cases r with
  | tool t kind ofTool profile strike =>
    simp only [toPolicy, IdText.parseStr_toText]
    rfl
  | door d profile =>
    simp only [toPolicy, IdText.parseStr_toText]
    rfl

/-- What an edge holds of the one shape once it has taken it in. -/
theorem applyPolicy_built {device : Uuid} {field asOf : String} (unique : UniqueNames served)
    (reads : ∀ r ∈ served, r.HoldReads parseRfc3339 toRfc3339)
    (fresh : (parseRfc3339 asOf).any c.policy.isStale = false) :
    let c' := c.applyPolicy parseRfc3339 (buildResourcePolicy toRfc3339 device field asOf served users)
    c'.policy.entries = served.map policyEntry ∧ c'.policy.members = users.map Member.fromSyncUser ∧
      c'.allowList = c.allowList.applySync (toolSync device field served users) := by
  intro c'
  have taken : ¬ (parseRfc3339 asOf).any c.policy.isStale = true := by
    rw [fresh]
    exact Bool.false_ne_true
  have entries : (served.map (toPolicy toRfc3339)).filterMap (Entry.fromPolicy parseRfc3339) =
      served.map policyEntry := by
    rw [List.filterMap_map, ← List.filterMap_eq_map]
    exact List.filterMap_congr fun r member => fromPolicy_toPolicy (reads r member)
  have members : (users.map toPrincipal).map Member.fromPrincipal = users.map Member.fromSyncUser := by
    rw [List.map_map]
    exact List.map_congr_left fun u _ => fromPrincipal_toPrincipal u
  have kiosk : (users.map Member.fromSyncUser).map Member.toSyncUser = users := by
    rw [List.map_map]
    exact List.map_id users
  have names : ∀ r ∈ served, c'.policy.names r.id = some r.name := names_applyPolicy unique taken
  have policy : c'.policy.entries = served.map policyEntry ∧ c'.policy.members = users.map Member.fromSyncUser := by
    unfold c' ResourceCache.applyPolicy buildResourcePolicy
    simp only [if_neg taken]
    exact ⟨entries, members⟩
  have shown : c'.allowList = c.allowList.applySync (c'.policy.toSync device field) := by
    have readDevice := IdText.parseStr_toText device
    unfold c' ResourceCache.applyPolicy buildResourcePolicy
    simp only [if_neg taken, readDevice, Option.getD_some]
  refine ⟨policy.1, policy.2, ?_⟩
  rw [shown]
  unfold Policy.toSync toolSync
  rw [policy.1, policy.2, toSync_policyEntry names, kiosk]

omit [IdText Uuid] [Inhabited Uuid] in
theorem allowList_applyDoorsAlias (c : ResourceCache Uuid Amps) (snapshot : DoorStateSnapshot Uuid) :
    (c.applyDoorsAlias snapshot).allowList = c.allowList := by
  unfold ResourceCache.applyDoorsAlias
  split
  · rfl
  · rfl

theorem fedWith_toolsFirst {snapshotAt : Int} (fresh : c.policy.isStale snapshotAt = false) (device : Uuid)
    (field : String) (served : List (Served Uuid)) (users : List (SyncUser Uuid)) :
    FedWith c ((c.applySyncAlias (toolSync device field served users)).applyDoorsAlias
      (compiledDoors snapshotAt served))
      device field served users := by
  have sync := Delivery.applyTo_left (fun _ => none) (c := c)
    (d := .syncAlias (toolSync device field served users)) rfl
  have doors := Delivery.applyTo_left (fun _ => none) (c := c.applySyncAlias (toolSync device field served users))
    (d := .doorsAlias (compiledDoors snapshotAt served)) fresh
  exact
    { tools := (doors.half .tool).trans (sync.half .tool)
      doors := doors.half .door
      members := doors.members.trans sync.members
      kiosk := allowList_applyDoorsAlias _ _
      power := doors.power.trans sync.power }

theorem fedWith_doorsFirst {snapshotAt : Int} (fresh : c.policy.isStale snapshotAt = false) (device : Uuid)
    (field : String) (served : List (Served Uuid)) (users : List (SyncUser Uuid)) :
    FedWith c ((c.applyDoorsAlias (compiledDoors snapshotAt served)).applySyncAlias
      (toolSync device field served users))
      device field served users := by
  have doors := Delivery.applyTo_left (fun _ => none) (c := c)
    (d := .doorsAlias (compiledDoors snapshotAt served)) fresh
  have sync := Delivery.applyTo_left (fun _ => none) (c := c.applyDoorsAlias (compiledDoors snapshotAt served))
    (d := .syncAlias (toolSync device field served users)) rfl
  have kept := allowList_applyDoorsAlias c (compiledDoors snapshotAt served)
  exact
    { tools := sync.half .tool
      doors := (sync.half .door).trans (doors.half .door)
      members := sync.members
      kiosk := congrArg (ToolGuardState.applySync · (toolSync device field served users)) kept
      power := sync.power.trans doors.power }

/-- An edge fed the one shape and an edge fed its two aliases, in either order, answer alike
for every name, card and instant, the pulse aside, and show the kiosk the same. -/
theorem policy_and_aliases_decide_alike {device : Uuid} {field asOf : String} {snapshotAt : Int}
    (unique : UniqueNames served) (reads : ∀ r ∈ served, r.HoldReads parseRfc3339 toRfc3339)
    (freshPolicy : (parseRfc3339 asOf).any c.policy.isStale = false)
    (freshDoors : c.policy.isStale snapshotAt = false) :
    let unified := c.applyPolicy parseRfc3339 (buildResourcePolicy toRfc3339 device field asOf served users)
    let sync := toolSync device field served users
    let doors := compiledDoors snapshotAt served
    ∀ legacy ∈ [(c.applySyncAlias sync).applyDoorsAlias doors, (c.applyDoorsAlias doors).applySyncAlias sync],
      (∀ name card now, (unified.decide name card now).sansPulse = (legacy.decide name card now).sansPulse) ∧
        unified.allowList.inner = legacy.allowList.inner := by
  intro unified sync doors legacy either
  obtain ⟨entries, members, kiosk⟩ : unified.policy.entries = served.map policyEntry ∧
      unified.policy.members = users.map Member.fromSyncUser ∧
      unified.allowList = c.allowList.applySync (toolSync device field served users) :=
    applyPolicy_built unique reads freshPolicy
  have left := Delivery.applyTo_left parseRfc3339 (c := c)
    (d := .policy (buildResourcePolicy toRfc3339 device field asOf served users)) freshPolicy
  have power : unified.power = c.power := left.power
  have fed : FedWith c legacy device field served users := by
    rcases List.mem_pair.mp either with rfl | rfl
    · exact fedWith_toolsFirst freshDoors device field served users
    · exact fedWith_doorsFirst freshDoors device field served users
  have shown : unified.allowList = legacy.allowList := kiosk.trans fed.kiosk.symm
  constructor
  · intro name card now
    exact decide_sansPulse (power.trans fed.power.symm) (congrArg ToolGuardState.cardDigester shown)
      (members.trans fed.members.symm) (fed.find unique entries name) card now
  · rw [shown]

section
def sampleEnd : Int := seconds 1767225600

theorem tool_ne_door : "tool" ≠ "door" := by decide

/-- A lathe, and a door held open until the start of 2026. -/
def sampleServed : List (Served HexId) :=
  [.tool ⟨.repeating 3, some "lathe", "Lathe", .idle, false⟩ "tool" tool_ne_door "until_stopped" (some 500),
    .door ⟨.repeating 7, "Lab", true, 3000, [], [], some sampleEnd⟩ "momentary"]

def sampleParse (text : String) : Option Int := if text = "2026-01-01T00:00:00+00:00" then some sampleEnd else none

def sampleText (_ : Int) : String := "2026-01-01T00:00:00+00:00"

theorem sample_aliases_decide_alike :
    let c : ResourceCache HexId Int := Delivery.unfed .new ⟨none, none⟩ .new
    let device : HexId := .repeating 1
    let unified := c.applyPolicy sampleParse
      (buildResourcePolicy sampleText device "card_uuid" "2026-01-01T00:00:00+00:00" sampleServed [])
    let sync := toolSync device "card_uuid" sampleServed []
    let doors := compiledDoors sampleEnd sampleServed
    ∀ legacy ∈ [(c.applySyncAlias sync).applyDoorsAlias doors, (c.applyDoorsAlias doors).applySyncAlias sync],
      (∀ name card now, (unified.decide name card now).sansPulse = (legacy.decide name card now).sansPulse) ∧
        unified.allowList.inner = legacy.allowList.inner := by
  have unique : UniqueNames sampleServed := by
    unfold UniqueNames sampleServed
    simp only [List.pairwise_cons, List.mem_singleton, List.not_mem_nil, forall_eq, IsEmpty.forall_iff, implies_true,
      List.Pairwise.nil, and_true]
    rintro name ⟨first, second⟩
    have text : HexId.toText (.repeating 7) ≠ "lathe" ∧
        HexId.toText (.repeating 7) ≠ HexId.toText (.repeating 3) := by
      decide +kernel
    simp only [aliasEntry, Entry.named, Entry.fromSyncTool, Entry.fromCompiledDoor, IdText.toText, Bool.or_eq_true,
      beq_iff_eq, Option.some.injEq, reduceCtorEq, false_or] at first second
    subst second
    rcases first with same | same
    · exact text.1 same.symm
    · exact text.2 same.symm
  have reads : ∀ r ∈ sampleServed, r.HoldReads sampleParse sampleText := by
    intro r member until_ ends
    rcases List.mem_pair.mp member with rfl | rfl
    · exact absurd ends (by simp [aliasEntry, Entry.fromSyncTool])
    · exact ends
  exact policy_and_aliases_decide_alike unique reads rfl rfl

end

end Served

end CoopSpaces
