import CoopSpaces.Edge.Resources
import CoopSpaces.Lib.Since
import Mathlib.Data.List.Find

namespace CoopSpaces

/-- What reaches the cache: the one shape, or one of its two aliases. -/
inductive Delivery (Uuid : Type)
  | policy (payload : ResourcePolicyPayload)
  | syncAlias (payload : SyncPayload Uuid)
  | doorsAlias (snapshot : DoorStateSnapshot Uuid)

namespace Policy
variable {Uuid : Type}

def half (p : Policy Uuid) (kind : Kind) : List (Entry Uuid) := p.entries.filter fun e => e.kind = kind

theorem mem_half {p : Policy Uuid} {kind : Kind} {e : Entry Uuid} :
    e ∈ p.half kind ↔ e ∈ p.entries ∧ e.kind = kind := by
  unfold half
  rw [List.mem_filter, decide_eq_true_iff]

variable {replacement : List (Entry Uuid)}

theorem half_replaceKind (p : Policy Uuid) {kind : Kind} (ofKind : ∀ e ∈ replacement, e.kind = kind) :
    (p.replaceKind kind replacement).half kind = replacement := by
  have gone : (p.entries.filter fun e => e.kind ≠ kind).filter (fun e => e.kind = kind) = [] := by
    simp
  have stay : replacement.filter (fun e => e.kind = kind) = replacement := by
    simpa using ofKind
  unfold half replaceKind
  rw [List.filter_append, gone, stay, List.nil_append]

theorem half_replaceKind_of_ne (p : Policy Uuid) {kind other : Kind} (ofKind : ∀ e ∈ replacement, e.kind = kind)
    (differs : other ≠ kind) : (p.replaceKind kind replacement).half other = p.half other := by
  have stay : (p.entries.filter fun e => e.kind ≠ kind).filter (fun e => e.kind = other) =
      p.entries.filter fun e => e.kind = other := by
    rw [List.filter_filter]
    refine List.filter_congr fun e _ => ?_
    by_cases isKind : e.kind = other <;> simp [isKind, differs]
  have none_ : replacement.filter (fun e => e.kind = other) = [] := by
    refine List.filter_eq_nil_iff.mpr fun e member => ?_
    simp [ofKind e member, Ne.symm differs]
  unfold half replaceKind
  rw [List.filter_append, stay, none_, List.append_nil]

theorem entries_replaceKind_twice (p : Policy Uuid) {kind : Kind} (ofKind : ∀ e ∈ replacement, e.kind = kind) :
    ((p.replaceKind kind replacement).replaceKind kind replacement).entries =
      (p.replaceKind kind replacement).entries := by
  have gone : replacement.filter (fun e => e.kind ≠ kind) = [] := by
    simpa using ofKind
  simp only [replaceKind]
  rw [List.filter_append, List.filter_filter, gone, List.append_nil]
  simp

variable [IdText Uuid]

/-- The name is a held tool's and a held door's. -/
def Shared (p : Policy Uuid) (name : String) : Prop :=
  (∃ e ∈ p.half .tool, e.named name = true) ∧ ∃ e ∈ p.half .door, e.named name = true

theorem find_half {p : Policy Uuid} {name : String} {kind : Kind}
    (absent : ∀ e ∈ p.entries, e.named name = true → e.kind = kind) :
    p.find name = (p.half kind).find? fun e => e.named name := by
  unfold find half
  rw [List.find?_filter]
  refine List.find?_congr fun e member => ?_
  cases names : e.named name with
  | false => simp
  | true => simp [absent e member names]

/-- Away from the shared names it does not matter in which order the halves stand. -/
theorem find_eq_of_halves {p q : Policy Uuid} (halves : ∀ kind, p.half kind = q.half kind) {name : String}
    (unshared : ¬ p.Shared name) : p.find name = q.find name := by
  have same : ∀ kind e, e ∈ p.entries ∧ e.kind = kind ↔ e ∈ q.entries ∧ e.kind = kind := by
    intro kind e
    rw [← mem_half, ← mem_half, halves]
  by_cases tools : ∃ e ∈ p.half .tool, e.named name = true
  · have only : ∀ e ∈ p.entries, e.named name = true → e.kind = .tool := by
      intro e member names
      cases isKind : e.kind with
      | tool => rfl
      | door => exact absurd ⟨tools, e, mem_half.mpr ⟨member, isKind⟩, names⟩ unshared
    have onlyToo : ∀ e ∈ q.entries, e.named name = true → e.kind = .tool :=
      fun e member => only e ((same e.kind e).mpr ⟨member, rfl⟩).1
    rw [find_half only, find_half onlyToo, halves]
  · have only : ∀ e ∈ p.entries, e.named name = true → e.kind = .door := by
      intro e member names
      cases isKind : e.kind with
      | door => rfl
      | tool => exact absurd ⟨e, mem_half.mpr ⟨member, isKind⟩, names⟩ tools
    have onlyToo : ∀ e ∈ q.entries, e.named name = true → e.kind = .door :=
      fun e member => only e ((same e.kind e).mpr ⟨member, rfl⟩).1
    rw [find_half only, find_half onlyToo, halves]

end Policy

theorem Entry.kind_fromSyncTool {Uuid : Type} {tools : List (SyncTool Uuid)} :
    ∀ e ∈ tools.map Entry.fromSyncTool, e.kind = .tool := by
  intro e member
  obtain ⟨t, -, rfl⟩ := List.mem_map.mp member
  rfl

theorem Entry.kind_fromCompiledDoor {Uuid : Type} {doors : List (CompiledDoor Uuid)} :
    ∀ e ∈ doors.map Entry.fromCompiledDoor, e.kind = .door := by
  intro e member
  obtain ⟨d, -, rfl⟩ := List.mem_map.mp member
  rfl

theorem ResourceCache.decide_congr {Uuid Amps : Type} [DecidableEq Uuid] [IdText Uuid]
    {c c' : ResourceCache Uuid Amps}
    (wiring : c'.wiring = c.wiring)
    (digester : c'.allowList.cardDigester = c.allowList.cardDigester) (power : c'.power = c.power)
    (members : c'.policy.members = c.policy.members) {name : String}
    (found : c'.policy.find name = c.policy.find name) (card : String) (now : Int) :
    c'.decide name card now = c.decide name card now := by
  have digest : c'.allowList.wireDigestHex card = c.allowList.wireDigestHex card := by
    unfold ToolGuardState.wireDigestHex
    rw [digester]
  have resolved : c'.resolve name = c.resolve name := by
    unfold resolve resolvedFrom
    rw [wiring, found]
  unfold decide
  rw [power, digest, resolved, found, members]

namespace Delivery
variable {Uuid Amps : Type} [IdText Uuid] (parseRfc3339 : String → Option Int)

/-- The compile stamp, where it carries one that can be read. -/
def stamp : Delivery Uuid → Option Int
  | .policy payload => parseRfc3339 payload.asOf
  | .syncAlias _ => none
  | .doorsAlias snapshot => some snapshot.snapshotAt

/-- The entries of one kind it brings, if it brings that half at all. -/
def half (kind : Kind) : Delivery Uuid → Option (List (Entry Uuid))
  | .policy payload =>
    some ((payload.resources.filterMap (Entry.fromPolicy parseRfc3339)).filter fun e => e.kind = kind)
  | .syncAlias payload => if kind = .tool then some (payload.tools.map Entry.fromSyncTool) else none
  | .doorsAlias snapshot => if kind = .door then some (snapshot.doors.map Entry.fromCompiledDoor) else none

def members : Delivery Uuid → Option (List (Member Uuid))
  | .policy payload => some (payload.principals.map Member.fromPrincipal)
  | .syncAlias payload => some (payload.users.map Member.fromSyncUser)
  | .doorsAlias _ => none

variable {c : ResourceCache Uuid Amps} {d : Delivery Uuid}

theorem half_door_of_stamp {t : Int} (stamped : d.stamp parseRfc3339 = some t) :
    (d.half parseRfc3339 .door).isSome = true := by
  cases d with
  | policy payload => rfl
  | syncAlias payload => exact absurd stamped (by simp [stamp])
  | doorsAlias snapshot => rfl

theorem isSome_members (d : Delivery Uuid) : d.members.isSome = (d.half parseRfc3339 .tool).isSome := by
  cases d <;> rfl

/-- Stamped strictly older than what the cache holds. -/
def staleFor (c : ResourceCache Uuid Amps) (d : Delivery Uuid) : Bool := (d.stamp parseRfc3339).any c.policy.isStale

/-- What a delivery that is not stale leaves: its own halves, its own principals
and its own stamp, each only where it carries one. -/
structure Left (c c' : ResourceCache Uuid Amps) (d : Delivery Uuid) : Prop where
  half : ∀ kind, c'.policy.half kind = (d.half parseRfc3339 kind).getD (c.policy.half kind)
  members : c'.policy.members = d.members.getD c.policy.members
  appliedAt : c'.policy.appliedAt = (d.stamp parseRfc3339).or c.policy.appliedAt
  wiring : c'.wiring = c.wiring
  power : c'.power = c.power
  digester : c'.allowList.cardDigester = c.allowList.cardDigester

/-- Nothing a later delivery brought replaced a half that this one did. -/
def SparedBy (d later : Delivery Uuid) : Prop :=
  ∀ kind, (d.half parseRfc3339 kind).isSome = true → later.half parseRfc3339 kind = none

/-- The cache holds all this delivery brought. -/
structure HeldBy (d : Delivery Uuid) (c : ResourceCache Uuid Amps) : Prop where
  half : ∀ kind entries, d.half parseRfc3339 kind = some entries → c.policy.half kind = entries
  members : ∀ principals, d.members = some principals → c.policy.members = principals
  appliedAt : ∀ t, d.stamp parseRfc3339 = some t → c.policy.appliedAt = some t

theorem HeldBy.of_left {c' : ResourceCache Uuid Amps} (left : Left parseRfc3339 c c' d) :
    d.HeldBy parseRfc3339 c' where
  half kind entries brings := by rw [left.half, brings, Option.getD_some]
  members principals brings := by rw [left.members, brings, Option.getD_some]
  appliedAt t stamped := by rw [left.appliedAt, stamped, Option.some_or]

theorem HeldBy.spared {later : Delivery Uuid} {c' : ResourceCache Uuid Amps} (held : d.HeldBy parseRfc3339 c)
    (left : Left parseRfc3339 c c' later) (spared : d.SparedBy parseRfc3339 later) : d.HeldBy parseRfc3339 c' where
  half kind entries brings := by
    have nothing := spared kind (by rw [brings]; rfl)
    rw [left.half, nothing, Option.getD_none]
    exact held.half kind entries brings
  members principals brings := by
    have tools : (d.half parseRfc3339 .tool).isSome = true := by
      rw [← isSome_members, brings]
      rfl
    have nothing : later.members = none := by
      rw [← Option.not_isSome_iff_eq_none, isSome_members parseRfc3339, spared .tool tools]
      exact Bool.false_ne_true
    rw [left.members, nothing, Option.getD_none]
    exact held.members principals brings
  appliedAt t stamped := by
    have nothing : later.stamp parseRfc3339 = none := by
      rcases other : later.stamp parseRfc3339 with _ | u
      · rfl
      · have doors := half_door_of_stamp parseRfc3339 other
        rw [spared .door (half_door_of_stamp parseRfc3339 stamped)] at doors
        exact Bool.noConfusion doors
    rw [left.appliedAt, nothing, Option.none_or]
    exact held.appliedAt t stamped

theorem HeldBy.fresh (held : d.HeldBy parseRfc3339 c) : d.staleFor parseRfc3339 c = false := by
  unfold staleFor
  rcases stamped : d.stamp parseRfc3339 with _ | t
  · rfl
  · have same := held.appliedAt t stamped
    simp [Policy.isStale, same]

/-- The last of a log that came with doors. -/
def lastDoors (log : List (Delivery Uuid)) : Option (Delivery Uuid) :=
  (log.filter fun d => (d.half parseRfc3339 .door).isSome).getLast?

theorem lastDoors_snoc (log : List (Delivery Uuid)) (d : Delivery Uuid) :
    lastDoors parseRfc3339 (log ++ [d]) =
      if (d.half parseRfc3339 .door).isSome then some d else lastDoors parseRfc3339 log := by
  unfold lastDoors
  rw [List.filter_append]
  by_cases doors : (d.half parseRfc3339 .door).isSome = true
  · simp [doors]
  · simp [doors]

variable [DecidableEq Uuid] [Inhabited Uuid]

def applyTo (c : ResourceCache Uuid Amps) : Delivery Uuid → ResourceCache Uuid Amps
  | .policy payload => c.applyPolicy parseRfc3339 payload
  | .syncAlias payload => c.applySyncAlias payload
  | .doorsAlias snapshot => c.applyDoorsAlias snapshot

theorem applyTo_of_stale (old : d.staleFor parseRfc3339 c = true) : d.applyTo parseRfc3339 c = c := by
  cases d with
  | policy payload => exact if_pos old
  | syncAlias payload => exact Bool.noConfusion old
  | doorsAlias snapshot => exact if_pos old

theorem applyTo_left (fresh : d.staleFor parseRfc3339 c = false) :
    Left parseRfc3339 c (d.applyTo parseRfc3339 c) d := by
  cases d with
  | policy payload =>
    have taken : ¬ (parseRfc3339 payload.asOf).any c.policy.isStale = true := by
      rw [Bool.not_eq_true]
      exact fresh
    simp only [applyTo, ResourceCache.applyPolicy, if_neg taken]
    exact ⟨fun _ => rfl, rfl, rfl, rfl, rfl, rfl⟩
  | syncAlias payload =>
    refine ⟨?_, rfl, rfl, rfl, rfl, rfl⟩
    intro kind
    cases kind with
    | tool => exact c.policy.half_replaceKind Entry.kind_fromSyncTool
    | door => exact c.policy.half_replaceKind_of_ne Entry.kind_fromSyncTool (by decide)
  | doorsAlias snapshot =>
    have taken : ¬ c.policy.isStale snapshot.snapshotAt = true := by
      rw [Bool.not_eq_true]
      exact fresh
    simp only [applyTo, ResourceCache.applyDoorsAlias, if_neg taken]
    refine ⟨?_, rfl, rfl, rfl, rfl, rfl⟩
    intro kind
    cases kind with
    | tool => exact Policy.half_replaceKind_of_ne _ Entry.kind_fromCompiledDoor (by decide)
    | door => exact Policy.half_replaceKind _ Entry.kind_fromCompiledDoor

theorem HeldBy.decide_applyTo (held : d.HeldBy parseRfc3339 c) {name : String}
    (found : (d.applyTo parseRfc3339 c).policy.find name = c.policy.find name) (card : String) (now : Int) :
    (d.applyTo parseRfc3339 c).decide name card now = c.decide name card now := by
  have left := applyTo_left parseRfc3339 (held.fresh parseRfc3339)
  have members : (d.applyTo parseRfc3339 c).policy.members = c.policy.members := by
    rw [left.members]
    rcases brings : d.members with _ | principals
    · rfl
    · rw [Option.getD_some, held.members principals brings]
  exact ResourceCache.decide_congr left.wiring left.digester left.power members found card now

theorem HeldBy.half_applyTo (held : d.HeldBy parseRfc3339 c) (kind : Kind) :
    (d.applyTo parseRfc3339 c).policy.half kind = c.policy.half kind := by
  rw [(applyTo_left parseRfc3339 (held.fresh parseRfc3339)).half]
  rcases brings : d.half parseRfc3339 kind with _ | entries
  · rfl
  · rw [Option.getD_some, held.half kind entries brings]

theorem entries_applyTo_twice (fresh : d.staleFor parseRfc3339 c = false) :
    (d.applyTo parseRfc3339 (d.applyTo parseRfc3339 c)).policy.entries =
      (d.applyTo parseRfc3339 c).policy.entries := by
  have again := (HeldBy.of_left parseRfc3339 (applyTo_left parseRfc3339 fresh)).fresh
  cases d with
  | policy payload =>
    have taken : ∀ c' : ResourceCache Uuid Amps, staleFor parseRfc3339 c' (.policy payload) = false →
        (c'.applyPolicy parseRfc3339 payload).policy.entries =
          payload.resources.filterMap (Entry.fromPolicy parseRfc3339) := by
      intro c' fresh'
      have here : ¬ (parseRfc3339 payload.asOf).any c'.policy.isStale = true := by
        rw [Bool.not_eq_true]
        exact fresh'
      unfold ResourceCache.applyPolicy
      simp only [if_neg here]
    exact (taken _ again).trans (taken c fresh).symm
  | syncAlias payload => exact c.policy.entries_replaceKind_twice Entry.kind_fromSyncTool
  | doorsAlias snapshot =>
    have taken : ∀ c' : ResourceCache Uuid Amps, staleFor parseRfc3339 c' (.doorsAlias snapshot) = false →
        (c'.applyDoorsAlias snapshot).policy.entries =
          (c'.policy.replaceKind .door (snapshot.doors.map Entry.fromCompiledDoor)).entries := by
      intro c' fresh'
      have here : ¬ c'.policy.isStale snapshot.snapshotAt = true := by
        rw [Bool.not_eq_true]
        exact fresh'
      unfold ResourceCache.applyDoorsAlias
      simp only [if_neg here]
      rfl
    have twice := c.policy.entries_replaceKind_twice (@Entry.kind_fromCompiledDoor Uuid snapshot.doors)
    have first := taken c fresh
    have second := taken _ again
    simp only [applyTo] at second ⊢
    rw [second]
    simp only [Policy.replaceKind] at first twice ⊢
    rw [first]
    exact twice

/-- The cache under deliveries; a step answers whether it took the delivery in. -/
def deliveries (start : ResourceCache Uuid Amps) : Machine (ResourceCache Uuid Amps) (Delivery Uuid) Bool where
  start := start
  step c d := (d.applyTo parseRfc3339 c, !d.staleFor parseRfc3339 c)

/-- The deliveries taken in, in their order. -/
def applied (start : ResourceCache Uuid Amps) (sent : List (Delivery Uuid)) : List (Delivery Uuid) :=
  (deliveries parseRfc3339 start).history (fun c d => if d.staleFor parseRfc3339 c then [] else [d]) sent

/-- How the cache stands to what it has taken in. -/
structure Kept (log : List (Delivery Uuid)) (c : ResourceCache Uuid Amps) : Prop where
  doors : c.policy.half .door = ((lastDoors parseRfc3339 log).bind (half parseRfc3339 .door)).getD []
  current : ∀ d t, lastDoors parseRfc3339 log = some d → d.stamp parseRfc3339 = some t → c.policy.appliedAt = some t
  attained : ∀ t, c.policy.appliedAt = some t → ∃ d ∈ log, d.stamp parseRfc3339 = some t
  greatest : ∀ d ∈ log, ∀ t, d.stamp parseRfc3339 = some t → ∃ held, c.policy.appliedAt = some held ∧ t ≤ held
  held : ∀ d, Since (fun _ note => note = d) (d.SparedBy parseRfc3339) log → d.HeldBy parseRfc3339 c
  settled : ∀ d, log.getLast? = some d → (d.applyTo parseRfc3339 c).policy.entries = c.policy.entries

theorem Kept.nil {start : ResourceCache Uuid Amps} (unfed : start.policy = .empty) :
    Kept parseRfc3339 [] start where
  doors := by rw [unfed]; rfl
  current d t last := by simp [lastDoors] at last
  attained t held := by rw [unfed] at held; exact absurd held (by simp [Policy.empty])
  greatest d member := absurd member List.not_mem_nil
  held d since := absurd since Since.not_nil
  settled d last := by simp at last

theorem Kept.snoc {log : List (Delivery Uuid)} (kept : Kept parseRfc3339 log c)
    (fresh : d.staleFor parseRfc3339 c = false) : Kept parseRfc3339 (log ++ [d]) (d.applyTo parseRfc3339 c) := by
  have left := applyTo_left parseRfc3339 fresh
  have newest : ∀ t, d.stamp parseRfc3339 = some t → (d.applyTo parseRfc3339 c).policy.appliedAt = some t :=
    (HeldBy.of_left parseRfc3339 left).appliedAt
  refine ⟨?_, ?_, ?_, ?_, ?_, ?_⟩
  · rw [left.half, lastDoors_snoc]
    rcases brings : d.half parseRfc3339 .door with _ | entries
    · simpa using kept.doors
    · simp [brings]
  · intro e t last stamped
    rw [lastDoors_snoc] at last
    split at last
    · obtain rfl := Option.some.inj last
      exact newest t stamped
    · rename_i noDoors
      have unstamped : d.stamp parseRfc3339 = none := by
        rcases other : d.stamp parseRfc3339 with _ | u
        · rfl
        · exact absurd (half_door_of_stamp parseRfc3339 other) noDoors
      rw [left.appliedAt, unstamped, Option.none_or]
      exact kept.current e t last stamped
  · intro t held
    rw [left.appliedAt] at held
    rcases stamped : d.stamp parseRfc3339 with _ | u
    · rw [stamped, Option.none_or] at held
      obtain ⟨e, member, same⟩ := kept.attained t held
      exact ⟨e, List.mem_append_left _ member, same⟩
    · rw [stamped, Option.some_or] at held
      exact ⟨d, by simp, by rw [stamped, held]⟩
  · intro e member t stamped
    rcases List.mem_append.mp member with old | new
    · obtain ⟨held, isHeld, below⟩ := kept.greatest e old t stamped
      rcases newer : d.stamp parseRfc3339 with _ | u
      · exact ⟨held, by rw [left.appliedAt, newer, Option.none_or, isHeld], below⟩
      · have notOlder : ¬ u < held := by
          simpa [staleFor, newer, Policy.isStale, isHeld] using fresh
        exact ⟨u, newest u newer, by omega⟩
    · obtain rfl := List.mem_singleton.mp new
      exact ⟨t, newest t stamped, le_rfl⟩
  · intro e since
    rcases Since.snoc_iff.mp since with rfl | ⟨before, spares⟩
    · exact HeldBy.of_left parseRfc3339 left
    · exact (kept.held e before).spared parseRfc3339 left spares
  · intro e last
    rw [List.getLast?_append] at last
    obtain rfl : d = e := by simpa using last
    exact entries_applyTo_twice parseRfc3339 fresh

theorem kept_run {start : ResourceCache Uuid Amps} (unfed : start.policy = .empty) (sent : List (Delivery Uuid)) :
    Kept parseRfc3339 (applied parseRfc3339 start sent) ((deliveries parseRfc3339 start).run sent) := by
  induction sent using List.reverseRecOn with
  | nil => exact Kept.nil parseRfc3339 unfed
  | append_singleton past d ih =>
    rw [Machine.run_snoc]
    unfold applied
    rw [Machine.history_snoc]
    split
    · rename_i old
      have unchanged := applyTo_of_stale parseRfc3339 old
      show Kept parseRfc3339 _ (d.applyTo parseRfc3339 ((deliveries parseRfc3339 start).run past))
      rw [List.append_nil, unchanged]
      exact ih
    · rename_i fresh
      exact ih.snoc parseRfc3339 (Bool.not_eq_true _ ▸ fresh)

/-- A cache nothing has been sent to, whatever its wiring and its lockouts. -/
def unfed (wiring : ModuleState) (allowList : ToolGuardState Uuid) (power : PowerState Amps) :
    ResourceCache Uuid Amps :=
  { (ResourceCache.new allowList : ResourceCache Uuid Amps) with wiring := wiring, power := power }

/-- Whatever is delivered, in whatever order: the doors held are those of the last payload
with doors that was taken in; if it is stamped, no payload taken in is stamped later. The
stamp held is the greatest of those taken in, and a payload stamped older changes nothing.
To send once more what was taken in last leaves every decision as it is, and to send
once more what is still held in full does so for every name that is not both a tool's and a door's. -/
theorem stale_changes_nothing (wiring : ModuleState) (allowList : ToolGuardState Uuid) (power : PowerState Amps)
    (sent : List (Delivery Uuid)) :
    let c := (deliveries parseRfc3339 (unfed wiring allowList power)).run sent
    let log := applied parseRfc3339 (unfed wiring allowList power) sent
    c.policy.half .door = ((lastDoors parseRfc3339 log).bind (half parseRfc3339 .door)).getD [] ∧
    (∀ d t, lastDoors parseRfc3339 log = some d → d.stamp parseRfc3339 = some t →
      ∀ e ∈ log, ∀ u, e.stamp parseRfc3339 = some u → u ≤ t) ∧
    (∀ t, c.policy.appliedAt = some t ↔
      (∃ d ∈ log, d.stamp parseRfc3339 = some t) ∧ ∀ e ∈ log, ∀ u, e.stamp parseRfc3339 = some u → u ≤ t) ∧
    (∀ (d : Delivery Uuid) t held, d.stamp parseRfc3339 = some t → c.policy.appliedAt = some held → t < held →
      d.applyTo parseRfc3339 c = c) ∧
    (∀ d, log.getLast? = some d →
      ∀ name card now, (d.applyTo parseRfc3339 c).decide name card now = c.decide name card now) ∧
    (∀ d, Since (fun _ note => note = d) (d.SparedBy parseRfc3339) log → ∀ name, ¬ c.policy.Shared name →
      ∀ card now, (d.applyTo parseRfc3339 c).decide name card now = c.decide name card now) := by
  intro c log
  have kept : Kept parseRfc3339 log c := kept_run parseRfc3339 rfl sent
  have below : ∀ t, c.policy.appliedAt = some t → ∀ e ∈ log, ∀ u, e.stamp parseRfc3339 = some u → u ≤ t := by
    intro t isHeld e member u stamped
    obtain ⟨held, same, le⟩ := kept.greatest e member u stamped
    rw [isHeld] at same
    exact Option.some.inj same ▸ le
  refine ⟨kept.doors, ?_, ?_, ?_, ?_, ?_⟩
  · intro d t last stamped
    exact below t (kept.current d t last stamped)
  · intro t
    constructor
    · intro isHeld
      exact ⟨kept.attained t isHeld, below t isHeld⟩
    · rintro ⟨⟨d, member, stamped⟩, all⟩
      obtain ⟨held, isHeld, le⟩ := kept.greatest d member t stamped
      obtain ⟨e, inLog, same⟩ := kept.attained held isHeld
      have ge := all e inLog held same
      rw [isHeld, le_antisymm ge le]
  · intro d t held stamped isHeld older
    refine applyTo_of_stale parseRfc3339 ?_
    simpa [staleFor, stamped, Policy.isStale, isHeld] using older
  · intro d last name card now
    have since : Since (fun _ note => note = d) (d.SparedBy parseRfc3339) log := by
      obtain ⟨front, split⟩ := List.getLast?_eq_some_iff.mp last
      rw [split]
      exact Since.now rfl
    have found : (d.applyTo parseRfc3339 c).policy.find name = c.policy.find name := by
      unfold Policy.find
      rw [kept.settled d last]
    exact (kept.held d since).decide_applyTo parseRfc3339 found card now
  · intro d since name unshared card now
    have held := kept.held d since
    have found := Policy.find_eq_of_halves (fun kind => (held.half_applyTo parseRfc3339 kind).symm) unshared
    exact held.decide_applyTo parseRfc3339 found.symm card now

section
/-- A door held open for a minute, and a tool whose external id is the door's id. -/
def labDoor : CompiledDoor HexId := ⟨.repeating 7, "Lab", true, 3000, [], [], some (seconds 60)⟩

def doorNamedTool : SyncTool HexId := ⟨.repeating 3, some (HexId.toText (.repeating 7)), "Lathe", .idle, false⟩

def labDoors : Delivery HexId := .doorsAlias ⟨seconds 10, [labDoor]⟩

def unstampedPolicy : Delivery HexId := .policy ⟨"", "", "", [], []⟩

def latheSync : Delivery HexId := .syncAlias ⟨.repeating 1, "", [doorNamedTool], []⟩

def emptyCache : ResourceCache HexId Int := unfed .new ⟨none, none⟩ .new

/-- A policy whose stamp cannot be read takes the place of the doors with the greatest
stamp; and doors that are held, sent once more, change the decision for a shared name. -/
theorem unstamped_policy_and_shared_name :
    let unread : String → Option Int := fun _ => none
    applied unread emptyCache [labDoors, unstampedPolicy] = [labDoors, unstampedPolicy] ∧
    labDoors.stamp unread = some (seconds 10) ∧ unstampedPolicy.stamp unread = none ∧
    ((deliveries unread emptyCache).run [labDoors, unstampedPolicy]).policy.half .door = [] ∧
    labDoors.half unread .door = some [.fromCompiledDoor labDoor] ∧
    ((deliveries unread emptyCache).run [labDoors, latheSync]).policy.half .door = [.fromCompiledDoor labDoor] ∧
    ((deliveries unread emptyCache).run [labDoors, latheSync]).decide (HexId.toText (.repeating 7)) "card" 0 =
      .allow (some 3000) ∧
    (labDoors.applyTo unread ((deliveries unread emptyCache).run [labDoors, latheSync])).decide
      (HexId.toText (.repeating 7)) "card" 0 = .deny reason.unknownCard := by
  refine ⟨rfl, rfl, rfl, rfl, rfl, ?_, ?_, ?_⟩ <;> decide +kernel

end

end Delivery

end CoopSpaces
