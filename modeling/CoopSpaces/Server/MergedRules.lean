import CoopSpaces.Server.Engine

namespace CoopSpaces

/-- A row of `access_rules`. -/
structure AccessRuleRow (Uuid : Type) where
  id : Uuid
  resourceId : Uuid
  rule : AccessRule Uuid
deriving DecidableEq

namespace AccessRuleRow
variable {Uuid : Type}

def key (row : AccessRuleRow Uuid) : Uuid × String × String × String :=
  (row.resourceId, row.rule.kind, row.rule.value, row.rule.effect)

def withValue (row : AccessRuleRow Uuid) (value : String) : AccessRuleRow Uuid :=
  { row with rule := { row.rule with value } }

end AccessRuleRow

/-- The rules of all resources, of which no two agree in resource, kind, value and effect. -/
structure AccessRules (Uuid : Type) where
  rows : List (AccessRuleRow Uuid)
  unique : (rows.map AccessRuleRow.key).Nodup

/-- Who reads the value of a user rule: the engine compares it with the member's id as
text, the snapshot for a controller parses it. -/
inductive RuleReader
  | engine
  | controller
deriving DecidableEq

section Rules
variable {Uuid Json : Type} [DecidableEq Uuid] [IdText Uuid]

def RuleReader.names : RuleReader → String → Uuid → Prop
  | .engine, value, user => value = IdText.toText user
  | .controller, value, user => IdText.parseStr value = some user

instance (reader : RuleReader) (value : String) (user : Uuid) : Decidable (reader.names value user) :=
  match reader with
  | .engine => inferInstanceAs (Decidable (value = IdText.toText user))
  | .controller => inferInstanceAs (Decidable (IdText.parseStr value = some user))

namespace AccessRuleRow

/-- `kind = 'user' AND value = id::text`. -/
def IsOf (row : AccessRuleRow Uuid) (user : Uuid) : Prop :=
  row.rule.kind = "user" ∧ row.rule.value = IdText.toText user

instance (row : AccessRuleRow Uuid) (user : Uuid) : Decidable (row.IsOf user) := inferInstanceAs (Decidable (_ ∧ _))

/-- A user rule of the account for the same resource and to the same effect. -/
def Twin (row other : AccessRuleRow Uuid) (user : Uuid) : Prop :=
  other.resourceId = row.resourceId ∧ other.IsOf user ∧ other.rule.effect = row.rule.effect

instance (row other : AccessRuleRow Uuid) (user : Uuid) : Decidable (row.Twin other user) :=
  inferInstanceAs (Decidable (_ ∧ _))

/-- The row moves to the survivor: it is the absorbed account's and has no twin there. -/
def Moves (row : AccessRuleRow Uuid) (rows : List (AccessRuleRow Uuid)) (survivor absorbed : Uuid) : Prop :=
  row.IsOf absorbed ∧ ∀ other ∈ rows, ¬row.Twin other survivor

instance (row : AccessRuleRow Uuid) (rows : List (AccessRuleRow Uuid)) (survivor absorbed : Uuid) :
    Decidable (row.Moves rows survivor absorbed) := inferInstanceAs (Decidable (_ ∧ _))

end AccessRuleRow

namespace AccessRules
variable (rules : AccessRules Uuid) (survivor absorbed : Uuid)

/-- The update of a merge: every row is judged by the rows as they were. -/
def rewriteRow (row : AccessRuleRow Uuid) : AccessRuleRow Uuid :=
  if row.Moves rules.rows survivor absorbed then row.withValue (IdText.toText survivor) else row

variable {rules survivor absorbed} in
theorem key_rewriteRow_ne {row other : AccessRuleRow Uuid} (inRows : row ∈ rules.rows) (inRows' : other ∈ rules.rows)
    (apart : row.key ≠ other.key) :
    (rules.rewriteRow survivor absorbed row).key ≠ (rules.rewriteRow survivor absorbed other).key := by
  unfold rewriteRow
  intro same
  split at same <;> split at same
  · -- both were the absorbed account's, so their keys agreed before
    rename_i moves moves'
    refine apart ?_
    simp only [AccessRuleRow.key, AccessRuleRow.withValue, Prod.mk.injEq, true_and] at same ⊢
    exact ⟨same.1, same.2.1, moves.1.2.trans moves'.1.2.symm, same.2.2⟩
  · rename_i moves stays
    simp only [AccessRuleRow.key, AccessRuleRow.withValue, Prod.mk.injEq] at same
    exact moves.2 other inRows' ⟨same.1.symm, ⟨same.2.1 ▸ moves.1.1, same.2.2.1.symm⟩, same.2.2.2.symm⟩
  · rename_i stays moves
    simp only [AccessRuleRow.key, AccessRuleRow.withValue, Prod.mk.injEq] at same
    exact moves.2 row inRows ⟨same.1, ⟨same.2.1 ▸ moves.1.1, same.2.2.1⟩, same.2.2.2⟩
  · exact apart same

/-- What a merge does to the rules: the absorbed account's are rewritten to the survivor,
save where the survivor has one of that resource and effect, and what is left is deleted. -/
def merge : AccessRules Uuid where
  rows := (rules.rows.map (rules.rewriteRow survivor absorbed)).filter fun row => !decide (row.IsOf absorbed)
  unique := by
    refine List.Nodup.sublist (List.filter_sublist.map _) ?_
    rw [List.map_map, List.Nodup, List.pairwise_map]
    exact (List.pairwise_map.mp rules.unique).imp_of_mem fun inRows inRows' apart =>
      key_rewriteRow_ne inRows inRows' apart

variable (site : SiteTime Json) (schedules : List (Schedule Uuid Json)) (now : Int)

/-- A user rule to this effect is in force on the member at the resource. -/
def InForce (reader : RuleReader) (resource user : Uuid) (effect : DoorRuleEffect) : Prop :=
  ∃ row ∈ rules.rows, row.resourceId = resource ∧ DoorRuleKind.parse row.rule.kind = some .user ∧
    reader.names row.rule.value user ∧ row.rule.inForce site schedules now = some effect

instance (reader : RuleReader) (resource user : Uuid) (effect : DoorRuleEffect) :
    Decidable (rules.InForce site schedules now reader resource user effect) :=
  inferInstanceAs (Decidable (∃ row ∈ rules.rows, _))

end AccessRules

namespace RuleReader
variable {reader : RuleReader} {value : String} {user other : Uuid}

omit [DecidableEq Uuid] in
@[simp] theorem names_toText (reader : RuleReader) (user : Uuid) : reader.names (IdText.toText user) user := by
  cases reader with
  | engine => rfl
  | controller => exact IdText.parseStr_toText user

omit [DecidableEq Uuid] in
theorem names_unique (first : reader.names value user) (second : reader.names value other) : user = other := by
  cases reader with
  | engine => exact IdText.toText_injective (first.symm.trans second)
  | controller => exact Option.some.inj (first.symm.trans second)

end RuleReader

theorem DoorRuleKind.parse_eq_user {kind : String} : DoorRuleKind.parse kind = some .user ↔ kind = "user" := by
  unfold DoorRuleKind.parse
  split_ifs with h1 h2 h3 h4 <;> simp_all

theorem DoorRuleEffect.parse_deny {named : String} : DoorRuleEffect.parse named = some .deny ↔ named = "deny" := by
  unfold DoorRuleEffect.parse
  split_ifs with allow deny <;> simp_all

namespace AccessRules
variable {rules : AccessRules Uuid} {survivor absorbed : Uuid} {site : SiteTime Json}
    {schedules : List (Schedule Uuid Json)}
  {now : Int} {reader : RuleReader} {resource : Uuid} {effect : DoorRuleEffect}

/-- What a merge leaves: the rows it moves, and those that were not the absorbed account's. -/
theorem mem_merge (apart : survivor ≠ absorbed) {row : AccessRuleRow Uuid} :
    row ∈ (rules.merge survivor absorbed).rows ↔
      (∃ old ∈ rules.rows, old.Moves rules.rows survivor absorbed ∧ old.withValue (IdText.toText survivor) = row) ∨
        row ∈ rules.rows ∧ ¬row.IsOf absorbed := by
  have other : ∀ old : AccessRuleRow Uuid, ¬(old.withValue (IdText.toText survivor)).IsOf absorbed :=
    fun old isOf => apart (IdText.toText_injective isOf.2)
  simp only [merge, List.mem_filter, List.mem_map, Bool.not_eq_true', decide_eq_false_iff_not, rewriteRow]
  constructor
  · rintro ⟨⟨old, there, rfl⟩, stays⟩
    split at stays
    · rename_i moves
      exact .inl ⟨old, there, moves, (if_pos moves).symm⟩
    · rename_i kept
      rw [if_neg kept]
      exact .inr ⟨there, stays⟩
  · rintro (⟨old, there, moves, rfl⟩ | ⟨there, stays⟩)
    · exact ⟨⟨old, there, if_pos moves⟩, other old⟩
    · exact ⟨⟨row, there, if_neg fun moves => stays moves.1⟩, stays⟩

/-- On the survivor are in force, after a merge, its own rules and those moved to it. -/
theorem inForce_merge (apart : survivor ≠ absorbed) :
    (rules.merge survivor absorbed).InForce site schedules now reader resource survivor effect ↔
      rules.InForce site schedules now reader resource survivor effect ∨
        ∃ old ∈ rules.rows, old.resourceId = resource ∧ old.Moves rules.rows survivor absorbed ∧
          old.rule.inForce site schedules now = some effect := by
  constructor
  · rintro ⟨row, there, at_, isUser, names, force⟩
    rcases (mem_merge apart).mp there with ⟨old, inRows, moves, rfl⟩ | ⟨inRows, _⟩
    · exact .inr ⟨old, inRows, at_, moves, force⟩
    · exact .inl ⟨row, inRows, at_, isUser, names, force⟩
  · rintro (⟨row, inRows, at_, isUser, names, force⟩ | ⟨old, inRows, at_, moves, force⟩)
    · have others : ¬row.IsOf absorbed := by
        intro isOf
        rw [isOf.2] at names
        exact apart (RuleReader.names_unique names (reader.names_toText absorbed))
      exact ⟨row, (mem_merge apart).mpr (.inr ⟨inRows, others⟩), at_, isUser, names, force⟩
    · refine ⟨old.withValue (IdText.toText survivor), (mem_merge apart).mpr (.inl ⟨old, inRows, moves, rfl⟩),
        at_, ?_, ?_, force⟩
      · exact DoorRuleKind.parse_eq_user.mpr moves.1.1
      · exact reader.names_toText survivor

/-- The survivor has a deny rule of its own at the resource, whatever its schedule. -/
def HasDeny (rules : AccessRules Uuid) (resource user : Uuid) : Prop :=
  ∃ row ∈ rules.rows, row.resourceId = resource ∧ row.IsOf user ∧ row.rule.effect = "deny"

/-- A ban that holds for one of two accounts holds for the survivor once they are merged,
and the survivor keeps what it is allowed, exactly when at that resource and instant the
survivor is itself denied, or the absorbed account is not, or it is by a rule under its
canonical id and the survivor has no deny rule there. -/
theorem merge_keeps_ban_iff (rules : AccessRules Uuid) {survivor absorbed : Uuid} (apart : survivor ≠ absorbed)
    (site : SiteTime Json) (schedules : List (Schedule Uuid Json)) (now : Int) (reader : RuleReader)
    (resource : Uuid) :
    ((rules.InForce site schedules now reader resource survivor .deny ∨
          rules.InForce site schedules now reader resource absorbed .deny →
        (rules.merge survivor absorbed).InForce site schedules now reader resource survivor .deny) ∧
      (rules.InForce site schedules now reader resource survivor .allow →
        (rules.merge survivor absorbed).InForce site schedules now reader resource survivor .allow)) ↔
      rules.InForce site schedules now reader resource survivor .deny ∨
        ¬rules.InForce site schedules now reader resource absorbed .deny ∨
        rules.InForce site schedules now .engine resource absorbed .deny ∧ ¬rules.HasDeny resource survivor := by
  have allow : rules.InForce site schedules now reader resource survivor .allow →
      (rules.merge survivor absorbed).InForce site schedules now reader resource survivor .allow :=
    fun own => (inForce_merge apart).mpr (.inl own)
  have moved : (∃ old ∈ rules.rows, old.resourceId = resource ∧ old.Moves rules.rows survivor absorbed ∧
      old.rule.inForce site schedules now = some .deny) ↔
      rules.InForce site schedules now .engine resource absorbed .deny ∧ ¬rules.HasDeny resource survivor := by
    constructor
    · rintro ⟨old, inRows, rfl, moves, force⟩
      have effect := DoorRuleEffect.parse_deny.mp (inForce_eq_some.mp force).1
      refine ⟨⟨old, inRows, rfl, DoorRuleKind.parse_eq_user.mpr moves.1.1, moves.1.2, force⟩, ?_⟩
      rintro ⟨twin, inRows', at_, isOf, deny⟩
      exact moves.2 twin inRows' ⟨at_, isOf, deny.trans effect.symm⟩
    · rintro ⟨⟨old, inRows, rfl, isUser, isText, force⟩, none_⟩
      have effect := DoorRuleEffect.parse_deny.mp (inForce_eq_some.mp force).1
      refine ⟨old, inRows, rfl, ⟨⟨DoorRuleKind.parse_eq_user.mp isUser, isText⟩, ?_⟩, force⟩
      rintro twin inRows' ⟨at_, isOf, same⟩
      exact none_ ⟨twin, inRows', at_, isOf, same.trans effect⟩
  rw [inForce_merge apart, moved]
  constructor
  · rintro ⟨ban, _⟩
    by_cases denied : rules.InForce site schedules now reader resource absorbed .deny
    · rcases ban (.inr denied) with own | carried
      · exact .inl own
      · exact .inr (.inr carried)
    · exact .inr (.inl denied)
  · intro condition
    refine ⟨?_, allow⟩
    rintro (own | denied)
    · exact .inl own
    · rcases condition with own | free | carried
      · exact .inl own
      · exact absurd denied free
      · exact .inr carried

end AccessRules

end Rules

section Nights
open AccessRules

/-- Two accounts of one member, banned from one door: the one kept by night, the other always. -/
def keptAccount : HexId := .repeating 1

def oldAccount : HexId := .repeating 2

def sharedDoor : HexId := .repeating 3

def nights : Schedule HexId (List ScheduleInterval) := ⟨.repeating 4, [⟨.mon, 72000, 86400⟩]⟩

def mondays : SiteTime (List ScheduleInterval) := ⟨some, fun now => (.mon, now)⟩

def denyRow (id user : HexId) (scheduleId : Option HexId) : AccessRuleRow HexId :=
  ⟨id, sharedDoor, "user", IdText.toText user, "deny", scheduleId⟩

def twoBans : AccessRules HexId where
  rows := [denyRow (.repeating 5) keptAccount (some nights.id), denyRow (.repeating 6) oldAccount none]
  unique := by decide +kernel

theorem merge_keeps_ban_iff_nights :
    ((twoBans.InForce mondays [nights] 80000 .engine sharedDoor keptAccount .deny ∨
          twoBans.InForce mondays [nights] 80000 .engine sharedDoor oldAccount .deny →
        (twoBans.merge keptAccount oldAccount).InForce mondays [nights] 80000 .engine sharedDoor keptAccount .deny) ∧
      (twoBans.InForce mondays [nights] 80000 .engine sharedDoor keptAccount .allow →
        (twoBans.merge keptAccount oldAccount).InForce mondays
          [nights] 80000 .engine sharedDoor keptAccount .allow)) ↔
      twoBans.InForce mondays [nights] 80000 .engine sharedDoor keptAccount .deny ∨
        ¬twoBans.InForce mondays [nights] 80000 .engine sharedDoor oldAccount .deny ∨
        twoBans.InForce mondays [nights] 80000 .engine sharedDoor oldAccount .deny ∧
          ¬twoBans.HasDeny sharedDoor keptAccount :=
  merge_keeps_ban_iff twoBans (by decide +kernel) mondays [nights] 80000 .engine sharedDoor

/-- By day the merged account passes the door its old account was banned from for good. -/
theorem ban_lost_by_day :
    twoBans.InForce mondays [nights] 36000 .engine sharedDoor oldAccount .deny ∧
      ¬(twoBans.merge keptAccount oldAccount).InForce mondays
        [nights] 36000 .engine sharedDoor keptAccount .deny := by
  decide +kernel

end Nights

end CoopSpaces
