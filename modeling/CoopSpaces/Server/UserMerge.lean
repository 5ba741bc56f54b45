import CoopSpaces.Lib.Interleaved
import CoopSpaces.Server.Accounts
import CoopSpaces.Server.MergedRules
import Mathlib.Algebra.Ring.Int.Defs

namespace CoopSpaces

/-- Columns that are re-pointed with a plain update. -/
def PLAIN : List (String × String) :=
  [("alert_acknowledgements", "user_id"), ("audit_logs", "user_id"), ("audit_logs", "actor_id"),
    ("cmi5_courses", "imported_by"), ("cmi5_registrations", "user_id"), ("door_access_events", "user_id"),
      ("door_checkins", "user_id"), ("doors", "created_by"), ("home_links", "created_by"),
        ("membership_ledger", "user_id"), ("membership_ledger", "created_by"),
    ("power_circuits", "locked_out_by"), ("profile_config_versions", "created_by"), ("schedules", "created_by"),
    ("resource_sessions", "user_id"), ("space_device_auth_requests", "created_by"), ("tool_events", "user_id"),
    ("tool_events", "actor_id"), ("tool_tier_assignments", "assigned_by"), ("tool_training_types", "created_by"),
    ("tool_usage_sessions", "user_id"), ("tools", "created_by"), ("training_instructors", "certified_by"),
    ("training_steps", "created_by"), ("training_waivers", "waived_by"), ("user_cards", "user_id"),
      ("user_merges", "survivor_id"), ("user_merges", "actor_id"), ("user_mfa_recovery_codes", "user_id"),
        ("user_mfa_totp", "user_id"), ("user_mfa_webauthn", "user_id"),
    ("user_stripe_customers", "user_id"), ("user_tool_training", "trainer_id"),
      ("user_training_progress", "instructor_id"), ("webhook_auth_headers", "created_by"), ("webhooks", "created_by")]

/-- Tables with one row for a user and a key. -/
def UNIQUE_PAIRS : List (String × String) :=
  [("tool_tier_assignments", "tool_id"), ("training_instructors", "training_step_id"),
    ("training_waivers", "tool_id"), ("user_tool_training", "training_type_id"),
      ("user_training_progress", "training_step_id")]

/-- Columns that hold an account's id as text. -/
def TEXT_REFS : List (String × String) :=
  [("cmi5_registrations", "actor_account_name"), ("cmi5_state_documents", "agent_account_name")]

/-- A row of one of these tables; only the ledger's has an amount. -/
structure TableRow (Uuid : Type) where
  uuid : String → Option Uuid
  text : String → Option String
  amount : Int

/-- A profile is to be an object. -/
inductive Profile (Json : Type) where
  | object (fields : Table String Json)
  | other (value : Json)

structure MergeUser (Json : Type) where
  profile : Profile Json
  membershipNextDueAt : Option Int
  tokenVersion : Int

structure MergeDb (Uuid Json : Type) where
  users : Uuid → Option (MergeUser Json)
  userRoles : List (Uuid × Uuid)
  userEmails : List (UserEmail Uuid)
  accessRules : List (AccessRuleRow Uuid)
  tables : String → List (TableRow Uuid)

/-- What the database does with a row whose account is deleted. -/
inductive OnDelete where
  | restrict
  | cascade
  | setNull
  deriving DecidableEq

/-- A merge as it runs: the two accounts as they were loaded for it, the codes acknowledged, who asked, what the plan
warns of, each by its own queries, and what becomes of a reference when its account goes. -/
structure MergeRequest (Uuid Json : Type) where
  survivor : Uuid
  absorbed : Uuid
  survivorUser : MergeUser Json
  absorbedUser : MergeUser Json
  acknowledged : List String
  actor : Uuid
  warnings : List (MergeDb Uuid Json → List String)
  onDelete : String → String → OnDelete

/-- What the rows moved are counted by. -/
inductive MoveKey where
  | plain (table col : String)
  | pair (table key : String)
  | text (table col : String)
  | userRoles
  | userEmails
  | accessRules
  deriving DecidableEq

def MoveKey.name : MoveKey → String
  | .plain table col => table ++ "." ++ col
  | .pair table _ => table ++ ".user_id"
  | .text table col => table ++ "." ++ col
  | .userRoles => "user_roles.user_id"
  | .userEmails => "user_emails.user_id"
  | .accessRules => "access_rules.value"

/-- The statements of a merge: the plan's counts and warnings, the check of what was acknowledged, and what moves,
drops and rewrites the rows. -/
inductive MergeStatement (Uuid Json : Type) where
  | count (key : MoveKey)
  | warn (codes : MergeDb Uuid Json → List String)
  | acknowledge
  | move (key : MoveKey)
  | drop (key : MoveKey)
  | updateSurvivor
  | deleteAbsorbed
  | insertMerge

inductive MergeNote where
  | planned (key : MoveKey) (n : Nat)
  | warned (code : String)
  | moved (key : MoveKey) (n : Nat)
  deriving DecidableEq

def MergeNote.code : MergeNote → Option String
  | .warned code => some code
  | _ => none

/-- The survivor's profile with the absorbed account's keys where it has none. -/
def mergedProfile {Json : Type} : Profile Json → Profile Json → Profile Json
  | .object survivor, .object absorbed => .object fun key => (survivor key).or (absorbed key)
  | survivor, _ => survivor

section Merge
variable {Uuid Json : Type} [DecidableEq Uuid] [IdText Uuid]

namespace TableRow

/-- `SET col = survivor WHERE col = absorbed`. -/
def repoint (row : TableRow Uuid) (col : String) (survivor absorbed : Uuid) : TableRow Uuid :=
  if row.uuid col = some absorbed then { row with uuid := Function.update row.uuid col (some survivor) } else row

def repointText (row : TableRow Uuid) (col : String) (survivor absorbed : Uuid) : TableRow Uuid :=
  if row.text col = some (IdText.toText absorbed)
    then { row with text := Function.update row.text col (some (IdText.toText survivor)) }
  else row

/-- Another row of the table is the account's under the same key. -/
def Collides (row : TableRow Uuid) (rows : List (TableRow Uuid)) (key : String) (survivor : Uuid) : Prop :=
  ∃ other ∈ rows, other.uuid "user_id" = some survivor ∧ (row.uuid key).isSome ∧ other.uuid key = row.uuid key

instance (row : TableRow Uuid) (rows : List (TableRow Uuid)) (key : String) (survivor : Uuid) :
    Decidable (row.Collides rows key survivor) :=
  inferInstanceAs (Decidable (∃ other ∈ rows, _))

/-- It is the absorbed account's, under a key that the survivor does not hold. -/
def Movable (row : TableRow Uuid) (rows : List (TableRow Uuid)) (key : String) (survivor absorbed : Uuid) : Prop :=
  row.uuid "user_id" = some absorbed ∧ ¬ row.Collides rows key survivor

instance (row : TableRow Uuid) (rows : List (TableRow Uuid)) (key : String) (survivor absorbed : Uuid) :
    Decidable (row.Movable rows key survivor absorbed) := inferInstanceAs (Decidable (_ ∧ _))

end TableRow

namespace MergeDb

def setTable (db : MergeDb Uuid Json) (table : String) (rows : List (TableRow Uuid)) : MergeDb Uuid Json :=
  { db with tables := Function.update db.tables table rows }

def roleIds (db : MergeDb Uuid Json) (user : Uuid) : List Uuid := (db.userRoles.filter (·.1 = user)).map (·.2)

/-- An account's balance. -/
def userBalance (db : MergeDb Uuid Json) (user : Uuid) : Int :=
  (((db.tables "membership_ledger").filter fun row => row.uuid "user_id" = some user).map (·.amount)).sum

end MergeDb

namespace MergeRequest
variable (merge : MergeRequest Uuid Json)

def newRoles (db : MergeDb Uuid Json) : List Uuid :=
  (db.roleIds merge.absorbed).filter fun role => role ∉ db.roleIds merge.survivor

/-- How many rows the plan says will move. -/
def planned (db : MergeDb Uuid Json) : MoveKey → Nat
  | .plain table col => (db.tables table).countP fun row => row.uuid col = some merge.absorbed
  | .pair table key =>
    (db.tables table).countP fun row => row.Movable (db.tables table) key merge.survivor merge.absorbed
  | .text table col => (db.tables table).countP fun row => row.text col = some (IdText.toText merge.absorbed)
  | .userRoles => (merge.newRoles db).length
  | .userEmails => db.userEmails.countP fun row => row.userId = merge.absorbed
  | .accessRules => db.accessRules.countP fun row => row.IsOf merge.absorbed

/-- How many rows the statement that moves them finds. -/
def found (db : MergeDb Uuid Json) : MoveKey → Nat
  | .accessRules => db.accessRules.countP fun row => row.Moves db.accessRules merge.survivor merge.absorbed
  | key => merge.planned db key

def movePair (rows : List (TableRow Uuid)) (key : String) (row : TableRow Uuid) : TableRow Uuid :=
  if row.Movable rows key merge.survivor merge.absorbed
  then { row with uuid := Function.update row.uuid "user_id" (some merge.survivor) } else row

/-- Every address of the absorbed account becomes a secondary one of the survivor's. -/
def demote (row : UserEmail Uuid) : UserEmail Uuid :=
  if row.userId = merge.absorbed then { row with userId := merge.survivor, isPrimary := false } else row

def rewriteRule (rules : List (AccessRuleRow Uuid)) (row : AccessRuleRow Uuid) : AccessRuleRow Uuid :=
  if row.Moves rules merge.survivor merge.absorbed then row.withValue (IdText.toText merge.survivor) else row

def move (db : MergeDb Uuid Json) : MoveKey → MergeDb Uuid Json
  | .plain table col => db.setTable table ((db.tables table).map (·.repoint col merge.survivor merge.absorbed))
  | .pair table key => db.setTable table ((db.tables table).map (merge.movePair (db.tables table) key))
  | .text table col => db.setTable table ((db.tables table).map (·.repointText col merge.survivor merge.absorbed))
  | .userRoles => { db with userRoles := db.userRoles ++ (merge.newRoles db).map (merge.survivor, ·) }
  | .userEmails => { db with userEmails := db.userEmails.map merge.demote }
  | .accessRules => { db with accessRules := db.accessRules.map (merge.rewriteRule db.accessRules) }

/-- What is left of the absorbed account's rows goes. -/
def drop (db : MergeDb Uuid Json) : MoveKey → MergeDb Uuid Json
  | .pair table _ => db.setTable table ((db.tables table).filter fun row => row.uuid "user_id" ≠ some merge.absorbed)
  | .userRoles => { db with userRoles := db.userRoles.filter (·.1 ≠ merge.absorbed) }
  | .accessRules => { db with accessRules := db.accessRules.filter fun row => ¬ row.IsOf merge.absorbed }
  | _ => db

/-- The survivor's row: both profiles as they were loaded, and a renewal date if it has none. -/
def updateSurvivor (db : MergeDb Uuid Json) : MergeDb Uuid Json :=
  { db with users := Function.update db.users merge.survivor ((db.users merge.survivor).map fun user =>
      { profile := mergedProfile merge.survivorUser.profile merge.absorbedUser.profile
        membershipNextDueAt := user.membershipNextDueAt.or merge.absorbedUser.membershipNextDueAt
        tokenVersion := user.tokenVersion + 1 }) }

/-- The references of a table to accounts. -/
def references (table : String) : List String :=
  ((PLAIN.filter (·.1 = table)).map (·.2)) ++ if table ∈ UNIQUE_PAIRS.map (·.1) then ["user_id"] else []

def refersBy (action : OnDelete) (table : String) (row : TableRow Uuid) : Bool :=
  (references table).any fun col => merge.onDelete table col = action && row.uuid col = some merge.absorbed

/-- The absorbed account goes, with its roles and addresses and the rows that go with it. -/
def deleteAbsorbed (db : MergeDb Uuid Json) : MergeDb Uuid Json where
  users := Function.update db.users merge.absorbed none
  userRoles := db.userRoles.filter (·.1 ≠ merge.absorbed)
  userEmails := db.userEmails.filter (·.userId ≠ merge.absorbed)
  accessRules := db.accessRules
  tables table := ((db.tables table).filter fun row => !merge.refersBy .cascade table row).map fun row =>
    { row with uuid := fun col =>
        if col ∈ references table ∧ merge.onDelete table col = .setNull ∧
          row.uuid col = some merge.absorbed then none else row.uuid col }

def insertMerge (db : MergeDb Uuid Json) : MergeDb Uuid Json :=
  db.setTable "user_merges" (db.tables "user_merges" ++ [{
    uuid := fun col => if col = "survivor_id" then some merge.survivor
      else if col = "absorbed_id" then some merge.absorbed else if col = "actor_id" then some merge.actor else none
    text := fun _ => none
    amount := 0 }])

def statements : Statements (MergeStatement Uuid Json) (MergeDb Uuid Json) MergeNote where
  passes q db notes :=
    match q with
    | .acknowledge => (notes.filterMap MergeNote.code).toFinset = merge.acknowledged.toFinset
    | .deleteAbsorbed => (db.users merge.absorbed).isSome &&
        (PLAIN.map (·.1) ++ UNIQUE_PAIRS.map (·.1)).all fun table => (db.tables table).all fun row =>
          !merge.refersBy .restrict table row
    | .insertMerge => (db.users merge.survivor).isSome
    | _ => true
  change q db :=
    match q with
    | .move key => merge.move db key
    | .drop key => merge.drop db key
    | .updateSurvivor => merge.updateSurvivor db
    | .deleteAbsorbed => merge.deleteAbsorbed db
    | .insertMerge => merge.insertMerge db
    | .count _ | .warn _ | .acknowledge => db
  notes q db :=
    match q with
    | .count key => [.planned key (merge.planned db key)]
    | .warn codes => (codes db).map .warned
    | .move key => [.moved key (merge.found db key)]
    | _ => []

def plan : List (MergeStatement Uuid Json) :=
  PLAIN.map (fun (table, col) => .count (.plain table col)) ++
    UNIQUE_PAIRS.map (fun (table, key) => .count (.pair table key)) ++
      TEXT_REFS.map (fun (table, col) => .count (.text table col)) ++
      [.count .userRoles, .count .userEmails, .count .accessRules] ++ merge.warnings.map .warn

/-- What re-points, drops and rewrites the rows that refer to the accounts. -/
def moves : List (MergeStatement Uuid Json) :=
  [.move .userRoles, .drop .userRoles] ++
    UNIQUE_PAIRS.flatMap (fun (table, key) => [.move (.pair table key), .drop (.pair table key)]) ++
    PLAIN.map (fun (table, col) => .move (.plain table col)) ++
      TEXT_REFS.map (fun (table, col) => .move (.text table col)) ++
        [.move .accessRules, .drop .accessRules, .move .userEmails]

def execute (others : Nat → MergeDb Uuid Json → Option (MergeDb Uuid Json)) (db : MergeDb Uuid Json) :
    Option (MergeDb Uuid Json × List MergeNote) :=
  merge.statements.run others 0
    (merge.plan ++ [.acknowledge] ++ moves ++ [.updateSurvivor, .deleteAbsorbed, .insertMerge]) (db, [])

end MergeRequest

/-- Row counts by name, where there are any. -/
def rowCounts (counts : List (MoveKey × Nat)) : Table String Nat :=
  counts.foldl (fun t count => if 0 < count.2 then t.insert count.1.name count.2 else t) .empty

def MergeNote.plannedCount : MergeNote → Option (MoveKey × Nat)
  | .planned key n => some (key, n)
  | _ => none

def MergeNote.movedCount : MergeNote → Option (MoveKey × Nat)
  | .moved key n => some (key, n)
  | _ => none

/-- The counts that the plan lists. -/
def plannedMoves (notes : List MergeNote) : Table String Nat := rowCounts (notes.filterMap MergeNote.plannedCount)

/-- The counts that the outcome lists. -/
def movedRows (notes : List MergeNote) : Table String Nat := rowCounts (notes.filterMap MergeNote.movedCount)

end Merge

end CoopSpaces
