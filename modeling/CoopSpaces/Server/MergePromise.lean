import CoopSpaces.Server.MergeCounts

namespace CoopSpaces

theorem countP_and_not_eq_iff {A : Type} {p q : A → Bool} (l : List A) :
    l.countP (fun x => p x && !q x) = l.countP p ↔ ∀ x ∈ l, p x = true → q x = false := by
  induction l with
  | nil => exact iff_of_true rfl nofun
  | cons x rest ih =>
    have fewer : rest.countP (fun x => p x && !q x) ≤ rest.countP p := by
      refine List.countP_mono_left fun x _ both => ?_
      rw [Bool.and_eq_true] at both
      exact both.1
    rw [List.forall_mem_cons, ← ih, List.countP_cons, List.countP_cons]
    rcases here : p x with _ | _
    · simp
    · rcases there : q x with _ | _
      · simp
      · simp only [Bool.not_true, Bool.and_false, Bool.false_eq_true, if_false, if_true, reduceCtorEq,
          imp_false, not_true_eq_false, false_and, iff_false]
        omega

section
variable {Uuid Json : Type} [DecidableEq Uuid] [IdText Uuid]

namespace MergeRequest
variable (merge : MergeRequest Uuid Json)

def primaryOf (user : Uuid) (row : UserEmail Uuid) : Bool := row.userId = user && row.isPrimary

/-- What a merge promises: what is moved is what the plan lists, and nothing of either account is lost. -/
structure KeepsPromise (db after : MergeDb Uuid Json) (notes : List MergeNote) : Prop where
  counts : movedRows notes = plannedMoves notes
  balance : after.userBalance merge.survivor = db.userBalance merge.survivor + db.userBalance merge.absorbed
  roles : ∀ role, (merge.survivor, role) ∈ after.userRoles ↔ (merge.survivor, role) ∈ db.userRoles ∨
    (merge.absorbed, role) ∈ db.userRoles
  addresses : ∀ row ∈ db.userEmails, merge.mineUser row.userId = true → ∃ own ∈ after.userEmails,
    own.userId = merge.survivor ∧ own.email = row.email
  primary : ∃ row, db.userEmails.filter (primaryOf merge.survivor) = [row] ∧
    after.userEmails.filter (primaryOf merge.survivor) = [row]
  profile : ∃ survivorUser absorbedUser user, db.users merge.survivor = some survivorUser ∧
    db.users merge.absorbed = some absorbedUser ∧ after.users merge.survivor = some user ∧
      user.profile = mergedProfile survivorUser.profile absorbedUser.profile

/-- No row that is discarded refers to the absorbed account by another column, no access rule has a twin, the
survivor has one primary address, and the profiles as loaded come to what they come to as they are. -/
structure Mergeable (db : MergeDb Uuid Json) : Prop where
  discarded : ∀ ref ∈ PLAIN, ∀ row ∈ db.tables ref.1, row.uuid ref.2 = some merge.absorbed →
    ¬ merge.Discarded db ref.1 row
  twins : ∀ row ∈ db.accessRules, row.IsOf merge.absorbed → ∀ other ∈ db.accessRules, ¬ row.Twin other merge.survivor
  primary : ∃ row, db.userEmails.filter (primaryOf merge.survivor) = [row]
  profiles : ∃ survivorUser absorbedUser, db.users merge.survivor = some survivorUser ∧
    db.users merge.absorbed = some absorbedUser ∧
      mergedProfile merge.survivorUser.profile merge.absorbedUser.profile =
      mergedProfile survivorUser.profile absorbedUser.profile

variable {merge} {db : MergeDb Uuid Json}

theorem discarded_mine {table : String} {row : TableRow Uuid} : merge.Discarded (merge.mine db) table row ↔
    merge.Discarded db table row := by
  refine and_congr_right fun _ => exists_congr fun pair => and_congr_right fun there => and_congr_right fun same => ?_
  obtain ⟨other, key⟩ := pair
  subst same
  exact collides_mine there

/-- The plan counts what is moved exactly when nothing that it counts is discarded, and no rule has a twin. -/
theorem settled_eq_iff :
    (∀ key ∈ moveKeys, merge.settled (merge.mine db) key = merge.planned (merge.mine db) key) ↔
      (∀ ref ∈ PLAIN, ∀ row ∈ db.tables ref.1, row.uuid ref.2 = some merge.absorbed →
        ¬ merge.Discarded db ref.1 row) ∧
        ∀ row ∈ db.accessRules, row.IsOf merge.absorbed → ∀ other ∈ db.accessRules,
          ¬ row.Twin other merge.survivor := by
  have plain : ∀ ref ∈ PLAIN,
    (merge.settled (merge.mine db) (.plain ref.1 ref.2) = merge.planned (merge.mine db) (.plain ref.1 ref.2) ↔
      ∀ row ∈ db.tables ref.1, row.uuid ref.2 = some merge.absorbed → ¬ merge.Discarded db ref.1 row) := by
    intro ref there
    have tracked : ref.2 ∈ references ref.1 := mem_references.mpr (.inl there)
    refine (countP_and_not_eq_iff _).trans ?_
    simp only [decide_eq_true_eq, decide_eq_false_iff_not, discarded_mine]
    constructor
    · intro kept row inRows refers
      exact kept row (List.mem_filter.mpr ⟨inRows, mineRow_of_uuid tracked refers mineUser_absorbed⟩) refers
    · intro kept row inRows refers
      exact kept row (List.mem_filter.mp inRows).1 refers
  have rules : merge.settled (merge.mine db) .accessRules = merge.planned (merge.mine db) .accessRules ↔
      ∀ row ∈ db.accessRules, row.IsOf merge.absorbed → ∀ other ∈ db.accessRules,
        ¬ row.Twin other merge.survivor := by
    have parts : merge.settled (merge.mine db) .accessRules = (merge.mine db).accessRules.countP fun row =>
        decide (row.IsOf merge.absorbed) && !decide (∃ other ∈ db.accessRules, row.Twin other merge.survivor) := by
      simp only [settled, found, mine, moves_mine]
      refine List.countP_congr fun row _ => ?_
      simp only [AccessRuleRow.Moves, Bool.and_eq_true, decide_eq_true_eq, Bool.not_eq_true',
        decide_eq_false_iff_not, not_exists, not_and]
      exact decide_eq_true_iff
    rw [parts]
    refine (countP_and_not_eq_iff _).trans ?_
    simp only [decide_eq_true_eq, decide_eq_false_iff_not, not_exists, not_and]
    constructor
    · intro alone row there isOf
      exact alone row (List.mem_filter.mpr ⟨there, by simp [isOf]⟩) isOf
    · intro alone row there isOf
      exact alone row (List.mem_filter.mp there).1 isOf
  constructor
  · intro all
    exact ⟨fun ref there => (plain ref there).mp (all _ (plain_mem.mpr there)), rules.mp (all _ (by simp [moveKeys]))⟩
  · rintro ⟨discarded, twins⟩ key there
    cases key with
    | plain table col => exact (plain (table, col) (plain_mem.mp there)).mpr (discarded _ (plain_mem.mp there))
    | accessRules => exact rules.mpr twins
    | pair | text | userRoles | userEmails => rfl

/-- The counts that are listed, where nobody else touches the accounts. -/
theorem counts_eq_iff {notes : List MergeNote}
    (noted : notes.filter ofRows = planKeys.map (fun key => .planned key (merge.planned (merge.mine db) key)) ++
      moveKeys.map (fun key => .moved key (merge.settled (merge.mine db) key))) :
    movedRows notes = plannedMoves notes ↔
      ∀ key ∈ moveKeys, merge.settled (merge.mine db) key = merge.planned (merge.mine db) key := by
  have rows : ∀ f : MergeNote → Option (MoveKey × Nat), (∀ code, f (.warned code) = none) →
      notes.filterMap f = (planKeys.filterMap fun key => f (.planned key (merge.planned (merge.mine db) key))) ++
        moveKeys.filterMap fun key => f (.moved key (merge.settled (merge.mine db) key)) := by
    intro f unwarned
    have kept : notes.filterMap f = (notes.filter ofRows).filterMap f := by
      rw [List.filterMap_filter]
      refine List.filterMap_congr fun note _ => ?_
      cases note with
      | warned code => exact unwarned code
      | planned | moved => rfl
    rw [kept, noted, List.filterMap_append, List.filterMap_map, List.filterMap_map]
    rfl
  have planned : plannedMoves notes =
      rowCounts (planKeys.map fun key => (key, merge.planned (merge.mine db) key)) := by
    rw [plannedMoves, rows _ fun _ => rfl]
    simp only [MergeNote.plannedCount, List.filterMap_none, List.append_nil, List.filterMap_eq_map']
  have moved : movedRows notes = rowCounts (moveKeys.map fun key => (key, merge.settled (merge.mine db) key)) := by
    rw [movedRows, rows _ fun _ => rfl]
    simp only [MergeNote.movedCount, List.filterMap_none, List.nil_append, List.filterMap_eq_map']
  rw [planned, moved]
  exact rowCounts_eq_iff names_distinct' names_distinct (fun _ => mem_planKeys.symm) _ _

/-- What the accounts come to, when nobody else is there. -/
structure Settled (merge : MergeRequest Uuid Json) (db after : MergeDb Uuid Json) : Prop where
  unreferenced : merge.NoReference after
  balance : after.userBalance merge.survivor = db.userBalance merge.survivor + db.userBalance merge.absorbed
  roles : ∀ role, (merge.survivor, role) ∈ after.userRoles ↔ (merge.survivor, role) ∈ db.userRoles ∨
    (merge.absorbed, role) ∈ db.userRoles
  emails : after.userEmails = db.userEmails.map merge.demote
  survivor : after.users merge.survivor = (db.users merge.survivor).map fun user =>
    { profile := mergedProfile merge.survivorUser.profile merge.absorbedUser.profile
      membershipNextDueAt := user.membershipNextDueAt.or merge.absorbedUser.membershipNextDueAt
      tokenVersion := user.tokenVersion + 1 }
  absorbed : after.users merge.absorbed = db.users merge.absorbed

omit [IdText Uuid] in
theorem mem_newRoles {role : Uuid} : role ∈ merge.newRoles db ↔
    (merge.absorbed, role) ∈ db.userRoles ∧ (merge.survivor, role) ∉ db.userRoles := by
  have mem : ∀ user, role ∈ db.roleIds user ↔ (user, role) ∈ db.userRoles := by
    intro user
    simp only [MergeDb.roleIds, List.mem_map, List.mem_filter, decide_eq_true_eq]
    constructor
    · rintro ⟨⟨u, r⟩, ⟨there, rfl⟩, rfl⟩
      exact there
    · intro there
      exact ⟨_, ⟨there, rfl⟩, rfl⟩
  rw [newRoles, List.mem_filter, decide_eq_true_eq, mem, mem]

theorem settled_untilDelete (apart : merge.survivor ≠ merge.absorbed) (db : MergeDb Uuid Json) :
    Settled merge db (merge.statements.changed merge.untilDelete db) := by
  have start : merge.statements.changed (merge.plan ++ [.acknowledge]) db = db := by
    rw [Statements.changed_append, plan_eq, Statements.changed_append, changed_counts,
      (noted_warns merge merge.warnings db).2]
    rfl
  have whole : merge.statements.changed merge.untilDelete db =
    merge.updateSurvivor (merge.move (merge.drop (merge.move
      (merge.statements.changed tableMoves
        (merge.drop (merge.move db .userRoles) .userRoles)) .accessRules) .accessRules) .userEmails) := by
    rw [untilDelete, Statements.changed_append, Statements.changed_append, start, moves_eq, Statements.changed_append,
      Statements.changed_append]
    rfl
  obtain ⟨users, roles, emails, -⟩ := tableMoves_frame merge (merge.drop (merge.move db .userRoles) .userRoles)
  have unreferenced := noReference_tableMoves apart (merge.drop (merge.move db .userRoles) .userRoles)
  have balance := balance_tableMoves apart (merge.drop (merge.move db .userRoles) .userRoles)
  generalize merge.statements.changed tableMoves (merge.drop (merge.move db .userRoles) .userRoles) = after at *
  rw [whole]
  exact {
    unreferenced := unreferenced
    balance := balance
    roles := by
      intro role
      show (merge.survivor, role) ∈ after.userRoles ↔ _
      rw [roles]
      simp only [drop, move, List.mem_filter, List.mem_append, List.mem_map, Prod.mk.injEq, true_and,
        exists_eq_right, mem_newRoles, decide_eq_true_eq, ne_eq, apart, not_false_eq_true, and_true]
      constructor
      · rintro (old | ⟨new, -⟩)
        · exact .inl old
        · exact .inr new
      · rintro (old | new)
        · exact .inl old
        · by_cases there : (merge.survivor, role) ∈ db.userRoles
          · exact .inl there
          · exact .inr ⟨new, there⟩
    emails := by
      show after.userEmails.map merge.demote = _
      rw [emails]
      rfl
    survivor := by
      show Function.update after.users merge.survivor _ merge.survivor = _
      rw [Function.update_self]
      show Option.map _ (after.users merge.survivor) = _
      rw [users]
      rfl
    absorbed := by
      show Function.update after.users merge.survivor _ merge.absorbed = _
      rw [Function.update_of_ne apart.symm, users]
      rfl }

omit [IdText Uuid] in
/-- Where nothing refers to the absorbed account, its deletion takes nothing else along. -/
theorem tables_deleteAbsorbed (unreferenced : merge.NoReference db) :
    (merge.deleteAbsorbed db).tables = db.tables := by
  funext table
  have kept : (db.tables table).filter (fun row => !merge.refersBy .cascade table row) = db.tables table := by
    refine List.filter_eq_self.mpr fun row there => ?_
    rw [Bool.not_eq_true', refersBy, List.any_eq_false]
    intro col tracked
    simp [unreferenced table col tracked row there]
  show ((db.tables table).filter fun row => !merge.refersBy .cascade table row).map _ = _
  rw [kept]
  refine (List.map_congr_left fun row there => ?_).trans (List.map_id _)
  have same : (fun col => if col ∈ references table ∧ merge.onDelete table col = .setNull ∧
    row.uuid col = some merge.absorbed then none
      else row.uuid col) = row.uuid := by
    funext col
    refine if_neg fun both => ?_
    exact unreferenced table col both.1 row there both.2.2
  rw [same]
  rfl

variable {others : Nat → MergeDb Uuid Json → Option (MergeDb Uuid Json)} {after : MergeDb Uuid Json}
    {notes : List MergeNote}

/-- A merge that goes through: what is seen of the accounts before the absorbed one is deleted, when it is, and
when the merge is recorded. -/
theorem execute_cases (alone : ∀ n db db', others n db = some db' → merge.mine db' = merge.mine db)
    (ran : merge.execute others db = some (after, notes)) :
    ∃ before recorded, merge.mine before = merge.statements.changed merge.untilDelete (merge.mine db) ∧
      (before.users merge.absorbed).isSome ∧ merge.mine recorded = merge.mine (merge.deleteAbsorbed before) ∧
      (recorded.users merge.survivor).isSome ∧ after = merge.insertMerge recorded ∧
      notes.filter ofRows = (merge.statements.noted merge.untilDelete (merge.mine db)).filter ofRows := by
  have whole : merge.plan ++ [.acknowledge] ++ moves ++ [.updateSurvivor, .deleteAbsorbed, .insertMerge] =
      merge.untilDelete ++ [.deleteAbsorbed, .insertMerge] := by
    rw [untilDelete]
    simp only [List.append_assoc, List.cons_append, List.nil_append]
  rw [execute, whole, Statements.run_append] at ran
  obtain ⟨⟨first, noted⟩, ran, rest⟩ := Option.bind_eq_some_iff.mp ran
  have seen := Statements.run_view alone (fun q there db => change_mine (ofMine_untilDelete q there) db)
    (fun q there db => notes_mine (ofMine_untilDelete q there) db) ran
  obtain ⟨before, there, rest⟩ := Option.bind_eq_some_iff.mp rest
  split at rest
  swap
  · cases rest
  rename_i deletes
  obtain ⟨recorded, later, rest⟩ := Option.bind_eq_some_iff.mp rest
  split at rest
  swap
  · cases rest
  rename_i records
  obtain ⟨rfl, rfl⟩ := Prod.mk.inj (Option.some.inj rest)
  refine ⟨before, recorded, (alone _ _ _ there).trans seen.1, ?_, alone _ _ _ later, records, rfl, ?_⟩
  · exact (Bool.and_eq_true_iff.mp deletes).1
  · show (noted ++ [] ++ []).filter ofRows = _
    rw [List.append_nil, List.append_nil]
    exact seen.2

theorem users_mine {user : Uuid} (own : merge.mineUser user = true) :
    (merge.mine db).users user = db.users user := if_pos own

theorem mem_roles_mine {user role : Uuid} (own : merge.mineUser user = true) :
    (user, role) ∈ (merge.mine db).userRoles ↔ (user, role) ∈ db.userRoles := by
  rw [mine, List.mem_filter]
  exact and_iff_left own

theorem balance_mine {user : Uuid} (own : merge.mineUser user = true) :
    (merge.mine db).userBalance user = db.userBalance user := by
  have tracked : "user_id" ∈ references "membership_ledger" := mem_references.mpr (.inl ledger_plain)
  rw [MergeDb.userBalance, MergeDb.userBalance, mine, List.filter_filter]
  congr 2
  refine List.filter_congr fun row _ => ?_
  by_cases refers : row.uuid "user_id" = some user
  · simp [refers, mineRow_of_uuid tracked refers own]
  · simp [refers]

theorem primaries_mine : (merge.mine db).userEmails.filter (primaryOf merge.survivor) =
    db.userEmails.filter (primaryOf merge.survivor) := by
  rw [mine, List.filter_filter]
  refine List.filter_congr fun row _ => ?_
  by_cases own : row.userId = merge.survivor
  · simp [own, mineUser_survivor]
  · simp [primaryOf, own]

theorem noReference_of_mine (unreferenced : merge.NoReference (merge.mine db)) : merge.NoReference db := by
  intro table col tracked row there refers
  have own := mineRow_of_uuid tracked refers mineUser_absorbed
  exact unreferenced table col tracked row (List.mem_filter.mpr ⟨there, own⟩) refers

omit [IdText Uuid] in
theorem primaries_demote (apart : merge.survivor ≠ merge.absorbed) (rows : List (UserEmail Uuid)) :
    (rows.map merge.demote).filter (primaryOf merge.survivor) = rows.filter (primaryOf merge.survivor) := by
  have alike : primaryOf merge.survivor ∘ merge.demote = primaryOf merge.survivor := by
    funext row
    rw [Function.comp_apply, demote]
    split
    · rename_i own
      simp [primaryOf, own, apart.symm]
    · rfl
  rw [List.filter_map, alike]
  refine (List.map_congr_left fun row there => ?_).trans (List.map_id _)
  have primary := (List.mem_filter.mp there).2
  simp only [primaryOf, Bool.and_eq_true, decide_eq_true_eq] at primary
  rw [demote, if_neg fun own => apart (primary.1.symm.trans own)]
  rfl

theorem user_merges_ne_ledger : "membership_ledger" ≠ "user_merges" := by decide

section Recorded
variable {before recorded : MergeDb Uuid Json} (apart : merge.survivor ≠ merge.absorbed)
  (settled : Settled merge (merge.mine db) (merge.mine before))
  (same : merge.mine recorded = merge.mine (merge.deleteAbsorbed before))
include settled same

theorem balance_recorded :
    (merge.insertMerge recorded).userBalance merge.survivor = db.userBalance merge.survivor +
    db.userBalance merge.absorbed := by
  have unreferenced := noReference_of_mine settled.unreferenced
  have ledger : (merge.insertMerge recorded).userBalance merge.survivor = recorded.userBalance merge.survivor := by
    simp only [MergeDb.userBalance, insertMerge, MergeDb.setTable, Function.update_of_ne user_merges_ne_ledger]
  have deleted : (merge.deleteAbsorbed before).userBalance merge.survivor = before.userBalance merge.survivor := by
    rw [MergeDb.userBalance, tables_deleteAbsorbed unreferenced, MergeDb.userBalance]
  rw [ledger, ← balance_mine mineUser_survivor, same, balance_mine mineUser_survivor, deleted,
    ← balance_mine mineUser_survivor, settled.balance, balance_mine mineUser_survivor, balance_mine mineUser_absorbed]

include apart

theorem roles_recorded (role : Uuid) : (merge.survivor, role) ∈ recorded.userRoles ↔
    (merge.survivor, role) ∈ db.userRoles ∨ (merge.absorbed, role) ∈ db.userRoles := by
  have deleted : (merge.survivor, role) ∈ (merge.deleteAbsorbed before).userRoles ↔
      (merge.survivor, role) ∈ before.userRoles := by
    rw [deleteAbsorbed, List.mem_filter, decide_eq_true_eq]
    exact and_iff_left apart
  rw [← mem_roles_mine mineUser_survivor, same, mem_roles_mine mineUser_survivor, deleted,
    ← mem_roles_mine mineUser_survivor, settled.roles, mem_roles_mine mineUser_survivor,
      mem_roles_mine mineUser_absorbed]

theorem addresses_recorded {row : UserEmail Uuid} (there : row ∈ db.userEmails)
    (own : merge.mineUser row.userId = true) :
    ∃ own ∈ recorded.userEmails, own.userId = merge.survivor ∧ own.email = row.email := by
  have moved : (merge.demote row).userId = merge.survivor ∧ (merge.demote row).email = row.email := by
    unfold demote
    split
    · exact ⟨rfl, rfl⟩
    · rename_i other
      rw [mineUser, Bool.or_eq_true, decide_eq_true_eq, decide_eq_true_eq] at own
      exact ⟨own.resolve_right other, rfl⟩
  have inBefore : merge.demote row ∈ (merge.mine before).userEmails := by
    rw [settled.emails]
    exact List.mem_map_of_mem (List.mem_filter.mpr ⟨there, own⟩)
  have stays : decide ((merge.demote row).userId ≠ merge.absorbed) = true := by
    rw [decide_eq_true_eq, moved.1]
    exact apart
  have inDeleted : merge.demote row ∈ (merge.mine (merge.deleteAbsorbed before)).userEmails := by
    obtain ⟨inRows, mineToo⟩ := List.mem_filter.mp inBefore
    exact List.mem_filter.mpr ⟨List.mem_filter.mpr ⟨inRows, stays⟩, mineToo⟩
  rw [← same] at inDeleted
  exact ⟨_, (List.mem_filter.mp inDeleted).1, moved⟩

theorem primaries_recorded :
    recorded.userEmails.filter (primaryOf merge.survivor) = db.userEmails.filter (primaryOf merge.survivor) := by
  have deleted : (merge.deleteAbsorbed before).userEmails.filter (primaryOf merge.survivor) =
      before.userEmails.filter (primaryOf merge.survivor) := by
    rw [deleteAbsorbed, List.filter_filter]
    refine List.filter_congr fun row _ => ?_
    by_cases own : row.userId = merge.survivor
    · simp [own, apart]
    · simp [primaryOf, own]
  rw [← primaries_mine, same, primaries_mine, deleted, ← primaries_mine, settled.emails,
    primaries_demote apart, primaries_mine]

theorem survivor_recorded : recorded.users merge.survivor = (db.users merge.survivor).map fun user =>
    { profile := mergedProfile merge.survivorUser.profile merge.absorbedUser.profile
      membershipNextDueAt := user.membershipNextDueAt.or merge.absorbedUser.membershipNextDueAt
      tokenVersion := user.tokenVersion + 1 } := by
  have deleted : (merge.deleteAbsorbed before).users merge.survivor = before.users merge.survivor :=
    Function.update_of_ne apart _ _
  rw [← users_mine mineUser_survivor, same, users_mine mineUser_survivor, deleted,
    ← users_mine mineUser_survivor, settled.survivor, users_mine mineUser_survivor]

end Recorded

/-- A merge that goes through keeps its promise exactly when the accounts are such that it can, if nobody else
touches what is theirs while it runs. -/
theorem keeps_promise_iff (apart : merge.survivor ≠ merge.absorbed)
    (alone : ∀ n db db', others n db = some db' → merge.mine db' = merge.mine db)
    (ran : merge.execute others db = some (after, notes)) : merge.KeepsPromise db after notes ↔
      merge.Mergeable db := by
  obtain ⟨before, recorded, seen, inUse, same, kept, rfl, noted⟩ := execute_cases alone ran
  have settled := settled_untilDelete apart (merge.mine db)
  rw [← seen] at settled
  have counts := (counts_eq_iff (noted.trans (noted_untilDelete apart))).trans settled_eq_iff
  have primaries := primaries_recorded apart settled same
  have survivor := survivor_recorded apart settled same
  have roles (role : Uuid) : (merge.survivor, role) ∈ recorded.userRoles ↔
      (merge.survivor, role) ∈ db.userRoles ∨ (merge.absorbed, role) ∈ db.userRoles :=
        roles_recorded apart settled same role
  have addresses (row : UserEmail Uuid) (there : row ∈ db.userEmails) (own : merge.mineUser row.userId = true) :
      ∃ own ∈ recorded.userEmails, own.userId = merge.survivor ∧ own.email = row.email :=
    addresses_recorded apart settled same there own
  constructor
  · intro keeps
    obtain ⟨discarded, twins⟩ := counts.mp keeps.counts
    obtain ⟨row, primary, -⟩ := keeps.primary
    obtain ⟨survivorUser, absorbedUser, user, ofSurvivor, ofAbsorbed, ofUser, union⟩ := keeps.profile
    refine ⟨discarded, twins, ⟨row, primary⟩, survivorUser, absorbedUser, ofSurvivor, ofAbsorbed, ?_⟩
    change recorded.users merge.survivor = some user at ofUser
    rw [survivor, ofSurvivor] at ofUser
    rw [← union, ← Option.some.inj ofUser]
  · rintro ⟨discarded, twins, ⟨row, primary⟩, survivorUser, absorbedUser, ofSurvivor, ofAbsorbed, profiles⟩
    obtain ⟨user, ofUser, union⟩ : ∃ user, recorded.users merge.survivor = some user ∧
        user.profile = mergedProfile merge.survivorUser.profile merge.absorbedUser.profile := by
      rw [survivor, ofSurvivor]
      exact ⟨_, rfl, rfl⟩
    exact {
      counts := counts.mpr ⟨discarded, twins⟩
      balance := balance_recorded settled same
      roles := roles
      addresses := addresses
      primary := ⟨row, primary, primaries.trans primary⟩
      profile := ⟨survivorUser, absorbedUser, user, ofSurvivor, ofAbsorbed, ofUser, union.trans profiles⟩ }

end MergeRequest

end

section TwoAccounts

def loadedUser (fields : List (String × String)) : MergeUser String :=
  ⟨.object fun key => (fields.find? (·.1 = key)).map (·.2), none, 0⟩

def oldRow (refs : List (String × HexId)) (amount : Int) : TableRow HexId :=
  ⟨fun col => (refs.find? (·.1 = col)).map (·.2), fun _ => none, amount⟩

/-- Two accounts of one member, each with a role, an address and some dues. -/
def twoAccounts : MergeDb HexId String where
  users := fun user => if user = keptAccount then some (loadedUser [("shirt", "M")])
    else if user = oldAccount then some (loadedUser [("locker", "12")]) else none
  userRoles := [(keptAccount, .repeating 7), (oldAccount, .repeating 8)]
  userEmails := [⟨keptAccount, "kept@space.example", true, none, 0⟩, ⟨oldAccount, "old@space.example", true, none, 1⟩]
  accessRules := [denyRow (.repeating 6) oldAccount none]
  tables := fun table => if table = "membership_ledger"
    then [oldRow [("user_id", keptAccount)] 500, oldRow [("user_id", oldAccount)] (-200)] else []

def mergeAccounts (codes : List String) : MergeRequest HexId String where
  survivor := keptAccount
  absorbed := oldAccount
  survivorUser := loadedUser [("shirt", "M")]
  absorbedUser := loadedUser [("locker", "12")]
  acknowledged := codes
  actor := .repeating 9
  warnings := [fun _ => codes]
  onDelete := fun _ col => if col = "user_id" then .cascade else .setNull

/-- Nobody else is there. -/
def undisturbed (_ : Nat) (db : MergeDb HexId String) : Option (MergeDb HexId String) := some db

namespace MergeRequest

theorem keeps_promise_iff_twoAccounts : ∃ after notes,
    (mergeAccounts ["absorbed_login_lost"]).execute undisturbed twoAccounts = some (after, notes) ∧
      (mergeAccounts ["absorbed_login_lost"]).KeepsPromise twoAccounts after notes := by
  have apart : (mergeAccounts ["absorbed_login_lost"]).survivor ≠
    (mergeAccounts ["absorbed_login_lost"]).absorbed := by decide +kernel
  have alone : ∀ n db db', undisturbed n db = some db' →
      (mergeAccounts ["absorbed_login_lost"]).mine db' = (mergeAccounts ["absorbed_login_lost"]).mine db := by
    intro n db db' there
    rw [Option.some.inj there]
  have done : ((mergeAccounts ["absorbed_login_lost"]).execute undisturbed twoAccounts).isSome = true := by
    decide +kernel
  obtain ⟨⟨after, notes⟩, ran⟩ := Option.isSome_iff_exists.mp done
  refine ⟨after, notes, ran, (keeps_promise_iff apart alone ran).mpr ?_⟩
  exact {
    discarded := by decide +kernel
    twins := by decide +kernel
    primary := ⟨_, rfl⟩
    profiles := ⟨_, _, rfl, rfl, rfl⟩ }

def fieldOf (key : String) (user : MergeUser String) : Option String :=
  match user.profile with
  | .object fields => fields key
  | .other _ => none

/-- The survivor has changed its shirt size since the two were loaded. -/
def shirtChanged : MergeDb HexId String :=
  { twoAccounts with users := Function.update twoAccounts.users keptAccount (some (loadedUser [("shirt", "L")])) }

/-- Each account has a tier for the same tool; the absorbed one assigned itself its own. -/
def tierEach : MergeDb HexId String :=
  twoAccounts.setTable "tool_tier_assignments"
    [oldRow [("user_id", keptAccount), ("tool_id", sharedDoor), ("assigned_by", .repeating 9)] 0,
      oldRow [("user_id", oldAccount), ("tool_id", sharedDoor), ("assigned_by", oldAccount)] 0]

/-- Both accounts are denied the same door. -/
def bothDenied : MergeDb HexId String := { twoAccounts with accessRules := twoBans.rows }

theorem broken_of_counts {merge : MergeRequest HexId String} {db : MergeDb HexId String} (key : String)
    (differ : (merge.execute undisturbed db).any
      (fun out => decide (movedRows out.2 key ≠ plannedMoves out.2 key)) = true) :
    ∃ after notes, merge.execute undisturbed db = some (after, notes) ∧ ¬merge.KeepsPromise db after notes := by
  obtain ⟨⟨after, notes⟩, ran, different⟩ := (Option.any_eq_true _ _).mp differ
  exact ⟨after, notes, ran, fun keeps => of_decide_eq_true different (congrFun keeps.counts key)⟩

/-- What the survivor changed after it was loaded is overwritten, and the plan counts a discarded row and a rule that
has a twin. -/
theorem merge_breaks_promise :
    (∃ after notes, (mergeAccounts ["absorbed_login_lost"]).execute undisturbed shirtChanged = some (after, notes) ∧
        ¬(mergeAccounts ["absorbed_login_lost"]).KeepsPromise shirtChanged after notes) ∧
      (∃ after notes, (mergeAccounts ["duplicate_tool_tier_assignments", "absorbed_login_lost"]).execute
        undisturbed tierEach =
          some (after, notes) ∧
        ¬(mergeAccounts ["duplicate_tool_tier_assignments", "absorbed_login_lost"]).KeepsPromise tierEach after
          notes) ∧
      ∃ after notes, (mergeAccounts ["absorbed_login_lost"]).execute undisturbed bothDenied = some (after, notes) ∧
        ¬(mergeAccounts ["absorbed_login_lost"]).KeepsPromise bothDenied after notes := by
  have overwritten : ((mergeAccounts ["absorbed_login_lost"]).execute undisturbed shirtChanged).any
      (fun out => decide ((out.1.users keptAccount).bind (fieldOf "shirt") ≠ some "L")) = true := by decide +kernel
  obtain ⟨⟨after, notes⟩, ran, different⟩ := (Option.any_eq_true _ _).mp overwritten
  refine ⟨⟨after, notes, ran, ?_⟩, broken_of_counts "tool_tier_assignments.assigned_by" (by decide +kernel),
    broken_of_counts "access_rules.value" (by decide +kernel)⟩
  intro keeps
  obtain ⟨survivorUser, absorbedUser, user, ofSurvivor, ofAbsorbed, ofUser, union⟩ := keeps.profile
  refine of_decide_eq_true different ?_
  obtain rfl := Option.some.inj ofSurvivor
  obtain rfl := Option.some.inj ofAbsorbed
  have ofKept : after.users keptAccount = some user := ofUser
  rw [ofKept, Option.bind_some, fieldOf, union]
  rfl

end MergeRequest

end TwoAccounts

end CoopSpaces
