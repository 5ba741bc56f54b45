import CoopSpaces.Server.UserMerge

namespace CoopSpaces

section
variable {Uuid Json : Type} [DecidableEq Uuid] [IdText Uuid]

def textColumns (table : String) : List String := (TEXT_REFS.filter (·.1 = table)).map (·.2)

namespace MergeRequest
variable (merge : MergeRequest Uuid Json)

/-- A row of the table refers to one of the two accounts. -/
def mineRow (table : String) (row : TableRow Uuid) : Bool :=
  ((references table).any fun col => row.uuid col = some merge.survivor || row.uuid col = some merge.absorbed) ||
    (textColumns table).any fun col =>
      row.text col = some (IdText.toText merge.survivor) || row.text col = some (IdText.toText merge.absorbed)

def mineUser (user : Uuid) : Bool := user = merge.survivor || user = merge.absorbed

/-- The two accounts, and what refers to them. -/
def mine (db : MergeDb Uuid Json) : MergeDb Uuid Json where
  users user := if merge.mineUser user then db.users user else none
  userRoles := db.userRoles.filter fun row => merge.mineUser row.1
  userEmails := db.userEmails.filter fun row => merge.mineUser row.userId
  accessRules := db.accessRules.filter fun row => row.IsOf merge.survivor || row.IsOf merge.absorbed
  tables table := (db.tables table).filter (merge.mineRow table)

variable {merge} {db : MergeDb Uuid Json} {table col key : String}

theorem mem_references {table col : String} : col ∈ references table ↔
    (table, col) ∈ PLAIN ∨ table ∈ UNIQUE_PAIRS.map (·.1) ∧ col = "user_id" := by
  unfold references
  rw [List.mem_append]
  refine or_congr ?_ ?_
  · simp only [List.mem_map, List.mem_filter, decide_eq_true_eq]
    constructor
    · rintro ⟨⟨t, c⟩, ⟨there, rfl⟩, rfl⟩
      exact there
    · intro there
      exact ⟨_, ⟨there, rfl⟩, rfl⟩
  · split
    · rename_i pair
      rw [List.mem_singleton, and_iff_right pair]
    · rename_i single
      exact iff_of_false List.not_mem_nil fun both => single both.1

theorem mem_textColumns {table col : String} : col ∈ textColumns table ↔ (table, col) ∈ TEXT_REFS := by
  unfold textColumns
  simp only [List.mem_map, List.mem_filter, decide_eq_true_eq]
  constructor
  · rintro ⟨⟨t, c⟩, ⟨there, rfl⟩, rfl⟩
    exact there
  · intro there
    exact ⟨_, ⟨there, rfl⟩, rfl⟩

theorem mineRow_of_uuid {row : TableRow Uuid} {user : Uuid} (tracked : col ∈ references table)
    (refers : row.uuid col = some user)
    (own : merge.mineUser user = true) : merge.mineRow table row = true := by
  rw [mineRow, Bool.or_eq_true, List.any_eq_true]
  refine .inl ⟨col, tracked, ?_⟩
  rw [mineUser, Bool.or_eq_true, decide_eq_true_eq, decide_eq_true_eq] at own
  rcases own with rfl | rfl
  · simp [refers]
  · simp [refers]

theorem mineRow_of_text {row : TableRow Uuid} {user : Uuid} (tracked : col ∈ textColumns table)
    (refers : row.text col = some (IdText.toText user)) (own : merge.mineUser user = true) :
    merge.mineRow table row = true := by
  rw [mineRow, Bool.or_eq_true, List.any_eq_true (l := textColumns table)]
  refine .inr ⟨col, tracked, ?_⟩
  rw [mineUser, Bool.or_eq_true, decide_eq_true_eq, decide_eq_true_eq] at own
  rcases own with rfl | rfl
  · simp [refers]
  · simp [refers]

omit [IdText Uuid] in
theorem mineUser_survivor : merge.mineUser merge.survivor = true := by simp [mineUser]

omit [IdText Uuid] in
theorem mineUser_absorbed : merge.mineUser merge.absorbed = true := by simp [mineUser]

theorem mineRow_repoint (tracked : col ∈ references table) (row : TableRow Uuid) :
    merge.mineRow table (row.repoint col merge.survivor merge.absorbed) = merge.mineRow table row := by
  unfold TableRow.repoint
  split
  · rename_i refers
    rw [mineRow_of_uuid tracked refers mineUser_absorbed]
    exact mineRow_of_uuid tracked (Function.update_self _ _ _) mineUser_survivor
  · rfl

theorem mineRow_repointText (tracked : col ∈ textColumns table) (row : TableRow Uuid) :
    merge.mineRow table (row.repointText col merge.survivor merge.absorbed) = merge.mineRow table row := by
  unfold TableRow.repointText
  split
  · rename_i refers
    rw [mineRow_of_text tracked refers mineUser_absorbed]
    exact mineRow_of_text tracked (Function.update_self _ _ _) mineUser_survivor
  · rfl

theorem mineRow_movePair (pair : (table, key) ∈ UNIQUE_PAIRS) (rows : List (TableRow Uuid)) (row : TableRow Uuid) :
    merge.mineRow table (merge.movePair rows key row) = merge.mineRow table row := by
  have tracked : "user_id" ∈ references table := mem_references.mpr (.inr ⟨List.mem_map_of_mem pair, rfl⟩)
  unfold movePair
  split
  · rename_i movable
    rw [mineRow_of_uuid tracked movable.1 mineUser_absorbed]
    exact mineRow_of_uuid tracked (Function.update_self "user_id" (some merge.survivor) row.uuid) mineUser_survivor
  · rfl

theorem collides_mine (pair : (table, key) ∈ UNIQUE_PAIRS) {rows : List (TableRow Uuid)} {row : TableRow Uuid} :
    row.Collides (rows.filter (merge.mineRow table)) key merge.survivor ↔ row.Collides rows key merge.survivor := by
  have tracked : "user_id" ∈ references table := mem_references.mpr (.inr ⟨List.mem_map_of_mem pair, rfl⟩)
  constructor
  · rintro ⟨other, there, same⟩
    exact ⟨other, (List.mem_filter.mp there).1, same⟩
  · rintro ⟨other, there, own, same⟩
    exact ⟨other, List.mem_filter.mpr ⟨there, mineRow_of_uuid tracked own mineUser_survivor⟩, own, same⟩

theorem movable_mine (pair : (table, key) ∈ UNIQUE_PAIRS) {rows : List (TableRow Uuid)} {row : TableRow Uuid} :
    row.Movable (rows.filter (merge.mineRow table)) key merge.survivor merge.absorbed ↔
      row.Movable rows key merge.survivor merge.absorbed :=
  and_congr_right fun _ => not_congr (collides_mine pair)

theorem mine_setTable (rows : List (TableRow Uuid)) :
    merge.mine (db.setTable table rows) = (merge.mine db).setTable table (rows.filter (merge.mineRow table)) := by
  have tables : (merge.mine (db.setTable table rows)).tables =
      ((merge.mine db).setTable table (rows.filter (merge.mineRow table))).tables := by
    funext other
    simp only [mine, MergeDb.setTable, Function.update_apply]
    split
    · rename_i same
      rw [same]
    · rfl
  simp only [mine, MergeDb.setTable, MergeDb.mk.injEq, true_and] at tables ⊢
  exact tables

theorem filter_map_of_keeps {A : Type} {keep : A → Bool} {f : A → A} (keeps : ∀ x, keep (f x) = keep x) (l : List A) :
    (l.map f).filter keep = (l.filter keep).map f := by
  rw [List.filter_map]
  congr 1
  exact List.filter_congr fun x _ => keeps x

/-- The keys of what a merge moves. -/
def moveKeys : List MoveKey :=
  [.userRoles] ++ UNIQUE_PAIRS.map (fun pair => .pair pair.1 pair.2) ++ PLAIN.map (fun ref => .plain ref.1 ref.2) ++
    TEXT_REFS.map (fun ref => .text ref.1 ref.2) ++ [.accessRules, .userEmails]

theorem plain_mem : .plain table col ∈ moveKeys ↔ (table, col) ∈ PLAIN := by
  simp [moveKeys]

theorem pair_mem : .pair table key ∈ moveKeys ↔ (table, key) ∈ UNIQUE_PAIRS := by
  simp [moveKeys]

theorem text_mem : .text table col ∈ moveKeys ↔ (table, col) ∈ TEXT_REFS := by
  simp [moveKeys]

theorem roleIds_mine {user : Uuid} (own : merge.mineUser user = true) :
    (merge.mine db).roleIds user = db.roleIds user := by
  rw [MergeDb.roleIds, MergeDb.roleIds, mine, List.filter_filter]
  congr 1
  refine List.filter_congr fun row _ => ?_
  by_cases same : row.1 = user
  · simp [same, own]
  · simp [same]

theorem newRoles_mine : merge.newRoles (merge.mine db) = merge.newRoles db := by
  rw [newRoles, newRoles, roleIds_mine mineUser_absorbed, roleIds_mine mineUser_survivor]

omit [DecidableEq Uuid] in
theorem moves_mine {row : AccessRuleRow Uuid} {rules : List (AccessRuleRow Uuid)} :
    row.Moves (rules.filter fun row => row.IsOf merge.survivor || row.IsOf merge.absorbed) merge.survivor
      merge.absorbed ↔
      row.Moves rules merge.survivor merge.absorbed := by
  refine and_congr_right fun _ =>
    ⟨fun alone other there twin => ?_, fun alone other there => alone other (List.mem_filter.mp there).1⟩
  exact alone other (List.mem_filter.mpr ⟨there, by simp [twin.2.1]⟩) twin

/-- What moves under a key is the accounts' own. -/
theorem move_mine {moved : MoveKey} (listed : moved ∈ moveKeys) :
    merge.mine (merge.move db moved) = merge.move (merge.mine db) moved := by
  cases moved with
  | plain table col =>
    have tracked : col ∈ references table := mem_references.mpr (.inl (plain_mem.mp listed))
    rw [move, move, mine_setTable, filter_map_of_keeps (mineRow_repoint tracked)]
    rfl
  | pair table key =>
    have pair := pair_mem.mp listed
    rw [move, move, mine_setTable, filter_map_of_keeps (mineRow_movePair pair _)]
    congr 1
    refine List.map_congr_left fun row _ => ?_
    unfold movePair
    exact (if_congr (movable_mine pair) rfl rfl).symm
  | text table col =>
    have tracked : col ∈ textColumns table := mem_textColumns.mpr (text_mem.mp listed)
    rw [move, move, mine_setTable, filter_map_of_keeps (mineRow_repointText tracked)]
    rfl
  | userRoles =>
    have added : ((merge.newRoles db).map (merge.survivor, ·)).filter (fun row => merge.mineUser row.1) =
        (merge.newRoles db).map (merge.survivor, ·) := by
      refine List.filter_eq_self.mpr fun row there => ?_
      obtain ⟨role, -, rfl⟩ := List.mem_map.mp there
      exact mineUser_survivor
    simp only [move, newRoles_mine]
    simp only [mine, List.filter_append, added]
  | userEmails =>
    simp only [move, mine]
    rw [filter_map_of_keeps]
    intro row
    unfold demote
    split
    · rename_i own
      rw [own, mineUser_absorbed]
      exact mineUser_survivor
    · rfl
  | accessRules =>
    simp only [move, mine]
    rw [filter_map_of_keeps]
    · congr 1
      refine List.map_congr_left fun row _ => ?_
      unfold rewriteRule
      exact (if_congr moves_mine rfl rfl).symm
    · intro row
      unfold rewriteRule
      split
      · rename_i moves
        have before : (decide (row.IsOf merge.survivor) || decide (row.IsOf merge.absorbed)) = true := by
          simp [moves.1]
        have after : (row.withValue (IdText.toText merge.survivor)).IsOf merge.survivor := ⟨moves.1.1, rfl⟩
        rw [before]
        simp [after]
      · rfl

theorem drop_mine {moved : MoveKey} : merge.mine (merge.drop db moved) = merge.drop (merge.mine db) moved := by
  cases moved with
  | pair table key =>
    rw [drop, drop, mine_setTable, List.filter_comm]
    rfl
  | userRoles =>
    simp only [drop, mine]
    rw [List.filter_comm]
  | accessRules =>
    simp only [drop, mine]
    rw [List.filter_comm]
  | plain | text | userEmails => rfl

theorem updateSurvivor_mine : merge.mine (merge.updateSurvivor db) = merge.updateSurvivor (merge.mine db) := by
  simp only [updateSurvivor, mine, MergeDb.mk.injEq, and_true]
  funext user
  simp only [Function.update_apply]
  by_cases own : user = merge.survivor
  · rw [if_pos own, if_pos own, own, mineUser_survivor, if_pos rfl, if_pos rfl]
  · rw [if_neg own, if_neg own]

theorem countP_filter_of_imp {A : Type} {p keep : A → Bool} (l : List A) (kept : ∀ x, p x = true → keep x = true) :
    (l.filter keep).countP p = l.countP p := by
  rw [List.countP_filter]
  refine List.countP_congr fun x _ => ?_
  rw [Bool.and_eq_true]
  exact ⟨And.left, fun here => ⟨here, kept x here⟩⟩

theorem planned_mine {moved : MoveKey} (listed : moved ∈ moveKeys) :
    merge.planned (merge.mine db) moved = merge.planned db moved := by
  cases moved with
  | plain table col =>
    have tracked : col ∈ references table := mem_references.mpr (.inl (plain_mem.mp listed))
    exact countP_filter_of_imp _ fun row refers =>
      mineRow_of_uuid tracked (of_decide_eq_true refers) mineUser_absorbed
  | pair table key =>
    have pair := pair_mem.mp listed
    have tracked : "user_id" ∈ references table := mem_references.mpr (.inr ⟨List.mem_map_of_mem pair, rfl⟩)
    simp only [planned, mine, movable_mine pair]
    exact countP_filter_of_imp _ fun row movable =>
      mineRow_of_uuid tracked (of_decide_eq_true movable).1 mineUser_absorbed
  | text table col =>
    have tracked : col ∈ textColumns table := mem_textColumns.mpr (text_mem.mp listed)
    exact countP_filter_of_imp _ fun row refers =>
      mineRow_of_text tracked (of_decide_eq_true refers) mineUser_absorbed
  | userRoles => exact congrArg List.length newRoles_mine
  | userEmails =>
    refine countP_filter_of_imp _ fun row own => ?_
    rw [of_decide_eq_true own]
    exact mineUser_absorbed
  | accessRules => exact countP_filter_of_imp _ fun row isOf => by simp [of_decide_eq_true isOf]

theorem found_mine {moved : MoveKey} (listed : moved ∈ moveKeys) :
    merge.found (merge.mine db) moved = merge.found db moved := by
  cases moved with
  | accessRules =>
    simp only [found, mine, moves_mine]
    exact countP_filter_of_imp _ fun row moves => by simp [(of_decide_eq_true moves).1]
  | plain | pair | text | userRoles | userEmails => exact planned_mine listed

/-- The statements that touch only what is the accounts' own. -/
def OfMine : MergeStatement Uuid Json → Prop
  | .count key | .move key => key ∈ moveKeys
  | .deleteAbsorbed | .insertMerge => False
  | _ => True

theorem change_mine {q : MergeStatement Uuid Json} (own : OfMine q) (db : MergeDb Uuid Json) :
    merge.mine (merge.statements.change q db) = merge.statements.change q (merge.mine db) := by
  cases q with
  | move key => exact move_mine own
  | drop key => exact drop_mine
  | updateSurvivor => exact updateSurvivor_mine
  | count | warn | acknowledge => rfl
  | deleteAbsorbed | insertMerge => exact own.elim

/-- What a merge notes of rows, and not of warnings. -/
def ofRows : MergeNote → Bool
  | .warned _ => false
  | _ => true

theorem notes_mine {q : MergeStatement Uuid Json} (own : OfMine q) (db : MergeDb Uuid Json) :
    (merge.statements.notes q db).filter ofRows = (merge.statements.notes q (merge.mine db)).filter ofRows := by
  cases q with
  | count key => simp only [statements, planned_mine own]
  | move key => simp only [statements, found_mine own]
  | warn codes =>
    have none_ : ∀ db : MergeDb Uuid Json, ((codes db).map MergeNote.warned).filter ofRows = [] := by
      intro db
      refine List.filter_eq_nil_iff.mpr fun note there => ?_
      obtain ⟨code, -, rfl⟩ := List.mem_map.mp there
      exact Bool.false_ne_true
    exact (none_ _).trans (none_ _).symm
  | drop | acknowledge | updateSurvivor | deleteAbsorbed | insertMerge => rfl

/-- Everything before the absorbed account is deleted. -/
def untilDelete (merge : MergeRequest Uuid Json) : List (MergeStatement Uuid Json) :=
  merge.plan ++ [.acknowledge] ++ moves ++ [.updateSurvivor]

omit [DecidableEq Uuid] [IdText Uuid] in
theorem ofMine_untilDelete : ∀ q ∈ merge.untilDelete, OfMine q := by
  intro q there
  simp only [untilDelete, plan, moves, List.mem_append, List.mem_map, List.mem_flatMap, List.mem_cons,
    List.not_mem_nil, or_false, or_assoc, Prod.exists] at there
  rcases there with ⟨t, c, there, rfl⟩ | ⟨t, k, there, rfl⟩ | ⟨t, c, there, rfl⟩ | rfl | rfl | rfl |
    ⟨codes, -, rfl⟩ | rfl | rfl | rfl |
    ⟨t, k, there, rfl | rfl⟩ | ⟨t, c, there, rfl⟩ | ⟨t, c, there, rfl⟩ | rfl | rfl | rfl | rfl
  · exact plain_mem.mpr there
  · exact pair_mem.mpr there
  · exact text_mem.mpr there
  · simp [OfMine, moveKeys]
  · simp [OfMine, moveKeys]
  · simp [OfMine, moveKeys]
  · trivial
  · trivial
  · simp [OfMine, moveKeys]
  · trivial
  · exact pair_mem.mpr there
  · trivial
  · exact plain_mem.mpr there
  · exact text_mem.mpr there
  · simp [OfMine, moveKeys]
  · trivial
  · simp [OfMine, moveKeys]
  · trivial

end MergeRequest

end

end CoopSpaces
