import CoopSpaces.Server.MergeView

namespace CoopSpaces

section
variable {Uuid Json : Type} [DecidableEq Uuid] [IdText Uuid]

namespace MergeRequest
variable {merge : MergeRequest Uuid Json} {db : MergeDb Uuid Json} {table col key : String}

/-- It is the absorbed account's, under a key that the survivor holds too. -/
def Discarded (merge : MergeRequest Uuid Json) (db : MergeDb Uuid Json) (table : String) (row : TableRow Uuid) :
    Prop :=
  row.uuid "user_id" = some merge.absorbed ∧ ∃ pair ∈ UNIQUE_PAIRS, pair.1 = table ∧
    row.Collides (db.tables table) pair.2 merge.survivor

instance (merge : MergeRequest Uuid Json) (db : MergeDb Uuid Json) (table : String) (row : TableRow Uuid) :
    Decidable (merge.Discarded db table row) := inferInstanceAs (Decidable (_ ∧ ∃ pair ∈ UNIQUE_PAIRS, _))

/-- How many rows have moved by the end. -/
def settled (merge : MergeRequest Uuid Json) (db : MergeDb Uuid Json) : MoveKey → Nat
  | .plain table col =>
    (db.tables table).countP fun row => decide (row.uuid col = some merge.absorbed) &&
      !decide (merge.Discarded db table row)
  | key => merge.found db key

/-- A statement on one table. -/
def OnTable (merge : MergeRequest Uuid Json) (table : String) (q : MergeStatement Uuid Json) : Prop :=
  ∃ f : List (TableRow Uuid) → List (TableRow Uuid), ∀ db,
    merge.statements.change q db = db.setTable table (f (db.tables table))

theorem onTable_plain (table col : String) : merge.OnTable table (.move (.plain table col)) := ⟨_, fun _ => rfl⟩

theorem onTable_text (table col : String) : merge.OnTable table (.move (.text table col)) := ⟨_, fun _ => rfl⟩

theorem onTable_pair (table key : String) : merge.OnTable table (.move (.pair table key)) :=
  ⟨fun rows => rows.map (merge.movePair rows key), fun _ => rfl⟩

theorem onTable_drop (table key : String) : merge.OnTable table (.drop (.pair table key)) :=
  ⟨fun rows => rows.filter fun row => row.uuid "user_id" ≠ some merge.absorbed, fun _ => rfl⟩

theorem OnTable.frame {q : MergeStatement Uuid Json} (on : merge.OnTable table q) (db : MergeDb Uuid Json) :
    (∀ other, other ≠ table → (merge.statements.change q db).tables other = db.tables other) ∧
      (merge.statements.change q db).users = db.users ∧ (merge.statements.change q db).userRoles = db.userRoles ∧
      (merge.statements.change q db).userEmails = db.userEmails ∧
        (merge.statements.change q db).accessRules = db.accessRules := by
  obtain ⟨f, changes⟩ := on
  rw [changes]
  exact ⟨fun other apart => Function.update_of_ne apart _ _, rfl, rfl, rfl, rfl⟩

theorem changed_frame {queries : List (MergeStatement Uuid Json)} (on : ∀ q ∈ queries, ∃ table, merge.OnTable table q)
    (db : MergeDb Uuid Json) :
    (merge.statements.changed queries db).users = db.users ∧
      (merge.statements.changed queries db).userRoles = db.userRoles ∧
        (merge.statements.changed queries db).userEmails = db.userEmails ∧
      (merge.statements.changed queries db).accessRules = db.accessRules := by
  induction queries generalizing db with
  | nil => exact ⟨rfl, rfl, rfl, rfl⟩
  | cons q rest ih =>
    obtain ⟨table, first⟩ := on q List.mem_cons_self
    obtain ⟨-, users, roles, emails, rules⟩ := first.frame db
    obtain ⟨users', roles', emails', rules'⟩ :=
      ih (fun q there => on q (List.mem_cons_of_mem _ there)) (merge.statements.change q db)
    exact ⟨users'.trans users, roles'.trans roles, emails'.trans emails, rules'.trans rules⟩

/-- The statements that move what comes once for a user and a key. -/
def pairMoves (pairs : List (String × String)) : List (MergeStatement Uuid Json) :=
  pairs.flatMap fun (table, key) => [.move (.pair table key), .drop (.pair table key)]

theorem pairMoves_cons (table key : String) (rest : List (String × String)) (db : MergeDb Uuid Json) :
    merge.statements.changed (pairMoves ((table, key) :: rest)) db =
      merge.statements.changed (pairMoves rest)
        (merge.drop (merge.move db (.pair table key)) (.pair table key)) := rfl

theorem tables_pair_other {other : String} (apart : other ≠ table) :
    (merge.drop (merge.move db (.pair table key)) (.pair table key)).tables other = db.tables other :=
  ((onTable_drop table key).frame _).1 other apart |>.trans (((onTable_pair table key).frame db).1 other apart)

theorem tables_pairMoves_of_notMem {pairs : List (String × String)} (absent : table ∉ pairs.map (·.1)) :
    (merge.statements.changed (pairMoves pairs) db).tables table = db.tables table := by
  induction pairs generalizing db with
  | nil => rfl
  | cons pair rest ih =>
    obtain ⟨other, key⟩ := pair
    rw [List.map_cons, List.mem_cons, not_or] at absent
    rw [pairMoves_cons, ih absent.2, tables_pair_other absent.1]

theorem tables_pairMoves {pairs : List (String × String)} (distinct : (pairs.map (·.1)).Nodup)
    (pair : (table, key) ∈ pairs) :
    (merge.statements.changed (pairMoves pairs) db).tables table =
      ((db.tables table).map (merge.movePair (db.tables table) key)).filter fun row =>
        row.uuid "user_id" ≠ some merge.absorbed := by
  induction pairs generalizing db with
  | nil => cases pair
  | cons first rest ih =>
    obtain ⟨other, key'⟩ := first
    rw [List.map_cons, List.nodup_cons] at distinct
    rw [pairMoves_cons]
    by_cases own : (table, key) = (other, key')
    · obtain ⟨rfl, rfl⟩ := Prod.mk.inj own
      rw [tables_pairMoves_of_notMem distinct.1]
      simp only [drop, move, MergeDb.setTable, Function.update_self]
    · have later := List.mem_of_ne_of_mem own pair
      have apart : table ≠ other := fun same => distinct.1 (List.mem_map.mpr ⟨_, later, same⟩)
      rw [ih distinct.2 later, tables_pair_other apart]

theorem noted_pairMoves {pairs : List (String × String)} (distinct : (pairs.map (·.1)).Nodup) :
    merge.statements.noted (pairMoves pairs) db =
      pairs.map fun pair => .moved (.pair pair.1 pair.2) (merge.found db (.pair pair.1 pair.2)) := by
  induction pairs generalizing db with
  | nil => rfl
  | cons first rest ih =>
    obtain ⟨table, key⟩ := first
    rw [List.map_cons, List.nodup_cons] at distinct
    have tail : merge.statements.noted (pairMoves ((table, key) :: rest)) db =
      .moved (.pair table key) (merge.found db (.pair table key)) ::
        merge.statements.noted (pairMoves rest)
          (merge.drop (merge.move db (.pair table key)) (.pair table key)) := rfl
    rw [tail, ih distinct.2, List.map_cons]
    congr 1
    refine List.map_congr_left fun pair there => ?_
    have apart : pair.1 ≠ table := fun same => distinct.1 (List.mem_map.mpr ⟨_, there, same⟩)
    simp only [found, planned, tables_pair_other apart]

theorem pairs_distinct : (UNIQUE_PAIRS.map (·.1)).Nodup := by decide

theorem plain_ne_user_id : ∀ ref ∈ PLAIN, ref.1 ∈ UNIQUE_PAIRS.map (·.1) → ref.2 ≠ "user_id" := by decide

omit [IdText Uuid] in
theorem movePair_uuid_of_ne (apart : col ≠ "user_id") (rows : List (TableRow Uuid)) (row : TableRow Uuid) :
    (merge.movePair rows key row).uuid col = row.uuid col := by
  unfold movePair
  split
  · exact Function.update_of_ne apart _ _
  · rfl

omit [IdText Uuid] in
theorem movePair_stays_iff (apart : merge.survivor ≠ merge.absorbed) {rows : List (TableRow Uuid)}
    {row : TableRow Uuid} :
    (merge.movePair rows key row).uuid "user_id" ≠ some merge.absorbed ↔
      ¬ (row.uuid "user_id" = some merge.absorbed ∧ row.Collides rows key merge.survivor) := by
  unfold movePair
  split
  · rename_i movable
    refine iff_of_true ?_ fun both => movable.2 both.2
    show Function.update row.uuid "user_id" (some merge.survivor) "user_id" ≠ some merge.absorbed
    rw [Function.update_self, ne_eq, Option.some.injEq]
    exact apart
  · rename_i fixed
    rw [TableRow.Movable, not_and, not_not] at fixed
    exact not_congr ⟨fun own => ⟨own, fixed own⟩, And.left⟩

omit [DecidableEq Uuid] [IdText Uuid] in
theorem discarded_iff (pair : (table, key) ∈ UNIQUE_PAIRS) {row : TableRow Uuid} :
    merge.Discarded db table row ↔ row.uuid "user_id" = some merge.absorbed ∧
      row.Collides (db.tables table) key merge.survivor := by
  refine and_congr_right fun _ => ⟨?_, fun collides => ⟨(table, key), pair, rfl, collides⟩⟩
  rintro ⟨⟨other, key'⟩, there, rfl, collides⟩
  obtain rfl := (Prod.mk.inj (List.inj_on_of_nodup_map pairs_distinct there pair rfl)).2
  exact collides

theorem found_plain (apart : merge.survivor ≠ merge.absorbed) (ref : (table, col) ∈ PLAIN) :
    merge.found (merge.statements.changed (pairMoves UNIQUE_PAIRS) db) (.plain table col) =
      merge.settled db (.plain table col) := by
  simp only [found, planned, settled]
  by_cases paired : table ∈ UNIQUE_PAIRS.map (·.1)
  · obtain ⟨⟨other, key⟩, pair, rfl⟩ := List.mem_map.mp paired
    rw [tables_pairMoves pairs_distinct pair, List.countP_filter, List.countP_map]
    refine List.countP_congr fun row _ => ?_
    simp only [Function.comp_apply, Bool.and_eq_true, decide_eq_true_eq, Bool.not_eq_true', decide_eq_false_iff_not,
      movePair_uuid_of_ne (plain_ne_user_id _ ref paired), movePair_stays_iff apart, discarded_iff pair]
  · rw [tables_pairMoves_of_notMem paired]
    refine List.countP_congr fun row _ => ?_
    have stays : ¬ merge.Discarded db table row := by
      rintro ⟨-, pair, there, rfl, -⟩
      exact paired (List.mem_map_of_mem there)
    simp [stays]

/-- The statements that re-point one column each. -/
def plainMoves (refs : List (String × String)) : List (MergeStatement Uuid Json) :=
  refs.map fun (table, col) => .move (.plain table col)

def textMoves (refs : List (String × String)) : List (MergeStatement Uuid Json) :=
  refs.map fun (table, col) => .move (.text table col)

omit [IdText Uuid] in
theorem repoint_text (row : TableRow Uuid) (col : String) (survivor absorbed : Uuid) :
    (row.repoint col survivor absorbed).text = row.text := by
  unfold TableRow.repoint
  split <;> rfl

omit [IdText Uuid] in
theorem repoint_amount (row : TableRow Uuid) (col : String) (survivor absorbed : Uuid) :
    (row.repoint col survivor absorbed).amount = row.amount := by
  unfold TableRow.repoint
  split <;> rfl

omit [IdText Uuid] in
theorem repoint_uuid (row : TableRow Uuid) (col other : String) (survivor absorbed : Uuid) :
    (row.repoint col survivor absorbed).uuid other =
      if other = col ∧ row.uuid other = some absorbed then some survivor else row.uuid other := by
  unfold TableRow.repoint
  split
  · rename_i refers
    show Function.update row.uuid col (some survivor) other = _
    rw [Function.update_apply]
    by_cases same : other = col
    · rw [if_pos same, if_pos ⟨same, same ▸ refers⟩]
    · rw [if_neg same, if_neg fun both => same both.1]
  · rename_i apart
    rw [if_neg]
    rintro ⟨rfl, refers⟩
    exact apart refers

theorem planned_plain_other {table' col' : String} (apart : (table', col') ≠ (table, col)) :
    merge.planned (merge.move db (.plain table col)) (.plain table' col') =
      merge.planned db (.plain table' col') := by
  simp only [planned, move, MergeDb.setTable, Function.update_apply]
  split
  · rename_i same
    subst same
    have apart' : col' ≠ col := fun same => apart (Prod.ext rfl same)
    rw [List.countP_map]
    refine List.countP_congr fun row _ => ?_
    simp only [Function.comp_apply, decide_eq_true_eq, repoint_uuid, apart', false_and, if_false]
  · rfl

theorem planned_text_after_plain {table' col' : String} :
    merge.planned (merge.move db (.plain table col)) (.text table' col') = merge.planned db (.text table' col') := by
  simp only [planned, move, MergeDb.setTable, Function.update_apply]
  split
  · rename_i same
    subst same
    rw [List.countP_map]
    refine List.countP_congr fun row _ => ?_
    simp only [Function.comp_apply, decide_eq_true_eq, repoint_text]
  · rfl

theorem planned_text_other {table' col' : String} (apart : (table', col') ≠ (table, col)) :
    merge.planned (merge.move db (.text table col)) (.text table' col') = merge.planned db (.text table' col') := by
  simp only [planned, move, MergeDb.setTable, Function.update_apply]
  split
  · rename_i same
    subst same
    have apart' : col' ≠ col := fun same => apart (Prod.ext rfl same)
    rw [List.countP_map]
    refine List.countP_congr fun row _ => ?_
    simp only [Function.comp_apply, decide_eq_true_eq]
    unfold TableRow.repointText
    split
    · have stays := Function.update_of_ne apart' (some (IdText.toText merge.survivor)) row.text
      exact Eq.congr_left stays
    · exact Iff.rfl
  · rfl

theorem noted_plainMoves {refs : List (String × String)} (distinct : refs.Nodup) :
    merge.statements.noted (plainMoves refs) db = refs.map fun ref =>
      .moved (.plain ref.1 ref.2) (merge.found db (.plain ref.1 ref.2)) := by
  induction refs generalizing db with
  | nil => rfl
  | cons first rest ih =>
    obtain ⟨fresh, distinct⟩ := List.nodup_cons.mp distinct
    have tail : merge.statements.noted (plainMoves (first :: rest)) db = .moved (.plain first.1 first.2)
      (merge.found db (.plain first.1 first.2)) ::
        merge.statements.noted (plainMoves rest) (merge.move db (.plain first.1 first.2)) := rfl
    rw [tail, ih distinct, List.map_cons]
    congr 1
    refine List.map_congr_left fun ref there => ?_
    have apart : ref ≠ first := fun same => fresh (same ▸ there)
    simp only [found, planned_plain_other apart]

theorem noted_textMoves {refs : List (String × String)} (distinct : refs.Nodup) :
    merge.statements.noted (textMoves refs) db = refs.map fun ref =>
      .moved (.text ref.1 ref.2) (merge.found db (.text ref.1 ref.2)) := by
  induction refs generalizing db with
  | nil => rfl
  | cons first rest ih =>
    obtain ⟨fresh, distinct⟩ := List.nodup_cons.mp distinct
    have tail : merge.statements.noted (textMoves (first :: rest)) db = .moved (.text first.1 first.2)
      (merge.found db (.text first.1 first.2)) ::
        merge.statements.noted (textMoves rest) (merge.move db (.text first.1 first.2)) := rfl
    rw [tail, ih distinct, List.map_cons]
    congr 1
    refine List.map_congr_left fun ref there => ?_
    have apart : ref ≠ first := fun same => fresh (same ▸ there)
    simp only [found, planned_text_other apart]

theorem planned_text_plainMoves (refs : List (String × String)) :
    merge.planned (merge.statements.changed (plainMoves refs) db) (.text table col) =
      merge.planned db (.text table col) := by
  induction refs generalizing db with
  | nil => rfl
  | cons first rest ih =>
    have tail : merge.statements.changed (plainMoves (first :: rest)) db =
        merge.statements.changed (plainMoves rest) (merge.move db (.plain first.1 first.2)) := rfl
    rw [tail, ih, planned_text_after_plain]

theorem text_unpaired : ∀ ref ∈ TEXT_REFS, ref.1 ∉ UNIQUE_PAIRS.map (·.1) := by decide

theorem plain_distinct : PLAIN.Nodup := by decide

theorem text_distinct : TEXT_REFS.Nodup := by decide

theorem onTable_pairMoves (pairs : List (String × String)) :
    ∀ q ∈ pairMoves pairs, ∃ table, merge.OnTable table q := by
  intro q there
  obtain ⟨⟨table, key⟩, -, here⟩ := List.mem_flatMap.mp there
  rcases List.mem_pair.mp here with rfl | rfl
  · exact ⟨table, onTable_pair table key⟩
  · exact ⟨table, onTable_drop table key⟩

theorem onTable_plainMoves (refs : List (String × String)) :
    ∀ q ∈ plainMoves refs, ∃ table, merge.OnTable table q := by
  intro q there
  obtain ⟨⟨table, col⟩, -, rfl⟩ := List.mem_map.mp there
  exact ⟨table, onTable_plain table col⟩

theorem onTable_textMoves (refs : List (String × String)) : ∀ q ∈ textMoves refs, ∃ table, merge.OnTable table q := by
  intro q there
  obtain ⟨⟨table, col⟩, -, rfl⟩ := List.mem_map.mp there
  exact ⟨table, onTable_text table col⟩

/-- The rows that refer to the accounts in any table, as they are left. -/
def tableMoves : List (MergeStatement Uuid Json) := pairMoves UNIQUE_PAIRS ++ plainMoves PLAIN ++ textMoves TEXT_REFS

omit [DecidableEq Uuid] [IdText Uuid] in
theorem moves_eq : (moves : List (MergeStatement Uuid Json)) =
    [.move .userRoles, .drop .userRoles] ++
      (tableMoves ++ [.move .accessRules, .drop .accessRules, .move .userEmails]) := by
  have parts : (moves : List (MergeStatement Uuid Json)) = [.move .userRoles, .drop .userRoles] ++
    pairMoves UNIQUE_PAIRS ++ plainMoves PLAIN ++ textMoves TEXT_REFS ++
      [.move .accessRules, .drop .accessRules, .move .userEmails] := rfl
  rw [parts, tableMoves]
  simp only [List.append_assoc]

variable (merge) in
theorem tableMoves_frame (db : MergeDb Uuid Json) :
    (merge.statements.changed tableMoves db).users = db.users ∧
      (merge.statements.changed tableMoves db).userRoles = db.userRoles ∧
        (merge.statements.changed tableMoves db).userEmails = db.userEmails ∧
      (merge.statements.changed tableMoves db).accessRules = db.accessRules := by
  refine changed_frame (fun q there => ?_) db
  rw [tableMoves, List.mem_append, List.mem_append] at there
  rcases there with (pair | plain) | text
  · exact onTable_pairMoves _ q pair
  · exact onTable_plainMoves _ q plain
  · exact onTable_textMoves _ q text

theorem noted_tableMoves (apart : merge.survivor ≠ merge.absorbed) :
    merge.statements.noted tableMoves db =
      UNIQUE_PAIRS.map (fun pair => .moved (.pair pair.1 pair.2) (merge.settled db (.pair pair.1 pair.2))) ++
        PLAIN.map (fun ref => .moved (.plain ref.1 ref.2) (merge.settled db (.plain ref.1 ref.2))) ++
        TEXT_REFS.map (fun ref => .moved (.text ref.1 ref.2) (merge.settled db (.text ref.1 ref.2))) := by
  have plain : PLAIN.map (fun ref => MergeNote.moved (.plain ref.1 ref.2)
      (merge.found (merge.statements.changed (pairMoves UNIQUE_PAIRS) db) (.plain ref.1 ref.2))) =
      PLAIN.map fun ref => .moved (.plain ref.1 ref.2) (merge.settled db (.plain ref.1 ref.2)) :=
    List.map_congr_left fun ref there => by rw [found_plain apart there]
  have text : TEXT_REFS.map (fun ref => MergeNote.moved (.text ref.1 ref.2)
      (merge.found (merge.statements.changed (pairMoves UNIQUE_PAIRS ++ plainMoves PLAIN) db) (.text ref.1 ref.2))) =
      TEXT_REFS.map fun ref => .moved (.text ref.1 ref.2) (merge.settled db (.text ref.1 ref.2)) := by
    refine List.map_congr_left fun ref there => ?_
    have same : (merge.statements.changed (pairMoves UNIQUE_PAIRS) db).tables ref.1 = db.tables ref.1 :=
      tables_pairMoves_of_notMem (text_unpaired ref there)
    simp only [found, settled, Statements.changed_append, planned_text_plainMoves]
    simp only [planned, same]
  rw [tableMoves, Statements.noted_append, Statements.noted_append, noted_pairMoves pairs_distinct,
    noted_plainMoves plain_distinct, noted_textMoves text_distinct, plain, text]
  rfl

/-- What is moved, in all. -/
theorem noted_moves (apart : merge.survivor ≠ merge.absorbed) :
    merge.statements.noted moves db = moveKeys.map fun key => .moved key (merge.settled db key) := by
  have first : merge.statements.noted [.move .userRoles, .drop .userRoles] db =
    [.moved .userRoles (merge.settled db .userRoles)] := rfl
  have last : ∀ after : MergeDb Uuid Json, after.userEmails = db.userEmails → after.accessRules = db.accessRules →
      merge.statements.noted [.move .accessRules, .drop .accessRules, .move .userEmails] after =
        [.moved .accessRules (merge.settled db .accessRules), .moved .userEmails (merge.settled db .userEmails)] := by
    intro after emails rules
    show [MergeNote.moved .accessRules (List.countP _ after.accessRules),
      MergeNote.moved .userEmails (List.countP _ after.userEmails)] = _
    rw [emails, rules]
    rfl
  have tables : merge.statements.noted tableMoves (merge.statements.changed [.move .userRoles, .drop .userRoles] db) =
      UNIQUE_PAIRS.map (fun pair => .moved (.pair pair.1 pair.2) (merge.settled db (.pair pair.1 pair.2))) ++
        PLAIN.map (fun ref => .moved (.plain ref.1 ref.2) (merge.settled db (.plain ref.1 ref.2))) ++
        TEXT_REFS.map (fun ref => .moved (.text ref.1 ref.2) (merge.settled db (.text ref.1 ref.2))) :=
          noted_tableMoves apart
  obtain ⟨-, -, emails, rules⟩ :=
    tableMoves_frame merge (merge.statements.changed [.move .userRoles, .drop .userRoles] db)
  rw [moves_eq, Statements.noted_append, Statements.noted_append, first, tables, last _ emails rules, moveKeys]
  simp only [List.map_append, List.map_map, List.append_assoc, List.map_cons, List.map_nil, Function.comp_def]

def planKeys : List MoveKey :=
  PLAIN.map (fun ref => .plain ref.1 ref.2) ++ UNIQUE_PAIRS.map (fun pair => .pair pair.1 pair.2) ++
    TEXT_REFS.map (fun ref => .text ref.1 ref.2) ++ [.userRoles, .userEmails, .accessRules]

theorem mem_planKeys {key : MoveKey} : key ∈ planKeys ↔ key ∈ moveKeys := by
  simp only [planKeys, moveKeys, List.mem_append, List.mem_cons, List.not_mem_nil, or_false]
  tauto

theorem names_distinct : (planKeys.map MoveKey.name).Nodup := by decide +kernel

theorem names_distinct' : (moveKeys.map MoveKey.name).Nodup := by decide +kernel

theorem changed_counts (keys : List MoveKey) (db : MergeDb Uuid Json) :
    merge.statements.changed (keys.map .count) db = db := by
  induction keys with
  | nil => rfl
  | cons key rest ih => exact ih

theorem noted_counts (keys : List MoveKey) (db : MergeDb Uuid Json) :
    merge.statements.noted (keys.map .count) db = keys.map fun key => .planned key (merge.planned db key) := by
  induction keys with
  | nil => rfl
  | cons key rest ih =>
    show MergeNote.planned key (merge.planned db key) :: merge.statements.noted (rest.map .count) db = _
    rw [ih, List.map_cons]

theorem noted_warns (merge : MergeRequest Uuid Json) (warnings : List (MergeDb Uuid Json → List String))
    (db : MergeDb Uuid Json) :
    (merge.statements.noted (warnings.map .warn) db).filter ofRows = [] ∧
      merge.statements.changed (warnings.map .warn) db = db := by
  induction warnings with
  | nil => exact ⟨rfl, rfl⟩
  | cons codes rest ih =>
    have none_ : ((codes db).map MergeNote.warned).filter ofRows = [] := by
      refine List.filter_eq_nil_iff.mpr fun note there => ?_
      obtain ⟨code, -, rfl⟩ := List.mem_map.mp there
      exact Bool.false_ne_true
    have tail : merge.statements.noted ((codes :: rest).map .warn) db =
        (codes db).map MergeNote.warned ++ merge.statements.noted (rest.map .warn) db := rfl
    rw [tail, List.filter_append, none_, List.nil_append]
    exact ih

omit [DecidableEq Uuid] [IdText Uuid] in
theorem plan_eq : merge.plan = planKeys.map .count ++ merge.warnings.map .warn := by
  rw [plan, planKeys]
  simp only [List.map_append, List.map_map]
  rfl

/-- What is noted of rows, when nobody else is there. -/
theorem noted_untilDelete (apart : merge.survivor ≠ merge.absorbed) :
    (merge.statements.noted merge.untilDelete db).filter ofRows =
      planKeys.map (fun key => .planned key (merge.planned db key)) ++
        moveKeys.map (fun key => .moved key (merge.settled db key)) := by
  obtain ⟨warns, same⟩ := noted_warns merge merge.warnings db
  have planned : ∀ keys : List MoveKey,
    (keys.map fun key => MergeNote.planned key (merge.planned db key)).filter ofRows =
      keys.map fun key => .planned key (merge.planned db key) := by
    intro keys
    refine List.filter_eq_self.mpr fun note there => ?_
    obtain ⟨key, -, rfl⟩ := List.mem_map.mp there
    rfl
  have moved : ∀ keys : List MoveKey, (keys.map fun key => MergeNote.moved key (merge.settled db key)).filter ofRows =
      keys.map fun key => .moved key (merge.settled db key) := by
    intro keys
    refine List.filter_eq_self.mpr fun note there => ?_
    obtain ⟨key, -, rfl⟩ := List.mem_map.mp there
    rfl
  have checked : merge.statements.noted [.acknowledge] db = [] ∧
    merge.statements.changed [.acknowledge] db = db := ⟨rfl, rfl⟩
  have updated : ∀ after : MergeDb Uuid Json, merge.statements.noted [.updateSurvivor] after = [] := fun _ => rfl
  rw [untilDelete, plan_eq]
  simp only [Statements.noted_append, Statements.changed_append, changed_counts, noted_counts, same,
    checked.1, checked.2, updated, List.append_nil, List.filter_append, warns, planned, noted_moves apart, moved]

/-- A row with every listed column re-pointed. -/
def repointAll (merge : MergeRequest Uuid Json) (refs : List (String × String)) (row : TableRow Uuid) :
    TableRow Uuid :=
  refs.foldl (fun row ref => row.repoint ref.2 merge.survivor merge.absorbed) row

omit [IdText Uuid] in
theorem repointAll_amount (refs : List (String × String)) (row : TableRow Uuid) :
    (merge.repointAll refs row).amount = row.amount := by
  induction refs generalizing row with
  | nil => rfl
  | cons first rest ih => exact (ih _).trans (repoint_amount _ _ _ _)

omit [IdText Uuid] in
theorem repointAll_uuid (apart : merge.survivor ≠ merge.absorbed) (refs : List (String × String))
    (row : TableRow Uuid) (col : String) :
    (merge.repointAll refs row).uuid col =
      if col ∈ refs.map (·.2) ∧ row.uuid col = some merge.absorbed then some merge.survivor else row.uuid col := by
  induction refs generalizing row with
  | nil => simp [repointAll]
  | cons first rest ih =>
    have tail : merge.repointAll (first :: rest) row =
      merge.repointAll rest (row.repoint first.2 merge.survivor merge.absorbed) := rfl
    have fixed : ¬ (some merge.survivor = some merge.absorbed) := fun same => apart (Option.some.inj same)
    have inner := repoint_uuid row first.2 col merge.survivor merge.absorbed
    rw [tail, ih]
    by_cases head : col = first.2 ∧ row.uuid col = some merge.absorbed
    · rw [if_pos head] at inner
      rw [inner, if_neg fun both => fixed both.2, if_pos ⟨List.mem_cons.mpr (.inl head.1), head.2⟩]
    · rw [if_neg head] at inner
      rw [inner]
      refine if_congr ⟨fun both => ⟨List.mem_cons_of_mem _ both.1, both.2⟩, ?_⟩ rfl rfl
      rintro ⟨listed, own⟩
      rcases List.mem_cons.mp listed with same | later
      · exact absurd ⟨same, own⟩ head
      · exact ⟨later, own⟩

theorem tables_plainMoves (refs : List (String × String)) (table : String) :
    (merge.statements.changed (plainMoves refs) db).tables table =
      (db.tables table).map (merge.repointAll (refs.filter (·.1 = table))) := by
  induction refs generalizing db with
  | nil => exact (List.map_id _).symm
  | cons first rest ih =>
    have tail : merge.statements.changed (plainMoves (first :: rest)) db =
        merge.statements.changed (plainMoves rest) (merge.move db (.plain first.1 first.2)) := rfl
    rw [tail, ih]
    by_cases own : first.1 = table
    · subst own
      have kept : (first :: rest).filter (·.1 = first.1) = first :: rest.filter (·.1 = first.1) := by simp
      rw [kept]
      simp only [move, MergeDb.setTable, Function.update_self, List.map_map]
      rfl
    · have left_ : (first :: rest).filter (·.1 = table) = rest.filter (·.1 = table) := by simp [own]
      rw [left_]
      simp only [move, MergeDb.setTable, Function.update_of_ne (Ne.symm own)]

theorem tables_textMoves (refs : List (String × String)) (table : String) :
    ∃ f : TableRow Uuid → TableRow Uuid, (∀ row, (f row).uuid = row.uuid ∧ (f row).amount = row.amount) ∧
      (merge.statements.changed (textMoves refs) db).tables table = (db.tables table).map f := by
  induction refs generalizing db with
  | nil => exact ⟨id, fun _ => ⟨rfl, rfl⟩, (List.map_id _).symm⟩
  | cons first rest ih =>
    have tail : merge.statements.changed (textMoves (first :: rest)) db =
        merge.statements.changed (textMoves rest) (merge.move db (.text first.1 first.2)) := rfl
    obtain ⟨f, keeps, tables⟩ := @ih (merge.move db (.text first.1 first.2))
    rw [tail, tables]
    by_cases own : table = first.1
    · subst own
      refine ⟨fun row => f (row.repointText first.2 merge.survivor merge.absorbed), fun row => ?_, ?_⟩
      · have unchanged : (row.repointText first.2 merge.survivor merge.absorbed).uuid = row.uuid ∧
            (row.repointText first.2 merge.survivor merge.absorbed).amount = row.amount := by
          unfold TableRow.repointText
          split
          · exact ⟨rfl, rfl⟩
          · exact ⟨rfl, rfl⟩
        exact ⟨(keeps _).1.trans unchanged.1, (keeps _).2.trans unchanged.2⟩
      · simp only [move, MergeDb.setTable, Function.update_self, List.map_map]
        rfl
    · refine ⟨f, keeps, ?_⟩
      simp only [move, MergeDb.setTable, Function.update_of_ne own]

/-- What becomes of the rows of a table that are not discarded. -/
theorem tables_tableMoves (apart : merge.survivor ≠ merge.absorbed) (db : MergeDb Uuid Json) (table : String) :
    ∃ f : TableRow Uuid → TableRow Uuid,
      (merge.statements.changed tableMoves db).tables table =
        ((merge.statements.changed (pairMoves UNIQUE_PAIRS) db).tables table).map f ∧
      (∀ row, (f row).amount = row.amount) ∧
      ∀ row col, (f row).uuid col =
        if (table, col) ∈ PLAIN ∧ row.uuid col = some merge.absorbed then some merge.survivor else row.uuid col := by
  rw [tableMoves, Statements.changed_append, Statements.changed_append]
  obtain ⟨f, keeps, tables⟩ := @tables_textMoves _ _ _ _ merge
    (merge.statements.changed (plainMoves PLAIN) (merge.statements.changed (pairMoves UNIQUE_PAIRS) db)) TEXT_REFS
      table
  refine ⟨fun row => f (merge.repointAll (PLAIN.filter (·.1 = table)) row), ?_, fun row => ?_, fun row col => ?_⟩
  · rw [tables, tables_plainMoves, List.map_map]
    rfl
  · exact (keeps _).2.trans (repointAll_amount _ _)
  · have columns : col ∈ (PLAIN.filter (·.1 = table)).map (·.2) ↔ (table, col) ∈ PLAIN := by
      simp only [List.mem_map, List.mem_filter, decide_eq_true_eq]
      constructor
      · rintro ⟨⟨t, c⟩, ⟨there, rfl⟩, rfl⟩
        exact there
      · intro there
        exact ⟨_, ⟨there, rfl⟩, rfl⟩
    rw [(keeps _).1, repointAll_uuid apart]
    exact if_congr (and_congr_left' columns) rfl rfl

/-- No row refers to the absorbed account any more. -/
def NoReference (merge : MergeRequest Uuid Json) (db : MergeDb Uuid Json) : Prop :=
  ∀ table col, col ∈ references table → ∀ row ∈ db.tables table, row.uuid col ≠ some merge.absorbed

theorem noReference_tableMoves (apart : merge.survivor ≠ merge.absorbed) (db : MergeDb Uuid Json) :
    merge.NoReference (merge.statements.changed tableMoves db) := by
  intro table col tracked row there
  obtain ⟨f, tables, -, uuids⟩ := tables_tableMoves apart db table
  rw [tables] at there
  obtain ⟨old, inOld, rfl⟩ := List.mem_map.mp there
  have fixed : ¬ (some merge.survivor = some merge.absorbed) := fun same => apart (Option.some.inj same)
  rw [uuids]
  split
  · exact fixed
  · rename_i kept
    rcases mem_references.mp tracked with plain | ⟨paired, rfl⟩
    · exact fun refers => kept ⟨plain, refers⟩
    · obtain ⟨⟨other, key⟩, pair, rfl⟩ := List.mem_map.mp paired
      rw [tables_pairMoves pairs_distinct pair] at inOld
      exact of_decide_eq_true (List.mem_filter.mp inOld).2

theorem sum_filter_or {A : Type} {p q : A → Bool} (apart : ∀ x, p x = true → q x = false) (f : A → Int) (l : List A) :
    ((l.filter fun x => p x || q x).map f).sum = ((l.filter p).map f).sum + ((l.filter q).map f).sum := by
  induction l with
  | nil => rfl
  | cons x rest ih =>
    rcases here : p x with _ | _
    · rcases there : q x with _ | _
      · simp [here, there, ih]
      · simp [here, there, ih]
        omega
    · have other := apart x here
      simp [here, other, ih]
      omega

theorem ledger_plain : ("membership_ledger", "user_id") ∈ PLAIN := by decide

theorem ledger_unpaired : "membership_ledger" ∉ UNIQUE_PAIRS.map (·.1) := by decide

/-- The survivor's balance is then that of both. -/
theorem balance_tableMoves (apart : merge.survivor ≠ merge.absorbed) (db : MergeDb Uuid Json) :
    (merge.statements.changed tableMoves db).userBalance merge.survivor = db.userBalance merge.survivor +
    db.userBalance merge.absorbed := by
  obtain ⟨f, tables, amounts, uuids⟩ := tables_tableMoves apart db "membership_ledger"
  rw [tables_pairMoves_of_notMem ledger_unpaired] at tables
  have both : (fun row : TableRow Uuid => decide (row.uuid "user_id" = some merge.survivor)) ∘ f = fun row =>
      decide (row.uuid "user_id" = some merge.survivor) || decide (row.uuid "user_id" = some merge.absorbed) := by
    funext row
    rw [Function.comp_apply, uuids]
    by_cases own : row.uuid "user_id" = some merge.absorbed
    · simp [own, ledger_plain]
    · simp [own]
  have disjoint : ∀ row : TableRow Uuid, decide (row.uuid "user_id" = some merge.survivor) = true →
      decide (row.uuid "user_id" = some merge.absorbed) = false := by
    intro row own
    rw [decide_eq_false_iff_not, of_decide_eq_true own, Option.some.injEq]
    exact apart
  rw [MergeDb.userBalance, tables, List.filter_map, List.map_map]
  have same : (fun row : TableRow Uuid => row.amount) ∘ f = (·.amount) := funext amounts
  rw [same, both, sum_filter_or disjoint]
  rfl

end MergeRequest

/-- Each count is listed under its name, if there is anything to count. -/
theorem foldl_rowCounts {keys : List MoveKey} (f : MoveKey → Nat) (t : Table String Nat) (name : String) :
    (name ∉ keys.map MoveKey.name →
        (keys.map fun key => (key, f key)).foldl
          (fun t count => if 0 < count.2 then t.insert count.1.name count.2 else t) t name = t name) ∧
      ∀ key ∈ keys, (keys.map MoveKey.name).Nodup → t key.name = none →
        (keys.map fun key => (key, f key)).foldl
          (fun t count => if 0 < count.2 then t.insert count.1.name count.2 else t) t key.name =
          if 0 < f key then some (f key) else none := by
  induction keys generalizing t name with
  | nil => exact ⟨fun _ => rfl, nofun⟩
  | cons first rest ih =>
    have step : ∀ name, name ≠ first.name →
        (if 0 < f first then t.insert first.name (f first) else t) name = t name := by
      intro name apart
      split
      · rw [Table.insert_apply, if_neg apart]
      · rfl
    refine ⟨fun absent => ?_, fun key there distinct none_ => ?_⟩
    · rw [List.map_cons, List.mem_cons, not_or] at absent
      rw [List.map_cons, List.foldl_cons, (ih _ name).1 absent.2]
      exact step name absent.1
    · obtain ⟨fresh, distinct⟩ := List.nodup_cons.mp distinct
      rw [List.map_cons, List.foldl_cons]
      by_cases own : key = first
      · subst own
        rw [(ih _ key.name).1 fresh]
        dsimp only
        split
        · rw [Table.insert_self]
        · exact none_
      · have later := List.mem_of_ne_of_mem own there
        have apart : key.name ≠ first.name := fun same => fresh (List.mem_map.mpr ⟨key, later, same⟩)
        exact (ih _ name).2 key later distinct ((step _ apart).trans none_)

/-- Two lists of counts of the same keys agree exactly when every count does. -/
theorem rowCounts_eq_iff {keys others : List MoveKey} (distinct : (keys.map MoveKey.name).Nodup)
    (distinct' : (others.map MoveKey.name).Nodup)
    (same : ∀ key, key ∈ keys ↔ key ∈ others) (f g : MoveKey → Nat) :
    rowCounts (keys.map fun key => (key, f key)) = rowCounts (others.map fun key => (key, g key)) ↔
      ∀ key ∈ keys, f key = g key := by
  have listed : ∀ key ∈ keys,
      rowCounts (keys.map fun key => (key, f key)) key.name = if 0 < f key then some (f key) else none :=
    fun key there => (foldl_rowCounts f .empty key.name).2 key there distinct rfl
  have listed' : ∀ key ∈ others,
      rowCounts (others.map fun key => (key, g key)) key.name = if 0 < g key then some (g key) else none :=
    fun key there => (foldl_rowCounts g .empty key.name).2 key there distinct' rfl
  constructor
  · intro agree key there
    have counts := listed key there
    rw [agree, listed' key ((same key).mp there)] at counts
    split at counts
    · split at counts
      · exact (Option.some.inj counts).symm
      · cases counts
    · split at counts
      · cases counts
      · omega
  · intro agree
    ext name
    by_cases there : name ∈ keys.map MoveKey.name
    · obtain ⟨key, here, rfl⟩ := List.mem_map.mp there
      rw [listed key here, listed' key ((same key).mp here), agree key here]
    · have absent : name ∉ others.map MoveKey.name := by
        intro inOthers
        obtain ⟨key, here, rfl⟩ := List.mem_map.mp inOthers
        exact there (List.mem_map_of_mem ((same key).mpr here))
      have left_ : rowCounts (keys.map fun key => (key, f key)) name = none := (foldl_rowCounts f .empty name).1 there
      have right_ : rowCounts (others.map fun key => (key, g key)) name = none :=
        (foldl_rowCounts g .empty name).1 absent
      rw [left_, right_]

end

end CoopSpaces
