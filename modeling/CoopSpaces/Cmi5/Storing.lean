import CoopSpaces.Cmi5.UnitOrder

namespace CoopSpaces.Cmi5
variable {Uuid Score : Type}

mutual

def Node.statements : Node Score → List (Option String)
  | .au au => [some au.id]
  | .block ⟨_, _, _, _, children⟩ => none :: Cmi5.statements children

/-- What is sent for the nodes of a course, in order: one statement for each block, and one for
each AU with its IRI. -/
def statements : List (Node Score) → List (Option String)
  | [] => []
  | node :: rest => node.statements ++ Cmi5.statements rest

end

theorem statements_au (unit : AssignableUnit Score) (rest : List (Node Score)) :
    statements (.au unit :: rest) = some unit.id :: statements rest := rfl

theorem statements_block (group : Block Score) (rest : List (Node Score)) :
    statements (.block group :: rest) = none :: (statements group.children ++ statements rest) := by
  cases group
  rfl

/-- The database takes every one of these statements, draws no id that is there already, and finds
no IRI twice in the course. -/
def Backend.TakesAll (db : Backend Uuid) (courseId : Uuid) :
    Nat → List Uuid → List Uuid → List (Uuid × String) → List (Option String) → Prop
  | _, _, _, _, [] => True
  | sent, blocks, units, iris, none :: rest =>
    db.takes sent = true ∧ db.genRandomUuid sent ∉ blocks ∧
      db.TakesAll courseId (sent + 1) (blocks ++ [db.genRandomUuid sent]) units iris rest
  | sent, blocks, units, iris, some iri :: rest =>
    db.takes sent = true ∧ db.genRandomUuid sent ∉ units ∧ (courseId, iri) ∉ iris ∧
      db.TakesAll courseId (sent + 1) blocks (units ++ [db.genRandomUuid sent]) (iris ++ [(courseId, iri)]) rest

/-- The database takes these statements after what was written. -/
def Writing.Takes (db : Backend Uuid) (courseId : Uuid) (w : Writing Uuid Score)
    (sending : List (Option String)) : Prop :=
  db.TakesAll courseId w.sent (w.tables.blocks.map (·.id)) (w.tables.units.map (·.id))
    (w.tables.units.map fun unit => (unit.courseId, unit.auIri)) sending

/-- The database takes a course under an id that is not there, with all its nodes, and commits. -/
structure Backend.Stores (db : Backend Uuid) (courseId : Uuid) (tables : CourseTables Uuid Score)
    (cs : CourseStructure Score) :
    Prop where
  fresh : courseId ∉ tables.courses.map (·.id)
  course : db.takes 0 = true
  nodes : (⟨tables, 1⟩ : Writing Uuid Score).Takes db courseId (statements cs.nodes)
  commits : db.commits = true

variable [DecidableEq Uuid] {db : Backend Uuid} {courseId : Uuid}

namespace Writing

theorem insertBlock_iff (db : Backend Uuid) (row : NewCmi5Block Uuid) {w : Writing Uuid Score}
    (of : row.courseId = courseId)
    (has : courseId ∈ w.tables.courses.map (·.id)) (rest : List (Option String)) :
    w.Takes db courseId (none :: rest) ↔
      ∃ w' block, w.insertBlock db row = .ok (w', block) ∧ courseId ∈ w'.tables.courses.map (·.id) ∧
        w'.Takes db courseId rest := by
  have known : row.courseId ∈ w.tables.courses.map (·.id) := of ▸ has
  unfold insertBlock
  constructor
  · rintro ⟨takes, fresh, after⟩
    rw [if_pos takes]
    dsimp only
    rw [if_neg fresh, if_pos known]
    refine ⟨_, _, rfl, has, ?_⟩
    rw [Takes, List.map_append]
    exact after
  · rintro ⟨w', block, done, -, after⟩
    split at done
    · dsimp only at done
      split at done
      · cases done
      next takes fresh =>
        cases done
        rw [Takes, List.map_append] at after
        exact ⟨takes, fresh, after⟩
    · cases done

theorem insertUnit_iff (row : NewCmi5AssignableUnit Uuid Score) {w : Writing Uuid Score}
    (of : row.courseId = courseId)
    (has : courseId ∈ w.tables.courses.map (·.id)) (rest : List (Option String)) :
    w.Takes db courseId (some row.auIri :: rest) ↔
      ∃ w', w.insertUnit db row = .ok w' ∧ courseId ∈ w'.tables.courses.map (·.id) ∧ w'.Takes db courseId rest := by
  obtain rfl := of
  unfold insertUnit
  constructor
  · rintro ⟨takes, fresh, new, after⟩
    rw [if_pos takes]
    dsimp only
    rw [if_neg fresh, dif_neg new, dif_pos has]
    refine ⟨_, rfl, has, ?_⟩
    rw [Takes, List.map_append, List.map_append]
    exact after
  · rintro ⟨w', done, -, after⟩
    split at done
    · dsimp only at done
      split at done
      · cases done
      next takes fresh =>
        split at done
        · cases done
        next new =>
          cases done
          rw [Takes, List.map_append, List.map_append] at after
          exact ⟨takes, fresh, new, after⟩
    · cases done

end Writing

theorem Node.insert_au_iff (blockId : Option Uuid) (index : Nat) (unit : AssignableUnit Score)
    {w : Writing Uuid Score}
    (has : courseId ∈ w.tables.courses.map (·.id)) (rest : List (Option String)) :
    w.Takes db courseId (some unit.id :: rest) ↔
      ∃ w', (Node.au unit).insert db courseId blockId index w = .ok w' ∧ courseId ∈ w'.tables.courses.map (·.id) ∧
        w'.Takes db courseId rest := by
  exact Writing.insertUnit_iff ⟨courseId, blockId, unit.id, firstLang unit.title, unit.url, unit.launchParameters,
    unit.launchMethod.map LaunchMethod.asStr, unit.moveOn.asStr, unit.masteryScore, asI32 index, none⟩ rfl has rest

/-- The nodes are written exactly when the database takes their statements, and what comes after
is taken from there. -/
theorem insertNodes_iff {nodes : List (Node Score)} (blockId : Option Uuid) (index : Nat) {w : Writing Uuid Score}
    (has : courseId ∈ w.tables.courses.map (·.id)) (rest : List (Option String)) :
    w.Takes db courseId (statements nodes ++ rest) ↔
      ∃ w', insertNodes db courseId blockId index nodes w = .ok w' ∧ courseId ∈ w'.tables.courses.map (·.id) ∧
        w'.Takes db courseId rest := by
  induction nodes using Node.induction generalizing blockId index w rest with
  | nil =>
    refine ⟨fun takes => ⟨w, rfl, has, takes⟩, ?_⟩
    rintro ⟨w', done, -, takes⟩
    cases done
    exact takes
  | au unit more ih =>
    rw [statements_au, List.cons_append]
    constructor
    · intro takes
      obtain ⟨middle, first, has', after⟩ := (Node.insert_au_iff blockId index unit has _).mp takes
      obtain ⟨w', second, there⟩ := (ih blockId (index + 1) has' rest).mp after
      refine ⟨w', ?_, there⟩
      rw [insertNodes, first]
      exact second
    · rintro ⟨w', done, there⟩
      rcases first : (Node.au unit).insert db courseId blockId index w with failure | middle
      · rw [insertNodes, first] at done
        cases done
      · rw [insertNodes, first] at done
        have has' : courseId ∈ middle.tables.courses.map (·.id) := by
          rw [(Writing.insertUnit_eq_ok first).2]
          exact has
        exact (Node.insert_au_iff blockId index unit has _).mpr
          ⟨middle, first, has', (ih blockId (index + 1) has' rest).mpr ⟨w', done, there⟩⟩
  | block group more inner ih =>
    obtain ⟨id, title, description, objectiveIds, children⟩ := group
    rw [statements_block, List.cons_append, List.append_assoc]
    have starts := Writing.insertBlock_iff db ⟨courseId, blockId, some id, firstLang title, asI32 index⟩ rfl has
    constructor
    · intro takes
      obtain ⟨started, row, head, has', after⟩ := (starts _).mp takes
      obtain ⟨middle, first, has'', after⟩ := (inner (some row.id) 0 has' _).mp after
      obtain ⟨w', second, there⟩ := (ih blockId (index + 1) has'' rest).mp after
      refine ⟨w', ?_, there⟩
      rw [insertNodes, Node.insert, head]
      simp only [bind, Except.bind, first]
      exact second
    · rintro ⟨w', done, there⟩
      rw [insertNodes, Node.insert] at done
      rcases head : w.insertBlock db ⟨courseId, blockId, some id, firstLang title, asI32 index⟩
        with failure | ⟨started, row⟩
      · rw [head] at done
        cases done
      · rw [head] at done
        have has' : courseId ∈ started.tables.courses.map (·.id) := by
          rw [(Writing.insertBlock_eq_ok head).2]
          exact has
        rcases first : insertNodes db courseId (some row.id) 0 children started with failure | middle
        · simp only [bind, Except.bind, first] at done
          cases done
        · simp only [bind, Except.bind, first] at done
          obtain ⟨rows, written⟩ := insertNodes_written first
          have has'' : courseId ∈ middle.tables.courses.map (·.id) := by
            rw [written.courses]
            exact has'
          refine (starts _).mpr ⟨started, row, head, has', ?_⟩
          exact (inner (some row.id) 0 has' _).mpr
            ⟨middle, first, has'', (ih blockId (index + 1) has'' rest).mpr ⟨w', done, there⟩⟩

theorem Writing.insertCourse_iff (db : Backend Uuid) (row : Cmi5Course Uuid) (w : Writing Uuid Score) :
    (∃ w', w.insertCourse db row = .ok w') ↔ row.id ∉ w.tables.courses.map (·.id) ∧ db.takes w.sent = true := by
  unfold insertCourse
  constructor
  · rintro ⟨w', done⟩
    split at done
    · split at done
      · cases done
      next takes fresh => exact ⟨fresh, takes⟩
    · cases done
  · rintro ⟨fresh, takes⟩
    rw [if_pos takes, if_neg fresh]
    exact ⟨_, rfl⟩

theorem Writing.insertCourse_takes {row : Cmi5Course Uuid} {w w' : Writing Uuid Score}
    (done : w.insertCourse db row = .ok w')
    (sending : List (Option String)) :
    w'.Takes db courseId sending ↔ (⟨w.tables, w.sent + 1⟩ : Writing Uuid Score).Takes db courseId sending := by
  unfold insertCourse at done
  split at done
  · split at done
    · cases done
    · cases done
      exact Iff.rfl
  · cases done

/-- The transaction commits exactly when the database stores the course. -/
theorem persist_iff {tables : CourseTables Uuid Score} {importedBy : Uuid} {manifestXml : String}
    {cs : CourseStructure Score} :
    (∃ saved, tables.persist db courseId importedBy manifestXml cs = .ok saved) ↔ db.Stores courseId tables cs := by
  unfold CourseTables.persist
  dsimp only
  generalize row :
    (⟨courseId, cs.course.id, firstLang cs.course.title, firstLang cs.course.description, courseId, manifestXml,
    some importedBy⟩ : Cmi5Course Uuid) = course
  have own : course.id = courseId := row ▸ rfl
  have head := Writing.insertCourse_iff db course ({ tables, sent := 0 } : Writing Uuid Score)
  rcases first : Writing.insertCourse db course ({ tables, sent := 0 } : Writing Uuid Score) with failure | w
  · rw [first] at head
    constructor
    · rintro ⟨saved, done⟩
      cases done
    · intro stores
      obtain ⟨w', done⟩ := head.mpr ⟨own ▸ stores.fresh, stores.course⟩
      cases done
  · obtain ⟨fresh, takes⟩ := head.mp ⟨w, first⟩
    have has : courseId ∈ w.tables.courses.map (·.id) := by
      rw [(Writing.insertCourse_eq_ok first).2.2, List.map_append, List.mem_append]
      exact .inr (List.mem_singleton.mpr own.symm)
    have nodes := (Writing.insertCourse_takes first (statements cs.nodes)).symm.trans
      (List.append_nil (statements cs.nodes) ▸ insertNodes_iff none 0 has [])
    constructor
    · rintro ⟨saved, done⟩
      rcases second : insertNodes db courseId none 0 cs.nodes w with failure | w'
      · simp only [bind, Except.bind, second] at done
        cases done
      · simp only [bind, Except.bind, second] at done
        split at done
        case isFalse => cases done
        next commits =>
          obtain ⟨rows, written⟩ := insertNodes_written second
          exact ⟨own ▸ fresh, takes, nodes.mpr ⟨w', second, written.courses ▸ has, trivial⟩, commits⟩
    · intro stores
      obtain ⟨w', second, -, -⟩ := nodes.mp stores.nodes
      simp only [bind, Except.bind, second]
      rw [if_pos stores.commits]
      exact ⟨_, rfl⟩

end CoopSpaces.Cmi5
