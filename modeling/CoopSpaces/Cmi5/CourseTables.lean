import CoopSpaces.Cmi5.Validation
import CoopSpaces.Lib.OrderBy

namespace CoopSpaces.Cmi5

/-- `as i32` of an index. -/
def asI32 (index : Nat) : Int := (index : Int).bmod (2 ^ 32)

/-- The first localized string's value, if any. -/
def firstLang (strings : List LangString) : Option String := strings.head?.map LangString.value

structure Cmi5Course (Uuid : Type) where
  id : Uuid
  courseIri : String
  title : Option String
  description : Option String
  contentPath : Uuid
  manifestXml : String
  importedBy : Option Uuid
deriving DecidableEq

structure NewCmi5Block (Uuid : Type) where
  courseId : Uuid
  parentBlockId : Option Uuid
  blockIri : Option String
  title : Option String
  position : Int
deriving DecidableEq

structure Cmi5Block (Uuid : Type) extends NewCmi5Block Uuid where
  id : Uuid
deriving DecidableEq

structure NewCmi5AssignableUnit (Uuid Score : Type) where
  courseId : Uuid
  blockId : Option Uuid
  auIri : String
  title : Option String
  launchUrl : String
  launchParameters : Option String
  launchMethod : Option String
  moveOn : String
  masteryScore : Option Score
  position : Int
  trainingStepId : Option Uuid
deriving DecidableEq

structure Cmi5AssignableUnit (Uuid Score : Type) extends NewCmi5AssignableUnit Uuid Score where
  id : Uuid
deriving DecidableEq

/-- The tables an import writes, with the constraints on units that reads rely on. -/
structure CourseTables (Uuid Score : Type) where
  courses : List (Cmi5Course Uuid)
  blocks : List (Cmi5Block Uuid)
  units : List (Cmi5AssignableUnit Uuid Score)
  owned : ∀ unit ∈ units, ∃ course ∈ courses, course.id = unit.courseId
  unique : (units.map fun unit => (unit.courseId, unit.auIri)).Nodup

/-- The database as a transaction meets it: whether there is a connection for it, the id it draws
for the row of each of its statements, whether it takes the statement at all, and the commit. -/
structure Backend (Uuid : Type) where
  noConnection : Option String
  genRandomUuid : Nat → Uuid
  takes : Nat → Bool
  commits : Bool

/-- What a transaction has written, and how many statements it has sent. -/
structure Writing (Uuid Score : Type) where
  tables : CourseTables Uuid Score
  sent : Nat

variable {Uuid Score : Type} [DecidableEq Uuid]

namespace Writing

def insertCourse (db : Backend Uuid) (row : Cmi5Course Uuid) (w : Writing Uuid Score) :
    Except DieselError (Writing Uuid Score) :=
  if db.takes w.sent then
    if row.id ∈ w.tables.courses.map (·.id) then .error (.refused .uniqueViolation)
    else .ok
      { tables := { w.tables with
          courses := w.tables.courses ++ [row]
          owned := fun unit there => by
            obtain ⟨course, inCourses, same⟩ := w.tables.owned unit there
            exact ⟨course, List.mem_append_left _ inCourses, same⟩ }
        sent := w.sent + 1 }
  else .error .failed

def insertBlock (db : Backend Uuid) (row : NewCmi5Block Uuid) (w : Writing Uuid Score) :
    Except DieselError (Writing Uuid Score × Cmi5Block Uuid) :=
  if db.takes w.sent then
    let block := { row with id := db.genRandomUuid w.sent : Cmi5Block Uuid }
    if block.id ∈ w.tables.blocks.map (·.id) then .error (.refused .uniqueViolation)
    else if row.courseId ∈ w.tables.courses.map (·.id) then
      .ok ({ tables := { w.tables with blocks := w.tables.blocks ++ [block] }, sent := w.sent + 1 }, block)
    else .error (.refused .foreignKeyViolation)
  else .error .failed

def insertUnit (db : Backend Uuid) (row : NewCmi5AssignableUnit Uuid Score) (w : Writing Uuid Score) :
    Except DieselError (Writing Uuid Score) :=
  if db.takes w.sent then
    let unit := { row with id := db.genRandomUuid w.sent : Cmi5AssignableUnit Uuid Score }
    if unit.id ∈ w.tables.units.map (·.id) then .error (.refused .uniqueViolation)
    else if taken : (row.courseId, row.auIri) ∈ w.tables.units.map (fun unit => (unit.courseId, unit.auIri)) then
      .error (.refused .uniqueViolation)
    else if known : row.courseId ∈ w.tables.courses.map (·.id) then
      .ok
        { tables := { w.tables with
            units := w.tables.units ++ [unit]
            owned := fun other there => by
              rcases List.mem_append.mp there with old | new
              · exact w.tables.owned other old
              · obtain rfl := List.mem_singleton.mp new
                exact List.mem_map.mp known
            unique := by
              rw [List.map_append, List.nodup_append]
              refine ⟨w.tables.unique, List.nodup_singleton _, ?_⟩
              rintro pair old _ new rfl
              exact taken ((List.mem_singleton.mp new : pair = (row.courseId, row.auIri)) ▸ old) }
          sent := w.sent + 1 }
    else .error (.refused .foreignKeyViolation)
  else .error .failed

end Writing

mutual

def Node.insert (db : Backend Uuid) (courseId : Uuid) (blockId : Option Uuid) (index : Nat) :
    Node Score → Writing Uuid Score → Except DieselError (Writing Uuid Score)
  | .au au, w =>
    w.insertUnit db
      { courseId, blockId
        auIri := au.id
        title := firstLang au.title
        launchUrl := au.url
        launchParameters := au.launchParameters
        launchMethod := au.launchMethod.map LaunchMethod.asStr
        moveOn := au.moveOn.asStr
        masteryScore := au.masteryScore
        position := asI32 index
        trainingStepId := none }
  | .block ⟨id, title, _, _, children⟩, w => do
    let (w, inserted) ← w.insertBlock db
      { courseId
        parentBlockId := blockId
        blockIri := some id
        title := firstLang title
        position := asI32 index }
    Cmi5.insertNodes db courseId (some inserted.id) 0 children w

/-- The nodes are numbered among their siblings, here from the index given. -/
def insertNodes (db : Backend Uuid) (courseId : Uuid) (blockId : Option Uuid) (index : Nat) :
    List (Node Score) → Writing Uuid Score → Except DieselError (Writing Uuid Score)
  | [], w => .ok w
  | node :: rest, w => do
    let w ← node.insert db courseId blockId index w
    Cmi5.insertNodes db courseId blockId (index + 1) rest w

end

/-- The transaction of an import: the tables as it leaves them when it commits. -/
def CourseTables.persist (tables : CourseTables Uuid Score) (db : Backend Uuid) (courseId : Uuid) (importedBy : Uuid)
    (manifestXml : String) (cs : CourseStructure Score) :
    Except DieselError (CourseTables Uuid Score × Cmi5Course Uuid) := do
  let row : Cmi5Course Uuid :=
    { id := courseId
      courseIri := cs.course.id
      title := firstLang cs.course.title
      description := firstLang cs.course.description
      contentPath := courseId
      manifestXml
      importedBy := some importedBy }
  let w ← Writing.insertCourse db row { tables, sent := 0 }
  let w ← insertNodes db courseId none 0 cs.nodes w
  if db.commits then .ok (w.tables, row) else .error .failed

/-- The lists that may come back for the AUs of a course: its rows by position. -/
def CourseTables.ListAus (tables : CourseTables Uuid Score) (courseId : Uuid)
    (listed : List (Cmi5AssignableUnit Uuid Score)) :
    Prop :=
  OrderedBy (·.position) (tables.units.filter fun unit => unit.courseId = courseId) listed

end CoopSpaces.Cmi5
