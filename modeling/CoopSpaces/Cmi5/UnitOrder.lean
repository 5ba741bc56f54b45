import CoopSpaces.Cmi5.CourseTables

namespace CoopSpaces.Cmi5
variable {Uuid Score : Type}

mutual

def Node.auIndices (index : Nat) : Node Score → List Nat
  | .au _ => [index]
  | .block ⟨_, _, _, _, children⟩ => Cmi5.auIndices 0 children

/-- Each AU's index among its own siblings, in document order. -/
def auIndices (index : Nat) : List (Node Score) → List Nat
  | [] => []
  | node :: rest => node.auIndices index ++ Cmi5.auIndices (index + 1) rest

end

@[simp] theorem auIndices_au (index : Nat) (unit : AssignableUnit Score) (rest : List (Node Score)) :
    auIndices index (.au unit :: rest) = index :: auIndices (index + 1) rest := rfl

@[simp] theorem auIndices_block (index : Nat) (group : Block Score) (rest : List (Node Score)) :
    auIndices index (.block group :: rest) = auIndices 0 group.children ++ auIndices (index + 1) rest := by
  cases group
  rfl

/-- The row holds what the manifest says of the AU. -/
structure Cmi5AssignableUnit.IsOf (row : Cmi5AssignableUnit Uuid Score) (au : AssignableUnit Score) : Prop where
  auIri : row.auIri = au.id
  title : row.title = firstLang au.title
  launchUrl : row.launchUrl = au.url
  launchParameters : row.launchParameters = au.launchParameters
  launchMethod : row.launchMethod = au.launchMethod.map LaunchMethod.asStr
  moveOn : row.moveOn = au.moveOn.asStr
  masteryScore : row.masteryScore = au.masteryScore

/-- What is written for a list of nodes: a row for each AU in document order, each with
its index among its siblings. -/
structure WrittenFor (courseId : Uuid) (before after : CourseTables Uuid Score) (units : List (AssignableUnit Score))
    (indices : List Nat) (rows : List (Cmi5AssignableUnit Uuid Score)) : Prop where
  appended : after.units = before.units ++ rows
  courses : after.courses = before.courses
  isOf : List.Forall₂ Cmi5AssignableUnit.IsOf rows units
  positions : rows.map (·.position) = indices.map asI32
  course : ∀ row ∈ rows, row.courseId = courseId

namespace WrittenFor
variable {courseId : Uuid} {before middle after : CourseTables Uuid Score} {units more : List (AssignableUnit Score)}
  {indices further : List Nat} {rows next : List (Cmi5AssignableUnit Uuid Score)}

theorem nothing (units : after.units = before.units) (courses : after.courses = before.courses) :
    WrittenFor courseId before after [] [] [] where
  appended := by rw [units, List.append_nil]
  courses := courses
  isOf := .nil
  positions := rfl
  course := by simp

theorem append (first : WrittenFor courseId before middle units indices rows)
    (second : WrittenFor courseId middle after more further next) :
    WrittenFor courseId before after (units ++ more) (indices ++ further) (rows ++ next) where
  appended := by rw [second.appended, first.appended, List.append_assoc]
  courses := second.courses.trans first.courses
  isOf := List.rel_append first.isOf second.isOf
  positions := by rw [List.map_append, first.positions, second.positions, List.map_append]
  course row there := by
    rcases List.mem_append.mp there with old | new
    · exact first.course row old
    · exact second.course row new

end WrittenFor

variable [DecidableEq Uuid] {db : Backend Uuid} {courseId : Uuid}

theorem Writing.insertBlock_eq_ok {row : NewCmi5Block Uuid} {w w' : Writing Uuid Score} {block : Cmi5Block Uuid}
    (done : w.insertBlock db row = .ok (w', block)) :
    w'.tables.units = w.tables.units ∧ w'.tables.courses = w.tables.courses := by
  unfold insertBlock at done
  split at done
  · dsimp only at done
    split at done
    · cases done
    · split at done
      · cases done
        exact ⟨rfl, rfl⟩
      · cases done
  · cases done

theorem Writing.insertUnit_eq_ok {row : NewCmi5AssignableUnit Uuid Score} {w w' : Writing Uuid Score}
    (done : w.insertUnit db row = .ok w') :
    w'.tables.units = w.tables.units ++ [{ row with id := db.genRandomUuid w.sent }] ∧
      w'.tables.courses = w.tables.courses := by
  unfold insertUnit at done
  split at done
  · dsimp only at done
    split at done
    · cases done
    · split at done
      · cases done
      · split at done
        · cases done
          exact ⟨rfl, rfl⟩
        · cases done
  · cases done

/-- Each AU of the tree gets one row, in document order. -/
theorem insertNodes_written {nodes : List (Node Score)} {blockId : Option Uuid} {index : Nat}
    {w w' : Writing Uuid Score}
    (done : insertNodes db courseId blockId index nodes w = .ok w') :
    ∃ rows, WrittenFor courseId w.tables w'.tables (collectAus nodes []) (auIndices index nodes) rows := by
  induction nodes using Node.induction generalizing blockId index w w' with
  | nil =>
    cases done
    exact ⟨[], .nothing rfl rfl⟩
  | au unit rest ih =>
    rcases first : (Node.au unit).insert db courseId blockId index w with failure | middle
    · rw [insertNodes, first] at done
      cases done
    · rw [insertNodes, first] at done
      obtain ⟨rows, written⟩ := ih done
      obtain ⟨units, courses⟩ := Writing.insertUnit_eq_ok first
      have own : WrittenFor courseId w.tables middle.tables [unit] [index] _ :=
        { appended := units
          courses
          isOf := .cons ⟨rfl, rfl, rfl, rfl, rfl, rfl, rfl⟩ .nil
          positions := by simp only [List.map_cons, List.map_nil]
          course := by simp }
      rw [collectAus_cons, auIndices_au]
      exact ⟨_, own.append written⟩
  | block group rest inner ih =>
    rcases first : (Node.block group).insert db courseId blockId index w with failure | middle
    · rw [insertNodes, first] at done
      cases done
    · rw [insertNodes, first] at done
      obtain ⟨rows, written⟩ := ih done
      obtain ⟨id, title, description, objectiveIds, children⟩ := group
      rw [Node.insert] at first
      rcases head : w.insertBlock db ⟨courseId, blockId, some id, firstLang title, asI32 index⟩
        with failure | ⟨started, row⟩
      · rw [head] at first
        cases first
      · rw [head] at first
        obtain ⟨rows', inside⟩ := inner first
        obtain ⟨units, courses⟩ := Writing.insertBlock_eq_ok head
        have block : WrittenFor courseId w.tables started.tables [] [] [] := .nothing units courses
        have own := block.append inside
        rw [collectAus_cons, auIndices_block]
        exact ⟨_, own.append written⟩

theorem Writing.insertCourse_eq_ok {row : Cmi5Course Uuid} {w w' : Writing Uuid Score}
    (done : w.insertCourse db row = .ok w') :
    row.id ∉ w.tables.courses.map (·.id) ∧ w'.tables.units = w.tables.units ∧
      w'.tables.courses = w.tables.courses ++ [row] := by
  unfold insertCourse at done
  split at done
  · split at done
    · cases done
    · rename_i fresh
      cases done
      exact ⟨fresh, rfl, rfl⟩
  · cases done

variable {tables tables' : CourseTables Uuid Score} {importedBy : Uuid} {manifestXml : String}
    {cs : CourseStructure Score}
  {course : Cmi5Course Uuid}

/-- A committed import adds one row for each AU, and no unit was there under its course. -/
theorem CourseTables.persist_written
    (done : tables.persist db courseId importedBy manifestXml cs = .ok (tables', course)) :
    (∀ unit ∈ tables.units, unit.courseId ≠ courseId) ∧
      ∃ rows, tables'.units = tables.units ++ rows ∧ List.Forall₂ Cmi5AssignableUnit.IsOf rows cs.assignableUnits ∧
        rows.map (·.position) = (auIndices 0 cs.nodes).map asI32 ∧ ∀ row ∈ rows, row.courseId = courseId := by
  unfold persist at done
  dsimp only at done
  rcases first : Writing.insertCourse db _ ({ tables, sent := 0 } : Writing Uuid Score) with failure | w
  · rw [first] at done
    cases done
  · rw [first] at done
    obtain ⟨fresh, units, courses⟩ := Writing.insertCourse_eq_ok first
    rcases nodes : insertNodes db courseId none 0 cs.nodes w with failure | w'
    · simp only [bind, Except.bind, nodes] at done
      cases done
    · simp only [bind, Except.bind, nodes] at done
      split at done
      case isFalse => cases done
      cases done
      obtain ⟨rows, written⟩ := insertNodes_written nodes
      refine ⟨fun unit there same => ?_, rows, units ▸ written.appended, written.isOf, written.positions,
        written.course⟩
      obtain ⟨owner, inCourses, owns⟩ := tables.owned unit there
      exact fresh (List.mem_map.mpr ⟨owner, inCourses, owns.trans same⟩)

omit [DecidableEq Uuid] in
theorem isOf_auIri {rows : List (Cmi5AssignableUnit Uuid Score)} {aus : List (AssignableUnit Score)}
    (isOf : List.Forall₂ Cmi5AssignableUnit.IsOf rows aus) : rows.map (·.auIri) = aus.map AssignableUnit.id := by
  induction isOf with
  | nil => rfl
  | cons first _ ih => rw [List.map_cons, List.map_cons, first.auIri, ih]

/-- What lists the AUs of a freshly imported course lists them in document order exactly
when each AU's index among its siblings is above that of the AU before it. -/
theorem listAus_document_order_iff
    (done : tables.persist db courseId importedBy manifestXml cs = .ok (tables', course)) :
    (∀ listed, tables'.ListAus courseId listed → List.Forall₂ Cmi5AssignableUnit.IsOf listed cs.assignableUnits) ↔
      ((auIndices 0 cs.nodes).map asI32).Pairwise (· < ·) := by
  obtain ⟨unused, rows, units, isOf, positions, ofCourse⟩ := CourseTables.persist_written done
  have selected : (tables'.units.filter fun unit => unit.courseId = courseId) = rows := by
    have none_ : (tables.units.filter fun unit => unit.courseId = courseId) = [] :=
      List.filter_eq_nil_iff.mpr fun unit there => by simpa using unused unit there
    have all : (rows.filter fun unit => unit.courseId = courseId) = rows :=
      List.filter_eq_self.mpr fun row there => by simpa using ofCourse row there
    rw [units, List.filter_append, none_, all, List.nil_append]
  have iris : (rows.map (·.auIri)).Nodup := by
    have unique := tables'.unique
    rw [units, List.map_append] at unique
    refine List.pairwise_map.mpr ((List.pairwise_map.mp (List.nodup_append.mp unique).2.1).imp_of_mem ?_)
    intro a b inA inB apart same
    exact apart (by rw [ofCourse a inA, ofCourse b inB, same])
  have keyed : ((auIndices 0 cs.nodes).map asI32).Pairwise (· < ·) ↔
      rows.Pairwise fun a b => a.position < b.position := by
    rw [← positions, List.pairwise_map]
  have order : (∀ result, OrderedBy (·.position) rows result → result = rows) ↔
      rows.Pairwise fun a b => a.position < b.position :=
    OrderedBy.forall_eq_iff iris.of_map
  rw [keyed, ← order]
  unfold CourseTables.ListAus
  rw [selected]
  refine forall_congr' fun listed => imp_congr_right fun ordered => ⟨fun listedIsOf => ?_, ?_⟩
  · -- the rows are told apart by their iri, which the listing has in document order
    have same := (isOf_auIri listedIsOf).trans (isOf_auIri isOf).symm
    exact List.eq_of_map_eq_of_nodup iris (fun row there => ordered.perm.mem_iff.mp there) same
  · rintro rfl
    exact isOf

end CoopSpaces.Cmi5
