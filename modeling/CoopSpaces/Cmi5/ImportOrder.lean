import CoopSpaces.Cmi5.ImportPackage

namespace CoopSpaces.Cmi5

section Import
variable {Uuid Float : Type} [DecidableEq Uuid] {unpacking : Unpacking Uuid} {xml : XmlReading String Float}
    {service : Cmi5Service}
  {os : Os} {db : Backend Uuid} {courseId importedBy : Uuid} {zipBytes : List UInt8} {disk disk' : Disk}
  {tables tables' : CourseTables Uuid xml.Score} {course : Cmi5Course Uuid}

/-- An import that succeeds wrote the course of the manifest it read. -/
theorem importPackage_persists
    (imported : importPackage unpacking xml service os db courseId zipBytes importedBy disk tables =
      (disk', tables', .ok course)) :
    ∃ package, readPackage unpacking xml service zipBytes = .ok package ∧
      tables.persist db courseId importedBy package.manifestXml package.courseStructure = .ok (tables', course) := by
  unfold importPackage at imported
  rcases read : readPackage unpacking xml service zipBytes with error | package
  · rw [read] at imported
    cases imported
  · rw [read] at imported
    dsimp only at imported
    refine ⟨package, rfl, ?_⟩
    split at imported
    · cases imported
    · split at imported
      · cases imported
      · split at imported
        · cases imported
        next persisted =>
          cases imported
          exact persisted

/-- The AUs of a course that was just imported come back in document order exactly when each
AU's index among its siblings is above that of the AU before it. -/
theorem import_lists_document_order_iff {package : Package xml.Score}
    (imported : importPackage unpacking xml service os db courseId zipBytes importedBy disk tables =
      (disk', tables', .ok course))
    (read : readPackage unpacking xml service zipBytes = .ok package) :
    (∀ listed, tables'.ListAus courseId listed →
        List.Forall₂ Cmi5AssignableUnit.IsOf listed package.courseStructure.assignableUnits) ↔
      ((auIndices 0 package.courseStructure.nodes).map asI32).Pairwise (· < ·) := by
  obtain ⟨package', read', persisted⟩ := importPackage_persists imported
  obtain rfl : package' = package := Except.ok.inj (read'.symm.trans read)
  exact listAus_document_order_iff persisted

end Import

/-- One unit is in order. -/
theorem solo_import_in_document_order :
    ∃ disk' tables' course package,
      importPackage soloUnpacking soloXml contentService obliging soloBackend (.repeating 0) soloZip
        (.repeating 1) emptyStore noCourses =
          (disk', tables', .ok course) ∧
        readPackage soloUnpacking soloXml contentService soloZip = .ok package ∧
          ∀ listed, tables'.ListAus (.repeating 0) listed →
            List.Forall₂ Cmi5AssignableUnit.IsOf listed package.courseStructure.assignableUnits := by
  have indices : (readPackage soloUnpacking soloXml contentService soloZip).toOption.map
      (fun package => auIndices 0 package.courseStructure.nodes) = some [0] := by decide +kernel
  have succeeds : (importPackage soloUnpacking soloXml contentService obliging soloBackend
    (.repeating 0) soloZip (.repeating 1)
    emptyStore noCourses).2.2.isOk = true := by decide +kernel
  rcases read : readPackage soloUnpacking soloXml contentService soloZip with error | package
  · rw [read] at indices
    cases indices
  rcases imported : importPackage soloUnpacking soloXml contentService obliging soloBackend
    (.repeating 0) soloZip (.repeating 1)
    emptyStore noCourses with ⟨disk', tables', error | course⟩
  · rw [imported] at succeeds
    cases succeeds
  rw [read] at indices
  have one : auIndices 0 package.courseStructure.nodes = [0] := Option.some.inj indices
  refine ⟨disk', tables', course, package, rfl, rfl, (import_lists_document_order_iff imported read).mpr ?_⟩
  rw [one]
  exact List.pairwise_singleton _ _

def blockManifest : String :=
  "<courseStructure><course id=\"a:c\"/><block id=\"a:b\"><au id=\"a:0\"><url>0</url></au>" ++
    "<au id=\"a:1\"><url>1</url></au>" ++ "<au id=\"a:2\"><url>2</url></au></block><au id=\"a:3\"><url>3</url></au></courseStructure>"

/-- An archive of a course with three units in a block and one after it. -/
def blockZip : List UInt8 :=
  [80, 75, 3, 4, 20, 0, 0, 0, 0, 0, 0, 0, 33, 0, 89, 102, 211, 250, 197, 0, 0, 0, 197, 0, 0, 0, 8, 0, 0, 0,
    99, 109, 105, 53, 46, 120, 109, 108] ++
    [60, 99, 111, 117, 114, 115, 101, 83, 116, 114, 117, 99, 116, 117, 114, 101, 62, 60, 99, 111, 117, 114,
      115, 101, 32, 105, 100, 61, 34, 97, 58, 99, 34, 47, 62, 60, 98, 108, 111, 99, 107, 32, 105, 100, 61, 34,
        97, 58, 98, 34, 62, 60, 97, 117, 32,
     105, 100, 61, 34, 97, 58, 48, 34, 62, 60, 117, 114, 108, 62, 48, 60, 47, 117, 114, 108, 62, 60, 47, 97,
       117, 62, 60, 97, 117, 32, 105, 100, 61, 34, 97, 58, 49, 34, 62, 60, 117, 114, 108, 62, 49, 60, 47, 117,
         114, 108, 62, 60, 47, 97, 117, 62,
     60, 97, 117, 32, 105, 100, 61, 34, 97, 58, 50, 34, 62, 60, 117, 114, 108, 62, 50, 60, 47, 117, 114, 108,
       62, 60, 47, 97, 117, 62, 60, 47, 98, 108, 111, 99, 107, 62, 60, 97, 117, 32, 105, 100, 61, 34, 97, 58,
         51, 34, 62, 60, 117, 114, 108, 62,
     51, 60, 47, 117, 114, 108, 62, 60, 47, 97, 117, 62, 60, 47, 99, 111, 117, 114, 115, 101, 83, 116, 114,
       117, 99, 116, 117, 114, 101, 62] ++
    [80, 75, 1, 2, 20, 3, 20, 0, 0, 0, 0, 0, 0, 0, 33, 0, 89, 102, 211, 250, 197, 0, 0, 0, 197, 0, 0, 0, 8, 0,
      0, 0, 0, 0, 0, 0, 0, 0, 0, 0, 128, 1, 0, 0, 0, 0, 99, 109, 105, 53, 46, 120, 109, 108, 80, 75, 5, 6, 0,
        0, 0, 0, 1, 0, 1, 0, 54, 0, 0, 0,
     235, 0, 0, 0, 0, 0]

def blockUnpacking : Unpacking HexId where
  openZip bytes :=
    let entry : ZipEntry := ⟨"cmi5.xml", false, some manifestPath, (blockZip.drop 38).take 197, none⟩
    if bytes = blockZip then .ok ⟨[.ok entry], fun name => if name = "cmi5.xml" then some entry else none⟩
    else .error "invalid Zip archive: Could not find EOCD"
  debug s := "\"" ++ s ++ "\""
  directory _ := courseName

def blockXml : XmlReading String (Fin 11) where
  readEvents doc :=
    let unit (id url : String) : List (Except String Event) :=
      [.ok (.start ⟨"au", [.ok ⟨"id", id⟩]⟩), .ok (.start ⟨"url", []⟩), .ok (.text url), .ok (.end_ "url"),
        .ok (.end_ "au")]
    if doc = blockManifest then
      [.ok (.start ⟨"courseStructure", []⟩), .ok (.empty ⟨"course", [.ok ⟨"id", "a:c"⟩]⟩),
        .ok (.start ⟨"block", [.ok ⟨"id", "a:b"⟩]⟩)] ++ unit "a:0" "0" ++ unit "a:1" "1" ++ unit "a:2" "2" ++
        [.ok (.end_ "block")] ++ unit "a:3" "3" ++ [.ok (.end_ "courseStructure")]
    else []
  normalizedValue value := .ok value
  resolveCharRef _ := .ok none
  parseFloat s := (List.finRange 11).find? fun tenths => displayTenths tenths = s
  inUnit _ := true

/-- The unit after the block has the position of the second one in it, and comes before the third. -/
theorem unit_after_block_listed_inside :
    ∃ disk' tables' course package,
      importPackage blockUnpacking blockXml contentService obliging soloBackend (.repeating 0) blockZip
        (.repeating 1) emptyStore noCourses =
          (disk', tables', .ok course) ∧
        readPackage blockUnpacking blockXml contentService blockZip = .ok package ∧
          ¬ ∀ listed, tables'.ListAus (.repeating 0) listed →
            List.Forall₂ Cmi5AssignableUnit.IsOf listed package.courseStructure.assignableUnits := by
  have indices : (readPackage blockUnpacking blockXml contentService blockZip).toOption.map
      (fun package => auIndices 0 package.courseStructure.nodes) = some [0, 1, 2, 1] := by decide +kernel
  have succeeds : (importPackage blockUnpacking blockXml contentService obliging soloBackend
    (.repeating 0) blockZip (.repeating 1)
    emptyStore noCourses).2.2.isOk = true := by decide +kernel
  rcases read : readPackage blockUnpacking blockXml contentService blockZip with error | package
  · rw [read] at indices
    cases indices
  rcases imported : importPackage blockUnpacking blockXml contentService obliging soloBackend
    (.repeating 0) blockZip (.repeating 1)
    emptyStore noCourses with ⟨disk', tables', error | course⟩
  · rw [imported] at succeeds
    cases succeeds
  obtain ⟨package', read', persisted⟩ := importPackage_persists imported
  obtain rfl : package' = package := Except.ok.inj (read'.symm.trans read)
  rw [read] at indices
  have four : auIndices 0 package'.courseStructure.nodes = [0, 1, 2, 1] := Option.some.inj indices
  refine ⟨disk', tables', course, package', rfl, rfl, ?_⟩
  rw [listAus_document_order_iff persisted, four]
  decide +kernel

end CoopSpaces.Cmi5
