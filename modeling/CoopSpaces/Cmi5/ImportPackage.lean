import CoopSpaces.Cmi5.Conformance
import CoopSpaces.Cmi5.Extraction
import CoopSpaces.Cmi5.ManifestRoundTrip
import CoopSpaces.Cmi5.Storing
import CoopSpaces.Lib.Fallible

namespace CoopSpaces.Cmi5

def MAX_DECOMPRESSION_RATIO : Nat := 100

def MIN_INFLATED_BUDGET : Nat := 10 * 1024 * 1024

def MAX_MANIFEST_BYTES : Nat := 5 * 1024 * 1024

/-- What libraries do for an import: archives opened, text quoted, and the name of an id as a directory. -/
structure Unpacking (Uuid : Type) where
  openZip : List UInt8 → Except String ZipArchive
  debug : String → String
  directory : Uuid → Component

structure Cmi5Service where
  contentDir : Path
  maxPackageBytes : Nat

/-- Reads no more than so many bytes as text. -/
def ZipEntry.readToString (limit : Nat) (entry : ZipEntry) : Except String String :=
  let text :=
    match String.fromUTF8? ⟨(entry.inflated.take limit).toArray⟩ with
    | some s => .ok s
    | none => .error "stream did not contain valid UTF-8"
  match entry.broken with
  | some message => if entry.inflated.length < limit then .error message else text
  | none => text

/-- A package of which the manifest was found good. -/
structure Package (Score : Type) where
  archive : ZipArchive
  manifestXml : String
  courseStructure : CourseStructure Score

variable {Uuid Float : Type}

/-- All that is looked at before anything is written. -/
def readPackage (unpacking : Unpacking Uuid) (xml : XmlReading String Float) (service : Cmi5Service)
    (zipBytes : List UInt8) :
    Except (Cmi5Error Float) (Package xml.Score) := do
  if service.maxPackageBytes < zipBytes.length then throw (.tooLarge zipBytes.length service.maxPackageBytes)
  let archive ← (unpacking.openZip zipBytes).mapError .zip
  let f ← orError (archive.byName "cmi5.xml") .noManifest
  let manifestXml ← (f.readToString MAX_MANIFEST_BYTES).mapError .io
  let courseStructure ← (xml.parseManifest manifestXml).mapError .manifest
  let issues := validateCourseStructure courseStructure
  if !issues.isEmpty then throw (.nonConformant ("; ".intercalate (issues.map (·.toText unpacking.debug))))
  return ⟨archive, manifestXml, courseStructure⟩

theorem readPackage_archive {unpacking : Unpacking Uuid} {xml : XmlReading String Float}
    {service : Cmi5Service} {zipBytes : List UInt8}
    {package : Package xml.Score} (read : readPackage unpacking xml service zipBytes = .ok package) :
    unpacking.openZip zipBytes = .ok package.archive := by
  have archives : Ensures (readPackage unpacking xml service zipBytes) fun package =>
      unpacking.openZip zipBytes = .ok package.archive := by
    unfold readPackage
    dsimp only
    split
    · exact ensures_error _
    refine ensures_bind fun archive opened => ensures_orError fun f _ => ensures_bind fun manifestXml _ =>
      ensures_bind fun cs _ => ?_
    split
    · exact ensures_error _
    · exact ensures_ok (ok_of_mapError opened)
  exact archives package read

/-- How much a package may inflate to. -/
def maxInflated (zipBytes : List UInt8) : Nat :=
  max (saturatingMul zipBytes.length MAX_DECOMPRESSION_RATIO) MIN_INFLATED_BUDGET

variable [DecidableEq Uuid]

/-- The import of a package under an id that was just drawn: the disk and the tables after it,
and what it answers. -/
def importPackage (unpacking : Unpacking Uuid) (xml : XmlReading String Float) (service : Cmi5Service)
    (os : Os) (db : Backend Uuid)
    (courseId : Uuid) (zipBytes : List UInt8) (importedBy : Uuid) (disk : Disk)
    (tables : CourseTables Uuid xml.Score) :
    Disk × CourseTables Uuid xml.Score × Except (Cmi5Error Float) (Cmi5Course Uuid) :=
  match readPackage unpacking xml service zipBytes with
  | .error error => (disk, tables, .error error)
  | .ok package =>
    let dest := service.contentDir ++ [unpacking.directory courseId]
    match extractAll os package.archive dest (maxInflated zipBytes) disk with
    | (disk, .error error) => (disk, tables, .error error)
    | (disk, .ok ()) =>
      match db.noConnection with
      | some message => (disk.removeDirAll os dest, tables, .error (.pool message))
      | none =>
        match tables.persist db courseId importedBy package.manifestXml package.courseStructure with
        | .error error => (disk.removeDirAll os dest, tables, .error (.db error))
        | .ok (tables, course) => (disk, tables, .ok course)

/-- The destination could not be made, and nothing on the way to it was. -/
def Disk.MakesNothing (os : Os) (disk : Disk) (dest : Path) : Prop :=
  dest.inits.any disk.isFile = true ∨ ∃ message, os.createDirAll 0 = some (0, message)

section ExtractAll

variable {os : Os} {disk : Disk} {dest : Path} {budget : Nat}

theorem not_makeable (free : disk.Free dest) (unmade : ¬ disk.Makeable os dest) :
    ∃ disk' message, disk.createDirAll os 0 dest.inits = (disk', .error message) ∧
      (disk'.entries = disk.entries ↔ disk.MakesNothing os dest) := by
  unfold Disk.createDirAll
  by_cases clash : dest.inits.any disk.isFile = true
  · exact ⟨disk, _, if_pos clash, fun _ => .inl clash, fun _ => rfl⟩
  rw [if_neg clash]
  rcases refusal : os.createDirAll 0 with _ | ⟨made, message⟩
  · exact absurd ⟨Bool.eq_false_iff.mpr clash, refusal⟩ unmade
  refine ⟨_, message, rfl, fun same => .inr ?_, ?_⟩
  · cases made with
    | zero => exact ⟨message, refusal⟩
    | succ made =>
      have none : disk.entries dest = none := by
        have here := free []
        rwa [List.append_nil] at here
      obtain ⟨first, rest, missing⟩ :=
        List.exists_cons_of_ne_nil (List.ne_nil_of_mem (mem_missing_inits.mpr ⟨List.prefix_refl dest, none⟩))
      have firstMissing : first ∈ disk.missing dest.inits := by
        rw [missing]
        exact List.mem_cons_self
      have changed := congrFun same first
      rw [(mem_missing_inits.mp firstMissing).2, missing, List.take_succ_cons] at changed
      exact absurd ((if_pos List.mem_cons_self).symm.trans changed) nofun
  · rintro (file | ⟨message', nothing⟩)
    · exact absurd file clash
    · rw [refusal] at nothing
      cases nothing
      rw [List.take_zero, withDirs_nil]

variable (Float os budget) in
theorem extractAll_spec (free : disk.Free dest) (archive : ZipArchive) :
    (disk.Makeable os dest ∧ Extractable os budget 0 0 [] archive.entries ∧ ∃ disk',
        (extractAll os archive dest budget disk : _ × Except (Cmi5Error Float) Unit) = (disk', .ok ()) ∧
          (disk.withDirs (disk.missing dest.inits)).Keeps dest disk' ∧ disk'.entries dest = some .dir ∧
            disk'.written = disk.written + copied budget 0 archive.entries) ∨
      (disk.Makeable os dest ∧ ¬ Extractable os budget 0 0 [] archive.entries ∧ ∃ disk' error,
        (extractAll os archive dest budget disk : _ × Except (Cmi5Error Float) Unit) = (disk', .error error) ∧
          disk'.entries dest = some .dir) ∨
      (¬ disk.Makeable os dest ∧ ∃ disk' error,
        (extractAll os archive dest budget disk : _ × Except (Cmi5Error Float) Unit) = (disk', .error error) ∧
          (disk'.entries = disk.entries ↔ disk.MakesNothing os dest)) := by
  by_cases makeable : disk.Makeable os dest
  · have made : disk.createDirAll os 0 dest.inits = (disk.withDirs (disk.missing dest.inits), .ok ()) := by
      rw [Disk.createDirAll, makeable.1, if_neg Bool.false_ne_true, makeable.2]
    have dir : (disk.withDirs (disk.missing dest.inits)).entries dest = some .dir :=
      withDirs_missing_entries makeable.1 ((List.mem_inits _ _).mpr (List.prefix_refl dest))
    unfold extractAll
    rw [made]
    dsimp only
    rcases @extractEntries_spec _ _ _ os budget 0 0 [] (Extracted.start free makeable.1) archive.entries with
      ⟨extractable, disk', done, keeps, written⟩ | ⟨stopped, disk', error, failed, keeps⟩
    · exact .inl ⟨makeable, extractable, disk', done, keeps, keeps.dir dir, written⟩
    · exact .inr (.inl ⟨makeable, stopped, disk', error, failed, keeps.dir dir⟩)
  · obtain ⟨disk', message, failed, unchanged⟩ := not_makeable free makeable
    refine .inr (.inr ⟨makeable, disk', .io message, ?_, unchanged⟩)
    rw [extractAll, failed]

end ExtractAll

section Import

variable (unpacking : Unpacking Uuid) (xml : XmlReading String Float) (service : Cmi5Service) (os : Os)
    (db : Backend Uuid) (courseId : Uuid)
  (zipBytes : List UInt8) (importedBy : Uuid) (disk : Disk) (tables : CourseTables Uuid xml.Score)

/-- Where a course's content goes. -/
def courseDir : Path := service.contentDir ++ [unpacking.directory courseId]

/-- What an import leaves: nothing if it fails, and otherwise no file but in the course's own
directory, and no more bytes than the budget. -/
def LeavesNothing (after : Disk × CourseTables Uuid xml.Score × Except (Cmi5Error Float) (Cmi5Course Uuid)) : Prop :=
  match after.2.2 with
  | .error _ => after.1.entries = disk.entries ∧ after.2.1 = tables
  | .ok _ =>
    (∀ path, after.1.isFile path = true → after.1.entries path ≠ disk.entries path →
      ∃ rel, rel ≠ [] ∧ path = courseDir unpacking service courseId ++ rel) ∧
      after.1.written ≤ disk.written + maxInflated zipBytes

/-- The database has a connection, and takes the course. -/
def Saves (package : Package xml.Score) : Prop :=
  db.noConnection = none ∧ db.Stores courseId tables package.courseStructure

/-- When a package gets as far as the disk, all of it can be extracted, and if the database then
fails, the directory can be removed and was all that was made; or else nothing was made at all. -/
structure Undoes (package : Package xml.Score) : Prop where
  extractable : disk.Makeable os (courseDir unpacking service courseId) →
    Extractable os (maxInflated zipBytes) 0 0 [] package.archive.entries
  budget : disk.Makeable os (courseDir unpacking service courseId) → Saves xml db courseId tables package →
    copied (maxInflated zipBytes) 0 package.archive.entries ≤ maxInflated zipBytes
  removes : disk.Makeable os (courseDir unpacking service courseId) → ¬ Saves xml db courseId tables package →
    os.removeDirAll = none ∧ ∀ q, q <+: service.contentDir → disk.entries q ≠ none
  nothing : ¬ disk.Makeable os (courseDir unpacking service courseId) →
    disk.MakesNothing os (courseDir unpacking service courseId)

/-- What is left once an extracted course is removed. -/
theorem removed_iff {dest : Path} {component : Component} {disk' : Disk}
    (at_ : dest = service.contentDir ++ [component])
    (free : disk.Free dest) (keeps : (disk.withDirs (disk.missing dest.inits)).Keeps dest disk')
    (dir : disk'.entries dest = some .dir) :
    (disk'.removeDirAll os dest).entries = disk.entries ↔
      os.removeDirAll = none ∧ ∀ q, q <+: service.contentDir → disk.entries q ≠ none := by
  have longer : ∀ {q}, q <+: service.contentDir → ¬ dest <+: q := by
    intro q within below
    have lengths := (below.trans within).length_le
    rw [at_, List.length_append, List.length_singleton] at lengths
    omega
  constructor
  · intro same
    refine ⟨?_, fun q within none => ?_⟩
    · have here := congrFun same dest
      rcases stays : os.removeDirAll with _ | stays
      · rfl
      · have missing : disk.entries dest = none := by
          have here := free []
          rwa [List.append_nil] at here
        simp only [Disk.removeDirAll, stays, List.prefix_refl, if_true, true_or, dir, missing] at here
        cases here
    · have here := congrFun same q
      have made : (disk.withDirs (disk.missing dest.inits)).entries q = some .dir :=
        if_pos (mem_missing_inits.mpr ⟨at_ ▸ within.trans (List.prefix_append _ _), none⟩)
      simp only [Disk.removeDirAll, if_neg (longer within), keeps.outside q (longer within), made, none] at here
      cases here
  · rintro ⟨removed, existed⟩
    funext p
    simp only [Disk.removeDirAll, removed]
    split
    next below =>
      obtain ⟨r, rfl⟩ := below
      exact (free r).symm
    next off =>
      rw [keeps.outside p off]
      refine if_neg fun there => ?_
      obtain ⟨on, none⟩ := mem_missing_inits.mp there
      rw [at_, List.prefix_concat_iff] at on
      rcases on with whole | within
      · exact off (by rw [at_, whole])
      · exact existed p within none

theorem placed_inside {dest : Path} {disk' : Disk}
    (keeps : (disk.withDirs (disk.missing dest.inits)).Keeps dest disk')
    (dir : disk'.entries dest = some .dir) (path : Path) (file : disk'.isFile path = true)
    (changed : disk'.entries path ≠ disk.entries path) :
    ∃ rel, rel ≠ [] ∧ path = dest ++ rel := by
  by_cases below : dest <+: path
  · obtain ⟨rel, rfl⟩ := below
    refine ⟨rel, fun none => ?_, rfl⟩
    rw [none, List.append_nil, not_isFile_of_dir dir] at file
    cases file
  · rw [keeps.outside path below] at changed
    have made : path ∈ disk.missing dest.inits := by
      by_contra other
      exact changed (if_neg other)
    have madeDir : disk'.entries path = some .dir := (keeps.outside path below).trans (if_pos made)
    rw [not_isFile_of_dir madeDir] at file
    cases file

/-- An import that fails leaves everything as it was, and one that succeeds keeps to its
directory and its budget, exactly when what it began can be undone. -/
theorem import_leaves_nothing_iff (free : disk.Free (courseDir unpacking service courseId)) :
    LeavesNothing unpacking xml service courseId zipBytes disk tables
        (importPackage unpacking xml service os db courseId zipBytes importedBy disk tables) ↔
      ∀ package, readPackage unpacking xml service zipBytes = .ok package →
        Undoes unpacking xml service os db courseId zipBytes disk tables package := by
  unfold importPackage
  rcases read : readPackage unpacking xml service zipBytes with error | package
  · exact ⟨fun _ package same => (by cases same), fun _ => ⟨rfl, rfl⟩⟩
  have one : (∀ other, (.ok package : Except (Cmi5Error Float) _) = .ok other →
      Undoes unpacking xml service os db courseId zipBytes disk tables other) ↔
      Undoes unpacking xml service os db courseId zipBytes disk tables package :=
    ⟨fun all => all package rfl, fun undoes other same => Except.ok.inj same ▸ undoes⟩
  rw [one]
  have at_ : courseDir unpacking service courseId = service.contentDir ++ [unpacking.directory courseId] := rfl
  dsimp only
  rw [← at_]
  rcases extractAll_spec Float os (maxInflated zipBytes) free package.archive with
    ⟨makeable, extractable, disk', done, keeps, dir, written⟩ | ⟨makeable, stopped, disk', error, failed, dir⟩ |
      ⟨unmade, disk', error, failed, unchanged⟩
  · rw [done]
    dsimp only
    by_cases saves : Saves xml db courseId tables package
    · obtain ⟨⟨tables', course⟩, persisted⟩ : ∃ saved,
          tables.persist db courseId importedBy package.manifestXml package.courseStructure = .ok saved :=
            persist_iff.mpr saves.2
      have connected := saves.1
      rw [connected, persisted]
      dsimp only
      constructor
      · rintro ⟨_, bytes⟩
        have budget : disk'.written ≤ disk.written + maxInflated zipBytes := bytes
        exact ⟨fun _ => extractable,
          fun _ _ => by omega, fun _ other => absurd saves other, fun other => absurd makeable other⟩
      · intro undoes
        refine ⟨placed_inside disk keeps dir, ?_⟩
        have budget := undoes.budget makeable saves
        show disk'.written ≤ _
        omega
    · have undone : (disk'.removeDirAll os (courseDir unpacking service courseId)).entries = disk.entries ∧
        tables = tables ↔
          Undoes unpacking xml service os db courseId zipBytes disk tables package := by
        rw [removed_iff service os disk at_ free keeps dir]
        refine ⟨fun removed => ⟨fun _ => extractable, fun _ other => absurd other saves, fun _ _ => removed.1,
          fun other => absurd makeable other⟩, fun undoes => ⟨undoes.removes makeable saves, rfl⟩⟩
      rw [← undone]
      rcases connection : db.noConnection with _ | message
      · rcases persisted : tables.persist db courseId importedBy package.manifestXml package.courseStructure
          with error | saved
        · rfl
        · exact absurd ⟨connection, persist_iff.mp ⟨saved, persisted⟩⟩ saves
      · rfl
  · rw [failed]
    refine ⟨fun unchanged => ?_, fun undoes => absurd (undoes.extractable makeable) stopped⟩
    have none := free []
    rw [List.append_nil, ← unchanged.1, dir] at none
    cases none
  · rw [failed]
    refine ⟨fun same => ⟨fun other => absurd other unmade, fun other => absurd other unmade,
      fun other => absurd other unmade, fun _ => unchanged.mp same.1⟩,
        fun undoes => ⟨unchanged.mpr (undoes.nothing unmade), rfl⟩⟩

end Import

def soloManifest : String := "<courseStructure><course id=\"a:c\"/><au id=\"a:u\"><url>i</url></au></courseStructure>"

def soloManifestBytes : List UInt8 :=
  [60, 99, 111, 117, 114, 115, 101, 83, 116, 114, 117, 99, 116, 117, 114, 101, 62, 60, 99, 111, 117, 114, 115,
    101, 32, 105, 100, 61, 34, 97, 58, 99, 34, 47, 62, 60, 97, 117, 32, 105, 100, 61, 34, 97, 58, 117, 34, 62,
      60, 117, 114, 108, 62, 105, 60,
   47, 117, 114, 108, 62, 60, 47, 97, 117, 62, 60, 47, 99, 111, 117, 114, 115, 101, 83, 116, 114, 117, 99,
     116, 117, 114, 101, 62]

/-- A record before the manifest in an archive that stores it as it is. -/
def soloHeader : List UInt8 :=
  [80, 75, 3, 4, 20, 0, 0, 0, 0, 0, 0, 0, 33, 0, 160, 132, 217, 15, 83, 0, 0, 0, 83, 0, 0, 0, 8, 0, 0, 0, 99,
    109, 105, 53, 46, 120, 109, 108]

/-- Archives of a course of one unit: the manifest alone, or with an entry `../x`. -/
def soloZip : List UInt8 :=
  soloHeader ++ soloManifestBytes ++
    [80, 75, 1, 2, 20, 3, 20, 0, 0, 0, 0, 0, 0, 0, 33, 0, 160, 132, 217, 15, 83, 0, 0, 0, 83, 0, 0, 0, 8, 0,
      0, 0, 0, 0, 0, 0, 0, 0, 0, 0, 128, 1, 0, 0, 0, 0, 99, 109, 105, 53, 46, 120, 109, 108, 80, 75, 5, 6, 0,
        0, 0, 0, 1, 0, 1, 0, 54, 0, 0, 0,
     121, 0, 0, 0, 0, 0]

def escapingZip : List UInt8 :=
  soloHeader ++ soloManifestBytes ++
    [80, 75, 3, 4, 20, 0, 0, 0, 0, 0, 0, 0, 33, 0, 0, 0, 0, 0, 0, 0, 0, 0, 0, 0, 0, 0, 4, 0, 0, 0, 46, 46, 47,
      120, 80, 75, 1, 2, 20, 3, 20, 0, 0, 0, 0, 0, 0, 0, 33, 0, 160, 132, 217, 15, 83, 0, 0, 0, 83, 0, 0, 0,
        8, 0, 0, 0, 0, 0, 0, 0, 0, 0, 0, 0,
     128, 1, 0, 0, 0, 0, 99, 109, 105, 53, 46, 120, 109, 108, 80, 75, 1, 2, 20, 3, 20, 0, 0, 0, 0, 0, 0, 0,
       33, 0, 0, 0, 0, 0, 0, 0, 0, 0, 0, 0, 0, 0, 4, 0, 0, 0, 0, 0, 0, 0, 0, 0, 0, 0, 128, 1, 121, 0, 0, 0,
         46, 46, 47, 120, 80, 75, 5, 6, 0, 0, 0,
     0, 2, 0, 2, 0, 104, 0, 0, 0, 155, 0, 0, 0, 0, 0]

/-- Where its manifest goes. -/
def manifestName : Component := ⟨"cmi5.xml", by decide +kernel⟩

/-- The directory that it is unpacked into. -/
def courseName : Component := ⟨"0", by decide +kernel⟩

def manifestPath : EnclosedPath := ⟨[.normal manifestName], rfl⟩

def soloEntry : ZipEntry := ⟨"cmi5.xml", false, some manifestPath, soloManifestBytes, none⟩

def escapingEntry : ZipEntry := ⟨"../x", false, none, [], none⟩

/-- What the library makes of these archives. -/
def soloUnpacking : Unpacking HexId where
  openZip bytes :=
    if bytes = soloZip then .ok ⟨[.ok soloEntry], fun name => if name = "cmi5.xml" then some soloEntry else none⟩
    else if bytes = escapingZip then
      .ok ⟨[.ok soloEntry, .ok escapingEntry], fun name => if name = "cmi5.xml" then some soloEntry else none⟩
    else .error "invalid Zip archive: Could not find EOCD"
  debug s := "\"" ++ s ++ "\""
  directory _ := courseName

/-- And what the reader makes of its manifest. -/
def soloXml : XmlReading String (Fin 11) where
  readEvents doc :=
    if doc = soloManifest then
      [.ok (.start ⟨"courseStructure", []⟩), .ok (.empty ⟨"course", [.ok ⟨"id", "a:c"⟩]⟩),
        .ok (.start ⟨"au", [.ok ⟨"id", "a:u"⟩]⟩), .ok (.start ⟨"url", []⟩), .ok (.text "i"), .ok (.end_ "url"),
        .ok (.end_ "au"), .ok (.end_ "courseStructure")]
    else []
  normalizedValue value := .ok value
  resolveCharRef _ := .ok none
  parseFloat s := (List.finRange 11).find? fun tenths => displayTenths tenths = s
  inUnit _ := true

def contentService : Cmi5Service := ⟨[⟨"cmi5", by decide +kernel⟩], 256 * 1024 * 1024⟩

/-- A disk with an empty content directory, and a system and a database that refuse nothing. -/
def emptyStore : Disk where
  entries path := if path <+: contentService.contentDir then some .dir else none
  written := 0

def obliging : Os where
  notADirectory := "Not a directory (os error 20)"
  isADirectory := "Is a directory (os error 21)"
  createDirAll _ := none
  create _ := none
  copy _ := none
  removeDirAll := none

def soloBackend : Backend HexId where
  noConnection := none
  genRandomUuid sent := .repeating (sent + 1)
  takes _ := true
  commits := true

def noCourses : CourseTables HexId soloXml.Score where
  courses := []
  blocks := []
  units := []
  owned := nofun
  unique := List.nodup_nil

theorem emptyStore_free : emptyStore.Free (courseDir soloUnpacking contentService (.repeating 0)) := by
  intro rel
  show (if courseDir soloUnpacking contentService (.repeating 0) ++ rel <+: contentService.contentDir
    then some .dir else none) = none
  refine if_neg fun within => ?_
  have lengths := within.length_le
  simp only [courseDir, contentService, List.length_append, List.length_cons, List.length_nil] at lengths
  omega

/-- A directory of its own for a course, and nothing for the disk or the database to refuse. -/
theorem solo_import_leaves_nothing :
    LeavesNothing soloUnpacking soloXml contentService (.repeating 0) soloZip emptyStore noCourses
      (importPackage soloUnpacking soloXml contentService obliging soloBackend (.repeating 0) soloZip
        (.repeating 1) emptyStore noCourses) := by
  have leaves := import_leaves_nothing_iff soloUnpacking soloXml contentService obliging soloBackend
    (.repeating 0) soloZip (.repeating 1)
    emptyStore noCourses emptyStore_free
  rw [leaves]
  intro package read
  have opened : soloUnpacking.openZip soloZip =
      .ok ⟨[.ok soloEntry], fun name => if name = "cmi5.xml" then some soloEntry else none⟩ := by
    simp only [soloUnpacking, if_true]
  have archive := Except.ok.inj (opened.symm.trans (readPackage_archive read))
  have entries : package.archive.entries = [.ok soloEntry] := archive ▸ rfl
  have budget : maxInflated soloZip = 10485760 := by decide +kernel
  have taken : soloEntry.taken 10485760 0 = 83 := by decide +kernel
  have fits : soloEntry.Fits obliging 10485760 0 0 [] manifestPath :=
    ⟨rfl, ⟨by decide +kernel, nofun⟩, rfl, rfl, ⟨nofun, .inl rfl⟩, by rw [taken]; decide⟩
  have makeable : emptyStore.Makeable obliging (courseDir soloUnpacking contentService (.repeating 0)) :=
    ⟨by decide +kernel, rfl⟩
  exact
    { extractable := fun _ => by rw [entries, budget]; exact ⟨_, fits, trivial⟩
      budget := fun _ _ => by
        rw [entries, budget]
        show soloEntry.taken 10485760 0 + 0 ≤ 10485760
        rw [taken]
        decide
      removes := fun _ _ => ⟨rfl, fun q within => by
        show (if q <+: contentService.contentDir then some DiskEntry.dir else none) ≠ none
        rw [if_pos within]
        nofun⟩
      nothing := fun unmade => absurd makeable unmade }

/-- The entry outside stops the extraction, and the manifest extracted before it stays. -/
theorem escaping_entry_leaves_manifest :
    ¬ LeavesNothing soloUnpacking soloXml contentService (.repeating 0) escapingZip emptyStore noCourses
        (importPackage soloUnpacking soloXml contentService obliging soloBackend (.repeating 0) escapingZip
          (.repeating 1) emptyStore
          noCourses) := by
  generalize left : importPackage soloUnpacking soloXml contentService obliging soloBackend
    (.repeating 0) escapingZip (.repeating 1)
    emptyStore noCourses = after
  have failed : after.2.2.isOk = false := by
    rw [← left]
    decide +kernel
  have stays : after.1.isFile
      (courseDir soloUnpacking contentService (.repeating 0) ++ [⟨"cmi5.xml", by decide +kernel⟩]) = true := by
    rw [← left]
    decide +kernel
  intro leaves
  unfold LeavesNothing at leaves
  rcases outcome : after.2.2 with error | course
  · rw [outcome] at leaves
    rw [Disk.isFile, leaves.1, emptyStore_free] at stays
    cases stays
  · rw [outcome] at failed
    cases failed

end CoopSpaces.Cmi5
