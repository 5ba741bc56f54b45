import CoopSpaces.Cmi5.Validation

namespace CoopSpaces.Cmi5

/-- One step of a path: a name, and neither the directory itself nor the one above. -/
abbrev Component : Type := { name : String // name ≠ "" ∧ name ≠ "." ∧ name ≠ ".." ∧ '/' ∉ name.toList }

/-- A path from the root down. -/
abbrev Path : Type := List Component

/-- A step of a path that is not resolved yet: into a directory, or up again. -/
inductive PathStep where
  | normal (name : Component)
  | parentDir
deriving DecidableEq

/-- Where steps lead that begin somewhere. -/
def walk (start : Path) (steps : List PathStep) : Path :=
  steps.foldl (fun here step =>
    match step with
    | .normal name => here ++ [name]
    | .parentDir => here.dropLast) start

/-- The places that steps from the root lead through, and to. -/
def through (steps : List PathStep) : List Path := steps.inits.map (walk [])

/-- The steps never lead above where they begin, from so far below it. -/
def staysInside : Nat → List PathStep → Bool
  | _, [] => true
  | depth, .normal _ :: rest => staysInside (depth + 1) rest
  | 0, .parentDir :: _ => false
  | depth + 1, .parentDir :: rest => staysInside depth rest

/-- A relative path that the library lets pass: it may go up, but not out. -/
structure EnclosedPath where
  steps : List PathStep
  inside : staysInside 0 steps = true
deriving DecidableEq

def EnclosedPath.target (rel : EnclosedPath) : Path := walk [] rel.steps

/-- The places that it leads through to its parent. -/
def EnclosedPath.ways (rel : EnclosedPath) : List Path := through rel.steps.dropLast

inductive DiskEntry where
  | dir
  | file (content : List UInt8)
deriving DecidableEq

/-- What is on the disk, and how many bytes were ever written to its files. -/
structure Disk where
  entries : Path → Option DiskEntry
  written : Nat

/-- What the operating system refuses, call by call, and how far a call came before. -/
structure Os where
  notADirectory : String
  isADirectory : String
  createDirAll : Nat → Option (Nat × String)
  create : Nat → Option String
  copy : Nat → Option (Nat × String)
  removeDirAll : Option (Path → Bool)

namespace Disk

def isFile (disk : Disk) (path : Path) : Bool :=
  match disk.entries path with
  | some (.file _) => true
  | _ => false

/-- The directories among these places that are not there. -/
def missing (disk : Disk) (ways : List Path) : List Path := ways.filter fun p => (disk.entries p).isNone

def withDirs (disk : Disk) (dirs : List Path) : Disk :=
  { disk with entries := fun p => if p ∈ dirs then some .dir else disk.entries p }

/-- Makes the directories that are missing on a way from the top down. -/
def createDirAll (os : Os) (call : Nat) (ways : List Path) (disk : Disk) : Disk × Except String Unit :=
  if ways.any disk.isFile then (disk, .error os.notADirectory)
  else
    match os.createDirAll call with
    | some (made, message) => (disk.withDirs ((disk.missing ways).take made), .error message)
    | none => (disk.withDirs (disk.missing ways), .ok ())

def set (disk : Disk) (path : Path) (content : List UInt8) : Disk :=
  { disk with entries := fun p => if p = path then some (.file content) else disk.entries p }

/-- Opens a file for writing, empty. -/
def create (os : Os) (call : Nat) (path : Path) (disk : Disk) : Disk × Except String Unit :=
  if disk.entries path = some .dir then (disk, .error os.isADirectory)
  else
    match os.create call with
    | some message => (disk, .error message)
    | none => (disk.set path [], .ok ())

/-- Fills a file that was just opened. -/
def fill (disk : Disk) (path : Path) (bytes : List UInt8) : Disk :=
  { disk.set path bytes with written := disk.written + bytes.length }

/-- What lies under a path is removed, the path last. If something cannot be, it stays. -/
def removeDirAll (os : Os) (path : Path) (disk : Disk) : Disk :=
  { disk with entries := fun p =>
      if path <+: p then
        match os.removeDirAll with
        | none => none
        | some stays => if p = path ∨ stays p = true then disk.entries p else none
      else disk.entries p }

end Disk

def U64_MAX : Nat := 2 ^ 64 - 1

def saturatingAdd (a b : Nat) : Nat := min (a + b) U64_MAX

def saturatingMul (a b : Nat) : Nat := min (a * b) U64_MAX

/-- An entry of an archive: what it inflates to, and what stops that, if anything. The library
gives it a path that stays inside, as it is written, or none. -/
structure ZipEntry where
  name : String
  isDir : Bool
  enclosedName : Option EnclosedPath
  inflated : List UInt8
  broken : Option String

/-- An archive that could be opened. -/
structure ZipArchive where
  entries : List (Except String ZipEntry)
  byName : String → Option ZipEntry

variable {Float : Type}

/-- The bytes that came are written. What stops the entry is met when it ends, not at the limit. -/
def ZipEntry.fill (limit : Nat) (path : Path) (entry : ZipEntry) (disk : Disk) : Disk × Except String Nat :=
  let bytes := entry.inflated.take limit
  match entry.broken with
  | some message =>
    if entry.inflated.length < limit then (disk.fill path bytes, .error message)
      else (disk.fill path bytes, .ok bytes.length)
  | none => (disk.fill path bytes, .ok bytes.length)

/-- Copies no more than so many bytes of an entry. -/
def ZipEntry.copy (os : Os) (call limit : Nat) (path : Path) (entry : ZipEntry) (disk : Disk) :
    Disk × Except String Nat :=
  match os.copy call with
  | some (came, message) =>
    if came < (entry.inflated.take limit).length then (disk.fill path (entry.inflated.take came), .error message)
    else entry.fill limit path disk
  | none => entry.fill limit path disk

/-- An entry that is not a directory is written under the destination, as far as the budget goes. -/
def ZipEntry.extract (os : Os) (dest : Path) (maxInflated call total : Nat) (entry : ZipEntry) (disk : Disk) :
    Disk × Except (Cmi5Error Float) Nat :=
  match entry.enclosedName with
  | none => (disk, .error (.zipSlip entry.name))
  | some rel =>
    let outPath := dest.map .normal ++ rel.steps
    match disk.createDirAll os (call + 1) (through outPath.dropLast) with
    | (disk, .error message) => (disk, .error (.io message))
    | (disk, .ok ()) =>
      match disk.create os call (walk [] outPath) with
      | (disk, .error message) => (disk, .error (.io message))
      | (disk, .ok ()) =>
        match entry.copy os call (saturatingAdd (maxInflated - total) 1) (walk [] outPath) disk with
        | (disk, .error message) => (disk, .error (.io message))
        | (disk, .ok written) =>
          let total := saturatingAdd total written
          if maxInflated < total then (disk, .error (.tooLarge total maxInflated)) else (disk, .ok total)

def extractEntries (os : Os) (dest : Path) (maxInflated : Nat) (call total : Nat) :
    List (Except String ZipEntry) → Disk → Disk × Except (Cmi5Error Float) Unit
  | [], disk => (disk, .ok ())
  | .error message :: _, disk => (disk, .error (.zip message))
  | .ok entry :: rest, disk =>
    if entry.isDir then extractEntries os dest maxInflated (call + 1) total rest disk
    else
      match entry.extract os dest maxInflated call total disk with
      | (disk, .error error) => (disk, .error error)
      | (disk, .ok total) => extractEntries os dest maxInflated (call + 1) total rest disk

/-- Every entry of an archive is written under the destination. -/
def extractAll (os : Os) (archive : ZipArchive) (dest : Path) (maxInflated : Nat) (disk : Disk) :
    Disk × Except (Cmi5Error Float) Unit :=
  match disk.createDirAll os 0 dest.inits with
  | (disk, .error message) => (disk, .error (.io message))
  | (disk, .ok ()) => extractEntries os dest maxInflated 0 0 archive.entries disk

end CoopSpaces.Cmi5
