import CoopSpaces.Cmi5.Structure
import CoopSpaces.Lib.Text

namespace CoopSpaces.Cmi5

/-- A way in which a course structure fails cmi5 conformance. -/
inductive ConformanceError where
  | courseIdNotIri (id : String)
  | noAssignableUnits
  | auIdNotIri (id : String)
  | blockIdNotIri (id : String)
  | duplicateAuId (id : String)
  | duplicateBlockId (id : String)
  | emptyAuUrl (id : String)
  | danglingObjectiveRef (owner reference : String)
deriving DecidableEq

/-- What is said of it, given how text is quoted. -/
def ConformanceError.toText (debug : String → String) : ConformanceError → String
  | .courseIdNotIri id => "the course id is missing or is not an IRI: " ++ debug id
  | .noAssignableUnits => "the course has no assignable units"
  | .auIdNotIri id => "assignable unit id is missing or is not an IRI: " ++ debug id
  | .blockIdNotIri id => "block id is missing or is not an IRI: " ++ debug id
  | .duplicateAuId id => "duplicate assignable unit id: " ++ id
  | .duplicateBlockId id => "duplicate block id: " ++ id
  | .emptyAuUrl id => "assignable unit " ++ id ++ " has an empty launch url"
  | .danglingObjectiveRef owner reference =>
    "objective reference '" ++ reference ++ "' on " ++ owner ++ " resolves to no declared objective"

/-- Non-empty, no whitespace inside, and with a `:`. -/
def isIri (s : String) : Bool :=
  let chars := (trim s).toList
  !chars.isEmpty && decide (':' ∈ chars) && !chars.any isWhiteSpace

/-- What a check has found so far, and the ids it has seen. -/
structure Found where
  seen : List String
  errors : List ConformanceError

def Found.report (found : Found) (error : ConformanceError) : Found :=
  { found with errors := found.errors ++ [error] }

/-- An id is an IRI, and the first of its kind. -/
def Found.checkId (notIri duplicate : String → ConformanceError) (id : String) (found : Found) : Found :=
  if !isIri id then found.report (notIri id)
  else if id ∈ found.seen then found.report (duplicate id)
  else { found with seen := id :: found.seen }

def Found.checkRefs (declared : List String) (owner : String) (references : List String) (found : Found) : Found :=
  references.foldl (fun found reference =>
    if reference ∈ declared then found else found.report (.danglingObjectiveRef owner reference)) found

variable {Score : Type}

def checkAu (declared : List String) (found : Found) (au : AssignableUnit Score) : Found :=
  let found := found.checkId .auIdNotIri .duplicateAuId au.id
  let found := if (trim au.url).isEmpty then found.report (.emptyAuUrl au.id) else found
  found.checkRefs declared au.id au.objectiveIds

def validateBlock (declared : List String) (id : String) (objectiveIds : List String) (found : Found) : Found :=
  (found.checkId .blockIdNotIri .duplicateBlockId id).checkRefs declared id objectiveIds

mutual

def Node.checkBlocks (declared : List String) : Node Score → Found → Found
  | .au _, found => found
  | .block ⟨id, _, _, objectiveIds, children⟩, found =>
    Cmi5.checkBlocks declared children (validateBlock declared id objectiveIds found)

def checkBlocks (declared : List String) : List (Node Score) → Found → Found
  | [], found => found
  | node :: rest, found => Cmi5.checkBlocks declared rest (node.checkBlocks declared found)

end

/-- Every violation found; none means that the structure is conformant. -/
def validateCourseStructure (cs : CourseStructure Score) : List ConformanceError :=
  let errors := if !isIri cs.course.id then [.courseIdNotIri cs.course.id] else []
  let declared := cs.objectives.map (·.id)
  let errors := if cs.assignableUnits.isEmpty then errors ++ [.noAssignableUnits] else errors
  let found := cs.assignableUnits.foldl (checkAu declared) ⟨[], errors⟩
  (checkBlocks declared cs.nodes { found with seen := [] }).errors

end CoopSpaces.Cmi5
