import Mathlib.Data.List.Basic

namespace CoopSpaces.Cmi5

/-- Everything that can go wrong turning a document into a course structure. -/
inductive ManifestError where
  | xml (message : String)
  | missingElement (element : String)
  | missingAttribute (element : String) (attr : String)
  | badMoveOn (value : String)
  | badLaunchMethod (value : String)
  | badMasteryScore (value : String)
  | unexpectedEof (element : String)
deriving DecidableEq

inductive MoveOn where
  | passed
  | completed
  | completedAndPassed
  | completedOrPassed
  | notApplicable
deriving DecidableEq

def MoveOn.asStr : MoveOn → String
  | .passed => "Passed"
  | .completed => "Completed"
  | .completedAndPassed => "CompletedAndPassed"
  | .completedOrPassed => "CompletedOrPassed"
  | .notApplicable => "NotApplicable"

def MoveOn.parse (s : String) : Except ManifestError MoveOn :=
  if s = "Passed" then .ok .passed
  else if s = "Completed" then .ok .completed
  else if s = "CompletedAndPassed" then .ok .completedAndPassed
  else if s = "CompletedOrPassed" then .ok .completedOrPassed
  else if s = "NotApplicable" then .ok .notApplicable
  else .error (.badMoveOn s)

@[simp] theorem MoveOn.parse_asStr (moveOn : MoveOn) : parse moveOn.asStr = .ok moveOn := by
  cases moveOn <;> rfl

inductive LaunchMethod where
  | anyWindow
  | ownWindow
deriving DecidableEq

def LaunchMethod.asStr : LaunchMethod → String
  | .anyWindow => "AnyWindow"
  | .ownWindow => "OwnWindow"

def LaunchMethod.parse (s : String) : Except ManifestError LaunchMethod :=
  if s = "AnyWindow" then .ok .anyWindow
  else if s = "OwnWindow" then .ok .ownWindow
  else .error (.badLaunchMethod s)

@[simp] theorem LaunchMethod.parse_asStr (method : LaunchMethod) : parse method.asStr = .ok method := by
  cases method <;> rfl

structure LangString where
  lang : String
  value : String
deriving DecidableEq

structure Course where
  id : String
  title : List LangString
  description : List LangString
deriving DecidableEq

structure Objective where
  id : String
  title : List LangString
  description : List LangString
deriving DecidableEq

/-- An `<au>`, the unit that is launched. Its mastery score is a float, of which the
type is left open. -/
structure AssignableUnit (Score : Type) where
  id : String
  moveOn : MoveOn
  masteryScore : Option Score
  launchMethod : Option LaunchMethod
  title : List LangString
  description : List LangString
  objectiveIds : List String
  url : String
  launchParameters : Option String
  entitlementKey : Option String
deriving DecidableEq

mutual

/-- A child of the course or of a block. -/
inductive Node (Score : Type) where
  | block (block : Block Score)
  | au (au : AssignableUnit Score)

structure Block (Score : Type) where
  id : String
  title : List LangString
  description : List LangString
  objectiveIds : List String
  children : List (Node Score)

end

structure CourseStructure (Score : Type) where
  course : Course
  objectives : List Objective
  nodes : List (Node Score)

variable {Score : Type}

mutual

def Node.collectAus : Node Score → List (AssignableUnit Score) → List (AssignableUnit Score)
  | .au au, out => out ++ [au]
  | .block ⟨_, _, _, _, children⟩, out => Cmi5.collectAus children out

def collectAus : List (Node Score) → List (AssignableUnit Score) → List (AssignableUnit Score)
  | [], out => out
  | node :: rest, out => Cmi5.collectAus rest (node.collectAus out)

end

/-- Every AU of the tree, in document order, however deep it lies. -/
def CourseStructure.assignableUnits (cs : CourseStructure Score) : List (AssignableUnit Score) :=
  collectAus cs.nodes []

@[elab_as_elim]
theorem Node.induction {motive : List (Node Score) → Prop} (nil : motive [])
    (au : ∀ unit rest, motive rest → motive (.au unit :: rest))
    (block : ∀ (group : Block Score) rest, motive group.children → motive rest → motive (.block group :: rest)) :
    ∀ nodes, motive nodes
  | [] => nil
  | .au unit :: rest => au unit rest (Node.induction nil au block rest)
  | .block ⟨id, title, description, objectiveIds, children⟩ :: rest =>
    block ⟨id, title, description, objectiveIds, children⟩ rest (Node.induction nil au block children)
      (Node.induction nil au block rest)

@[simp] theorem collectAus_au (unit : AssignableUnit Score) (rest : List (Node Score))
    (out : List (AssignableUnit Score)) :
    collectAus (.au unit :: rest) out = collectAus rest (out ++ [unit]) := rfl

@[simp] theorem collectAus_block (group : Block Score) (rest : List (Node Score))
    (out : List (AssignableUnit Score)) :
    collectAus (.block group :: rest) out = collectAus rest (collectAus group.children out) := by
  cases group
  rfl

theorem collectAus_eq_append (nodes : List (Node Score)) (out : List (AssignableUnit Score)) :
    collectAus nodes out = out ++ collectAus nodes [] := by
  induction nodes using Node.induction generalizing out with
  | nil => exact (List.append_nil out).symm
  | au unit rest ih =>
    rw [collectAus_au, collectAus_au, ih, ih ([] ++ [unit]), List.nil_append, List.append_assoc]
  | block group rest inner ih =>
    rw [collectAus_block, collectAus_block, ih, inner, ih (collectAus group.children []), List.append_assoc]

theorem collectAus_cons (node : Node Score) (rest : List (Node Score)) :
    collectAus (node :: rest) [] = collectAus [node] [] ++ collectAus rest [] := by
  cases node with
  | au unit => exact collectAus_eq_append rest _
  | block group => exact collectAus_eq_append rest _

end CoopSpaces.Cmi5
