import Mathlib.Tactic.Common

namespace CoopSpaces.Cmi5

/-! The xAPI statements that cmi5 content sends, as far as they are judged. -/

namespace verbs
def INITIALIZED : String := "http://adlnet.gov/expapi/verbs/initialized"
def COMPLETED : String := "http://adlnet.gov/expapi/verbs/completed"
def PASSED : String := "http://adlnet.gov/expapi/verbs/passed"
def FAILED : String := "http://adlnet.gov/expapi/verbs/failed"
def TERMINATED : String := "http://adlnet.gov/expapi/verbs/terminated"
end verbs

namespace categories
/-- Marks a statement as one that cmi5 defines. -/
def CMI5 : String := "https://w3id.org/xapi/cmi5/context/categories/cmi5"
/-- Marks a statement as counting toward `moveOn`. -/
def MOVEON : String := "https://w3id.org/xapi/cmi5/context/categories/moveon"
end categories

structure Account where
  homePage : String
  name : String
deriving DecidableEq

structure Agent where
  objectType : Option String
  name : Option String
  mbox : Option String
  account : Option Account
deriving DecidableEq

structure Verb where
  id : String
deriving DecidableEq

structure Activity where
  id : String
deriving DecidableEq

structure Score (Float : Type) where
  scaled : Option Float
deriving DecidableEq

structure XResult (Float : Type) where
  score : Option (Score Float)
  success : Option Bool
  completion : Option Bool
deriving DecidableEq

structure ContextActivities where
  category : Option (List Activity)
deriving DecidableEq

structure Context (Uuid : Type) where
  registration : Option Uuid
  contextActivities : Option ContextActivities
deriving DecidableEq

structure Statement (Uuid Float : Type) where
  id : Option Uuid
  actor : Agent
  verb : Verb
  object : Activity
  result : Option (XResult Float)
  context : Option (Context Uuid)
deriving DecidableEq

def ContextActivities.hasCategory (activities : ContextActivities) (iri : String) : Bool :=
  (activities.category.map fun cats => cats.any fun a => a.id == iri).getD false

namespace Statement
variable {Uuid Float : Type} (stmt : Statement Uuid Float)

def verbId : String := stmt.verb.id

def objectActivityId : String := stmt.object.id

def registration : Option Uuid := stmt.context.bind Context.registration

def hasCategory (iri : String) : Bool :=
  ((stmt.context.bind Context.contextActivities).map fun ca => ca.hasCategory iri).getD false

def isMoveon : Bool := stmt.hasCategory categories.MOVEON

end Statement

end CoopSpaces.Cmi5
