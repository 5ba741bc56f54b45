import CoopSpaces.Cmi5.Structure
import CoopSpaces.Lib.EventLoop

namespace CoopSpaces.Cmi5

/-- An attribute of a start tag, its value as it is written there. -/
structure Attribute where
  localName : String
  value : String
deriving DecidableEq

structure Tag where
  localName : String
  attributes : List (Except String Attribute)

/-- What the XML reader delivers one by one. Comments, declarations and the like are `other`. -/
inductive Event where
  | start (tag : Tag)
  | empty (tag : Tag)
  | end_ (localName : String)
  | text (content : String)
  | cData (content : String)
  | generalRef (name : String)
  | other

/-- What is read of a document, up to its end or the first fault. -/
abbrev Events : Type := List (Except String Event)

/-- What libraries make of a document: its events, the value of an attribute, the character a
numeric reference stands for, and a number with whether it is in `0.0..=1.0`. -/
structure XmlReading (Doc Float : Type) where
  readEvents : Doc → Events
  normalizedValue : String → Except String String
  resolveCharRef : String → Except String (Option Char)
  parseFloat : String → Option Float
  inUnit : Float → Bool

abbrev XmlReading.Score {Doc Float : Type} (xml : XmlReading Doc Float) : Type := { v : Float // xml.inUnit v = true }

def resolvePredefinedEntity (name : String) : Option String :=
  if name = "lt" then some "<"
  else if name = "gt" then some ">"
  else if name = "amp" then some "&"
  else if name = "apos" then some "'"
  else if name = "quot" then some "\""
  else none

namespace XmlReading
variable {Doc Float : Type} (xml : XmlReading Doc Float)

/-- The value of a tag's attribute, by its local name. -/
def attr (tag : Tag) (want : String) : Except ManifestError (Option String) :=
  go tag.attributes
where
  go : List (Except String Attribute) → Except ManifestError (Option String)
    | [] => .ok none
    | .error message :: _ => .error (.xml message)
    | .ok a :: rest =>
      if a.localName = want then
        match xml.normalizedValue a.value with
        | .ok value => .ok (some value)
        | .error message => .error (.xml message)
      else go rest

def required (tag : Tag) (element want : String) : Except ManifestError String :=
  match xml.attr tag want with
  | .ok (some value) => .ok value
  | .ok none => .error (.missingAttribute element want)
  | .error error => .error error

end XmlReading

def again {σ α : Type} (s : σ) (rest : Events) : Except ManifestError ((σ ⊕ α) × Events) := .ok (.inl s, rest)

def leave {σ α : Type} (answer : α) (rest : Events) : Except ManifestError ((σ ⊕ α) × Events) :=
  .ok (.inr answer, rest)

/-- `loop { match reader.read_event()? { .. } }`, with the element named if the document ends in it. -/
def readLoop {σ α : Type} (element : String)
    (body : σ → Event → Events → Except ManifestError ((σ ⊕ α) × Events)) (s : σ)
    (events : Events) : Except ManifestError (α × Events) :=
  EventLoop.loop (.unexpectedEof element) .xml body s events

def skipTurn (name : String) (depth : Nat) (event : Event) (rest : Events) :
    Except ManifestError ((Nat ⊕ Unit) × Events) :=
  match event with
  | .start tag => again (if tag.localName = name then depth + 1 else depth) rest
  | .end_ localName =>
    if localName = name then if depth - 1 = 0 then leave () rest else again (depth - 1) rest else again depth rest
  | _ => again depth rest

/-- Reads on past the end tag of that name that matches the start tag before. -/
def skipToEnd (name : String) : Events → Except ManifestError (Unit × Events) := readLoop "element" (skipTurn name) 1

namespace XmlReading
variable {Doc Float : Type} (xml : XmlReading Doc Float)

/-- One piece of text: a run of it, or what a reference stands for. -/
def textPiece : Event → Except ManifestError (Option String)
  | .text content => .ok (some content)
  | .cData content => .ok (some content)
  | .generalRef name =>
    match xml.resolveCharRef name with
    | .error message => .error (.xml message)
    | .ok (some c) => .ok (some (String.singleton c))
    | .ok none =>
      match resolvePredefinedEntity name with
      | some replacement => .ok (some replacement)
      | none => .error (.xml ("unknown entity &" ++ name ++ ";"))
  | _ => .ok none

def textTurn (endTag text : String) (event : Event) (rest : Events) :
    Except ManifestError ((String ⊕ String) × Events) :=
  match event with
  | .end_ localName => if localName = endTag then leave text rest else again text rest
  | event => do
    let piece ← xml.textPiece event
    again (text ++ piece.getD "") rest

/-- Reads the text of a simple element, up to its end tag. -/
def parseText (endTag : String) : Events → Except ManifestError (String × Events) :=
  readLoop "text" (xml.textTurn endTag) ""

def langstringTurn (endTag : String) (out : List LangString) (event : Event) (rest : Events) :
    Except ManifestError ((List LangString ⊕ List LangString) × Events) :=
  match event with
  | .start tag =>
    if tag.localName = "langstring" then do
      let lang ← xml.attr tag "lang"
      let (value, rest) ← xml.parseText "langstring" rest
      again (out ++ [⟨lang.getD "", value⟩]) rest
    else again out rest
  | .empty tag =>
    if tag.localName = "langstring" then do
      let lang ← xml.attr tag "lang"
      again (out ++ [⟨lang.getD "", ""⟩]) rest
    else again out rest
  | .end_ localName => if localName = endTag then leave out rest else again out rest
  | _ => again out rest

/-- Reads the `<langstring>`s of a title or a description. -/
def parseLangstrings (endTag : String) : Events → Except ManifestError (List LangString × Events) :=
  readLoop "langstring" (xml.langstringTurn endTag) []

/-- An objective referred to, by `idref` or else by `id`. -/
def objectiveRef (tag : Tag) (refs : List String) : Except ManifestError (List String) := do
  let idref ← xml.attr tag "idref"
  let id ← xml.attr tag "id"
  .ok (refs ++ (idref.or id).toList)

def objectiveRefTurn (refs : List String) (event : Event) (rest : Events) :
    Except ManifestError ((List String ⊕ List String) × Events) :=
  match event with
  | .start tag | .empty tag =>
    if tag.localName = "objective" then do
      let refs ← xml.objectiveRef tag refs
      again refs rest
    else again refs rest
  | .end_ localName => if localName = "objectives" then leave refs rest else again refs rest
  | _ => again refs rest

def parseObjectiveRefs : Events → Except ManifestError (List String × Events) :=
  readLoop "objectives" xml.objectiveRefTurn []

def courseTurn (course : Course) (event : Event) (rest : Events) :
    Except ManifestError ((Course ⊕ Course) × Events) :=
  match event with
  | .start tag =>
    if tag.localName = "title" then do
      let (title, rest) ← xml.parseLangstrings "title" rest
      again { course with title } rest
    else if tag.localName = "description" then do
      let (description, rest) ← xml.parseLangstrings "description" rest
      again { course with description } rest
    else do
      let (_, rest) ← skipToEnd tag.localName rest
      again course rest
  | .end_ localName => if localName = "course" then leave course rest else again course rest
  | _ => again course rest

def parseCourse (tag : Tag) (empty : Bool) (events : Events) : Except ManifestError (Course × Events) := do
  let id ← xml.required tag "course" "id"
  if empty then return (⟨id, [], []⟩, events)
  readLoop "course" xml.courseTurn ⟨id, [], []⟩ events

def objectiveTurn (objective : Objective) (event : Event) (rest : Events) :
    Except ManifestError ((Objective ⊕ Objective) × Events) :=
  match event with
  | .start tag =>
    if tag.localName = "title" then do
      let (title, rest) ← xml.parseLangstrings "title" rest
      again { objective with title } rest
    else if tag.localName = "description" then do
      let (description, rest) ← xml.parseLangstrings "description" rest
      again { objective with description } rest
    else do
      let (_, rest) ← skipToEnd tag.localName rest
      again objective rest
  | .end_ localName => if localName = "objective" then leave objective rest else again objective rest
  | _ => again objective rest

/-- One objective of the course's list, the inner loop of `parseObjectives`. -/
def parseObjective (tag : Tag) (events : Events) : Except ManifestError (Objective × Events) := do
  let id ← xml.required tag "objective" "id"
  readLoop "objective" xml.objectiveTurn ⟨id, [], []⟩ events

def objectivesTurn (objectives : List Objective) (event : Event) (rest : Events) :
    Except ManifestError ((List Objective ⊕ List Objective) × Events) :=
  match event with
  | .start tag =>
    if tag.localName = "objective" then do
      let (objective, rest) ← xml.parseObjective tag rest
      again (objectives ++ [objective]) rest
    else again objectives rest
  | .end_ localName => if localName = "objectives" then leave objectives rest else again objectives rest
  | _ => again objectives rest

def parseObjectives : Events → Except ManifestError (List Objective × Events) :=
  readLoop "objectives" xml.objectivesTurn []

def parseMasteryScore (s : String) : Except ManifestError xml.Score :=
  match xml.parseFloat s with
  | some v => if inUnit : xml.inUnit v = true then .ok ⟨v, inUnit⟩ else .error (.badMasteryScore s)
  | none => .error (.badMasteryScore s)

/-- An AU of which the url is still to come. -/
structure UnitSoFar (Score : Type) where
  id : String
  moveOn : MoveOn
  masteryScore : Option Score
  launchMethod : Option LaunchMethod
  title : List LangString
  description : List LangString
  objectiveIds : List String
  url : Option String
  launchParameters : Option String
  entitlementKey : Option String

def UnitSoFar.complete {Score : Type} (au : UnitSoFar Score) : Except ManifestError (AssignableUnit Score) :=
  match au.url with
  | none => .error (.missingElement "url")
  | some url =>
    .ok
      { id := au.id, moveOn := au.moveOn, masteryScore := au.masteryScore, launchMethod := au.launchMethod,
        title := au.title
        description := au.description, objectiveIds := au.objectiveIds, url, launchParameters := au.launchParameters
        entitlementKey := au.entitlementKey }

/-- What the start tag of an AU says. -/
def auTag (tag : Tag) : Except ManifestError (UnitSoFar xml.Score) := do
  let id ← xml.required tag "au" "id"
  let moveOn ←
    match ← xml.attr tag "moveOn" with
    | some s => MoveOn.parse s
    | none => .ok .notApplicable
  let masteryScore ←
    match ← xml.attr tag "masteryScore" with
    | some s => do
      let score ← xml.parseMasteryScore s
      pure (some score)
    | none => pure none
  let launchMethod ←
    match ← xml.attr tag "launchMethod" with
    | some s => do
      let method ← LaunchMethod.parse s
      pure (some method)
    | none => pure none
  return ⟨id, moveOn, masteryScore, launchMethod, [], [], [], none, none, none⟩

def auTurn (au : UnitSoFar xml.Score) (event : Event) (rest : Events) :
    Except ManifestError ((UnitSoFar xml.Score ⊕ UnitSoFar xml.Score) × Events) :=
  match event with
  | .start tag =>
    if tag.localName = "title" then do
      let (title, rest) ← xml.parseLangstrings "title" rest
      again { au with title } rest
    else if tag.localName = "description" then do
      let (description, rest) ← xml.parseLangstrings "description" rest
      again { au with description } rest
    else if tag.localName = "objectives" then do
      let (objectiveIds, rest) ← xml.parseObjectiveRefs rest
      again { au with objectiveIds } rest
    else if tag.localName = "url" then do
      let (url, rest) ← xml.parseText "url" rest
      again { au with url := some url } rest
    else if tag.localName = "launchParameters" then do
      let (launchParameters, rest) ← xml.parseText "launchParameters" rest
      again { au with launchParameters := some launchParameters } rest
    else if tag.localName = "entitlementKey" then do
      let (entitlementKey, rest) ← xml.parseText "entitlementKey" rest
      again { au with entitlementKey := some entitlementKey } rest
    else do
      let (_, rest) ← skipToEnd tag.localName rest
      again au rest
  | .empty tag =>
    if tag.localName = "url" then again { au with url := some "" } rest
    else if tag.localName = "launchParameters" then again { au with launchParameters := some "" } rest
    else if tag.localName = "entitlementKey" then again { au with entitlementKey := some "" } rest
    else again au rest
  | .end_ localName => if localName = "au" then leave au rest else again au rest
  | _ => again au rest

def parseAu (tag : Tag) (empty : Bool) (events : Events) :
    Except ManifestError (AssignableUnit xml.Score × Events) := do
  let au ← xml.auTag tag
  if empty then throw (.missingElement "url")
  let (au, rest) ← readLoop "au" xml.auTurn au events
  let au ← au.complete
  return (au, rest)

/-- A turn of the loop of `parseBlock`, given how it calls itself. -/
def blockTurn (parseBlock : Tag → Bool → Events → Except ManifestError (Block xml.Score × Events))
    (block : Block xml.Score)
    (event : Event) (rest : Events) : Except ManifestError ((Block xml.Score ⊕ Block xml.Score) × Events) :=
  match event with
  | .start tag =>
    if tag.localName = "title" then do
      let (title, rest) ← xml.parseLangstrings "title" rest
      again { block with title } rest
    else if tag.localName = "description" then do
      let (description, rest) ← xml.parseLangstrings "description" rest
      again { block with description } rest
    else if tag.localName = "objectives" then do
      let (objectiveIds, rest) ← xml.parseObjectiveRefs rest
      again { block with objectiveIds } rest
    else if tag.localName = "block" then do
      let (child, rest) ← parseBlock tag false rest
      again { block with children := block.children ++ [.block child] } rest
    else if tag.localName = "au" then do
      let (child, rest) ← xml.parseAu tag false rest
      again { block with children := block.children ++ [.au child] } rest
    else do
      let (_, rest) ← skipToEnd tag.localName rest
      again block rest
  | .empty tag =>
    if tag.localName = "block" then do
      let (child, rest) ← parseBlock tag true rest
      again { block with children := block.children ++ [.block child] } rest
    else if tag.localName = "au" then do
      let (child, rest) ← xml.parseAu tag true rest
      again { block with children := block.children ++ [.au child] } rest
    else again block rest
  | .end_ localName => if localName = "block" then leave block rest else again block rest
  | _ => again block rest

/-- A block, with blocks in it as deep as there are events to make them of. -/
def parseBlock : Nat → Tag → Bool → Events → Except ManifestError (Block xml.Score × Events)
  | 0, _, _, _ => .error (.unexpectedEof "block")
  | depth + 1, tag, empty, events => do
    let id ← xml.required tag "block" "id"
    if empty then return (⟨id, [], [], [], []⟩, events)
    readLoop "block" (xml.blockTurn (parseBlock depth)) ⟨id, [], [], [], []⟩ events

/-- What a course structure is as far as it is read. -/
structure StructureSoFar (Score : Type) where
  course : Option Course
  objectives : List Objective
  nodes : List (Node Score)

def StructureSoFar.complete {Score : Type} (cs : StructureSoFar Score) :
    Except ManifestError (CourseStructure Score) :=
  match cs.course with
  | none => .error (.missingElement "course")
  | some course => .ok ⟨course, cs.objectives, cs.nodes⟩

def structureTurn (cs : StructureSoFar xml.Score) (event : Event) (rest : Events) :
    Except ManifestError ((StructureSoFar xml.Score ⊕ StructureSoFar xml.Score) × Events) :=
  match event with
  | .start tag =>
    if tag.localName = "course" then do
      let (course, rest) ← xml.parseCourse tag false rest
      again { cs with course := some course } rest
    else if tag.localName = "objectives" then do
      let (objectives, rest) ← xml.parseObjectives rest
      again { cs with objectives } rest
    else if tag.localName = "block" then do
      let (block, rest) ← xml.parseBlock (rest.length + 1) tag false rest
      again { cs with nodes := cs.nodes ++ [.block block] } rest
    else if tag.localName = "au" then do
      let (au, rest) ← xml.parseAu tag false rest
      again { cs with nodes := cs.nodes ++ [.au au] } rest
    else do
      let (_, rest) ← skipToEnd tag.localName rest
      again cs rest
  | .empty tag =>
    if tag.localName = "course" then do
      let (course, rest) ← xml.parseCourse tag true rest
      again { cs with course := some course } rest
    else if tag.localName = "block" then do
      let (block, rest) ← xml.parseBlock (rest.length + 1) tag true rest
      again { cs with nodes := cs.nodes ++ [.block block] } rest
    else if tag.localName = "au" then do
      let (au, rest) ← xml.parseAu tag true rest
      again { cs with nodes := cs.nodes ++ [.au au] } rest
    else again cs rest
  | .end_ localName => if localName = "courseStructure" then leave cs rest else again cs rest
  | _ => again cs rest

def parseCourseStructure (events : Events) : Except ManifestError (CourseStructure xml.Score × Events) := do
  let (cs, rest) ← readLoop "courseStructure" xml.structureTurn ⟨none, [], []⟩ events
  let cs ← cs.complete
  return (cs, rest)

/-- The document is read up to the start of its structure, and no further than to its end. -/
def parseEvents : Events → Except ManifestError (CourseStructure xml.Score)
  | [] => .error (.missingElement "courseStructure")
  | .error message :: _ => .error (.xml message)
  | .ok (.start tag) :: rest =>
    if tag.localName = "courseStructure" then do
      let (cs, _) ← xml.parseCourseStructure rest
      return cs
    else parseEvents rest
  | .ok _ :: rest => parseEvents rest

def parseManifest (doc : Doc) : Except ManifestError (CourseStructure xml.Score) :=
  xml.parseEvents (xml.readEvents doc)

end XmlReading

end CoopSpaces.Cmi5
