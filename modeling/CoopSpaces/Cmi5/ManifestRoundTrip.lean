import CoopSpaces.Cmi5.ManifestFrames

namespace CoopSpaces.Cmi5

open XmlReading (UnitSoFar StructureSoFar)

/-- What libraries do to write a document: an attribute's value and a text escaped, a number
printed, and the whole put together. `content` is what the reader makes of a text so escaped. -/
structure XmlWriting (Doc Float : Type) extends XmlReading Doc Float where
  escape : String → String
  bytesText : String → String
  content : String → List Event
  display : Float → String
  write : List Event → Except String Doc

def elementNames : List String :=
  ["courseStructure", "course", "objectives", "objective", "block", "au", "title", "description", "langstring", "url",
    "launchParameters", "entitlementKey"]

def attributeNames : List String := ["xmlns", "id", "idref", "lang", "moveOn", "masteryScore", "launchMethod"]

/-- What text is read as: runs of it, and references. -/
def Event.isText : Event → Bool
  | .text _ => true
  | .generalRef _ => true
  | _ => false

def COURSE_STRUCTURE_NS : String := "https://w3id.org/xapi/profiles/cmi5/v1/CourseStructure.xsd"

namespace XmlWriting
variable {Doc Float : Type} (xml : XmlWriting Doc Float)

def tag (name : String) (attributes : List (String × String)) : Tag :=
  ⟨name, attributes.map fun pushed => .ok ⟨pushed.1, xml.escape pushed.2⟩⟩

def writeTextElement (name text : String) : List Event :=
  [.start (xml.tag name []), .text (xml.bytesText text), .end_ name]

def writeLangstring (s : LangString) : List Event :=
  [.start (xml.tag "langstring" [("lang", s.lang)]), .text (xml.bytesText s.value), .end_ "langstring"]

def writeLangstrings (wrapper : String) (strings : List LangString) : List Event :=
  if strings.isEmpty then []
  else .start (xml.tag wrapper []) :: strings.flatMap xml.writeLangstring ++ [.end_ wrapper]

def writeObjectiveRefs (ids : List String) : List Event :=
  if ids.isEmpty then []
  else .start (xml.tag "objectives" []) :: ids.map (fun id => .empty (xml.tag "objective" [("idref", id)])) ++
    [.end_ "objectives"]

def writeCourse (c : Course) : List Event :=
  .start (xml.tag "course" [("id", c.id)]) :: xml.writeLangstrings "title" c.title ++
    xml.writeLangstrings "description" c.description ++ [.end_ "course"]

def writeObjective (o : Objective) : List Event :=
  .start (xml.tag "objective" [("id", o.id)]) :: xml.writeLangstrings "title" o.title ++
    xml.writeLangstrings "description" o.description ++ [.end_ "objective"]

def writeObjectives (objs : List Objective) : List Event :=
  .start (xml.tag "objectives" []) :: objs.flatMap xml.writeObjective ++ [.end_ "objectives"]

def auAttributes (au : AssignableUnit xml.Score) : List (String × String) :=
  [("id", au.id), ("moveOn", au.moveOn.asStr)] ++
    (au.masteryScore.map fun m => ("masteryScore", xml.display m.val)).toList ++
    (au.launchMethod.map fun lm => ("launchMethod", lm.asStr)).toList

def writeAu (au : AssignableUnit xml.Score) : List Event :=
  .start (xml.tag "au" (xml.auAttributes au)) :: xml.writeLangstrings "title" au.title ++
    xml.writeLangstrings "description" au.description ++ xml.writeObjectiveRefs au.objectiveIds ++
      xml.writeTextElement "url" au.url ++
        (au.launchParameters.map (xml.writeTextElement "launchParameters")).getD [] ++
        (au.entitlementKey.map (xml.writeTextElement "entitlementKey")).getD [] ++ [.end_ "au"]

mutual

def writeNode : Node xml.Score → List Event
  | .au au => xml.writeAu au
  | .block ⟨id, title, description, objectiveIds, children⟩ =>
    .start (xml.tag "block" [("id", id)]) :: xml.writeLangstrings "title" title ++
      xml.writeLangstrings "description" description ++ xml.writeObjectiveRefs objectiveIds ++
        writeNodes children ++ [.end_ "block"]

def writeNodes : List (Node xml.Score) → List Event
  | [] => []
  | node :: rest => writeNode node ++ writeNodes rest

end

def manifestEvents (cs : CourseStructure xml.Score) : List Event :=
  .start (xml.tag "courseStructure" [("xmlns", COURSE_STRUCTURE_NS)]) :: xml.writeCourse cs.course ++
    (if cs.objectives.isEmpty then [] else xml.writeObjectives cs.objectives) ++ xml.writeNodes cs.nodes ++
      [.end_ "courseStructure"]

def toManifestXml (cs : CourseStructure xml.Score) : Except ManifestError Doc :=
  match xml.write (xml.manifestEvents cs) with
  | .ok doc => .ok doc
  | .error message => .error (.xml message)

@[simp] theorem tag_localName (name : String) (attributes : List (String × String)) :
    (xml.tag name attributes).localName = name := rfl

/-- What is read of events once they are written: each text as the reader takes it. -/
def readBack (events : List Event) : List Event :=
  events.flatMap fun
    | .text raw => xml.content raw
    | event => [event]

/-- The text that pieces of it make up. -/
def textOf : List Event → Except ManifestError String
  | [] => .ok ""
  | event :: rest => do
    let piece ← xml.textPiece event
    let text ← textOf rest
    .ok (piece.getD "" ++ text)

/-- A tag of the schema: its name is one of these, and so are those of its attributes, which
do not repeat. Their values are escaped. -/
def Plain (tag : Tag) : Prop :=
  ∃ name attributes, tag = xml.tag name attributes ∧ name ∈ elementNames ∧ (attributes.map Prod.fst).Nodup ∧
    ∀ attr ∈ attributes, attr.1 ∈ attributeNames

/-- Tags nest, and a text is the last thing there is in its element. -/
def Nests : List String → List Event → Prop
  | [], [] => True
  | opened, .start tag :: rest => xml.Plain tag ∧ Nests (tag.localName :: opened) rest
  | opened, .empty tag :: rest => xml.Plain tag ∧ Nests opened rest
  | name :: opened, .end_ localName :: rest => localName = name ∧ Nests opened rest
  | name :: opened, .text raw :: .end_ localName :: rest =>
    (∃ text, raw = xml.bytesText text) ∧ localName = name ∧ Nests opened rest
  | _, _ => False

/-- Escaping and printing are undone by reading, and so is writing event by event. -/
structure Inverse : Prop where
  attr : ∀ value, xml.normalizedValue (xml.escape value) = .ok value
  text : ∀ text, xml.textOf (xml.content (xml.bytesText text)) = .ok text
  between : ∀ text, ∀ event ∈ xml.content (xml.bytesText text), event.isText = true
  number : ∀ v, xml.inUnit v = true → xml.parseFloat (xml.display v) = some v
  events : ∀ events, xml.Nests [] events → ∃ doc, xml.write events = .ok doc ∧
    xml.readEvents doc = (xml.readBack events).map .ok

/-- Events as the reader delivers them once they are written. -/
def delivered (events : List Event) : Events := (xml.readBack events).map .ok

@[simp] theorem delivered_append (events more : List Event) :
    xml.delivered (events ++ more) = xml.delivered events ++ xml.delivered more := by
  unfold delivered readBack
  rw [List.flatMap_append, List.map_append]

@[simp] theorem delivered_start (tag : Tag) (rest : List Event) :
    xml.delivered (.start tag :: rest) = .ok (.start tag) :: xml.delivered rest := rfl

theorem delivered_end_singleton (localName : String) :
    xml.delivered [.end_ localName] = [.ok (.end_ localName)] := rfl

theorem delivered_text (raw : String) (rest : List Event) :
    xml.delivered (.text raw :: rest) = (xml.content raw).map .ok ++ xml.delivered rest := by
  unfold delivered readBack
  rw [List.flatMap_cons, List.map_append]

section RoundTrip

variable {xml} {top next : Frame xml.Score} {below : List (Frame xml.Score)} {rest : Events}

open XmlReading

theorem attr_tag (inverse : xml.Inverse) (name want : String) (attributes : List (String × String)) :
    xml.attr (xml.tag name attributes) want = .ok (attributes.lookup want) := by
  unfold attr tag
  induction attributes with
  | nil => rfl
  | cons pushed rest ih =>
    rw [List.map_cons, attr.go, List.lookup_cons]
    by_cases here : pushed.1 = want
    · rw [if_pos here, inverse.attr, here, beq_self_eq_true]
    · rw [if_neg here, beq_false_of_ne (Ne.symm here)]
      exact ih

theorem required_tag (inverse : xml.Inverse) (name want value : String) (attributes : List (String × String))
    (found : attributes.lookup want = some value) : xml.required (xml.tag name attributes) name want = .ok value := by
  rw [required, attr_tag inverse, found]

/-- Pieces of a text are put together as they come. -/
theorem run_pieces {endTag lang text more : String} {pieces : List Event}
    (isText : ∀ event ∈ pieces, event.isText = true)
    (whole : xml.textOf pieces = .ok more) :
    xml.run (.within (.text endTag lang text) below) (pieces.map .ok ++ rest) =
      xml.run (.within (.text endTag lang (text ++ more)) below) rest := by
  induction pieces generalizing text more with
  | nil =>
    injection whole with whole
    subst whole
    rw [String.append_empty]
    rfl
  | cons event pieces ih =>
    have between : ∀ frame : Frame xml.Score,
        xml.step frame below event = (xml.between frame event).map (.within · below) := by
      have here := isText event List.mem_cons_self
      cases event with
      | text content => intro frame; rfl
      | generalRef name => intro frame; rfl
      | _ => cases here
    rw [textOf] at whole
    rcases first : xml.textPiece event with error | piece
    · rw [first] at whole
      cases whole
    rcases others : xml.textOf pieces with error | after
    · rw [first, others] at whole
      cases whole
    rw [first, others] at whole
    injection whole with whole
    subst whole
    have joined : xml.between (.text endTag lang text) event = .ok (.text endTag lang (text ++ piece.getD "")) := by
      rw [XmlReading.between, first]
      rfl
    rw [List.map_cons, List.cons_append, run, between, joined]
    show xml.run (.within (.text endTag lang (text ++ piece.getD "")) below) _ = _
    rw [ih (fun event member => isText event (List.mem_cons_of_mem _ member)) others, String.append_assoc]

theorem run_text (inverse : xml.Inverse) {endTag lang text : String} :
    xml.run (.within (.text endTag lang "") below) (xml.delivered [.text (xml.bytesText text)] ++ rest) =
      xml.run (.within (.text endTag lang text) below) rest := by
  rw [delivered_text, List.append_assoc, run_pieces (inverse.between text) (inverse.text text), String.empty_append]
  rfl

theorem run_element {tag : Tag} {child done : Frame xml.Score} (events : List Event) {localName : String}
    (enters : xml.enter top tag = .ok (.call child))
    (reads : ∀ rest, xml.run (.within child (top :: below)) (xml.delivered events ++ rest) =
      xml.run (.within done (top :: below)) rest)
    (ends : done.afterEnd localName = none) (receives : top.receive done = .ok next) :
    xml.run (.within top below) (xml.delivered (.start tag :: events ++ [.end_ localName]) ++ rest) =
      xml.run (.within next below) rest := by
  rw [List.cons_append, delivered_start, List.cons_append, run_start enters, delivered_append, List.append_assoc,
    reads]
  exact run_return ends receives

theorem run_flatMap {α : Type} {write : α → List Event} (at_ : List α → Frame xml.Score)
    (one : ∀ out x rest, xml.run (.within (at_ out) below) (xml.delivered (write x) ++ rest) =
      xml.run (.within (at_ (out ++ [x])) below) rest)
    (out more : List α) (rest : Events) :
    xml.run (.within (at_ out) below) (xml.delivered (more.flatMap write) ++ rest) =
      xml.run (.within (at_ (out ++ more)) below) rest := by
  induction more generalizing out with
  | nil =>
    rw [List.append_nil]
    rfl
  | cons x more ih =>
    rw [List.flatMap_cons, delivered_append, List.append_assoc, one, ih, List.append_assoc, List.singleton_append]

section
variable (inverse : xml.Inverse)
include inverse

theorem run_writeLangstring {endTag : String} (out : List LangString) (s : LangString) (rest : Events) :
    xml.run (.within (.langstrings endTag out) below) (xml.delivered (xml.writeLangstring s) ++ rest) =
      xml.run (.within (.langstrings endTag (out ++ [s])) below) rest := by
  have enters : xml.enter (.langstrings endTag out) (xml.tag "langstring" [("lang", s.lang)]) =
      .ok (.call (.text "langstring" s.lang "")) := by
    rw [enter, tag_localName, if_pos rfl, attr_tag inverse]
    rfl
  exact run_element [.text (xml.bytesText s.value)] enters (fun _ => run_text inverse) (if_pos rfl) rfl

theorem run_writeLangstrings (next : Frame xml.Score) {wrapper : String} {strings : List LangString}
    (enters : xml.enter top (xml.tag wrapper []) = .ok (.call (.langstrings wrapper [])))
    (receives : top.receive (.langstrings wrapper strings) = .ok next) (unchanged : strings = [] → next = top) :
    xml.run (.within top below) (xml.delivered (xml.writeLangstrings wrapper strings) ++ rest) =
      xml.run (.within next below) rest := by
  unfold writeLangstrings
  cases strings with
  | nil =>
    rw [unchanged rfl]
    rfl
  | cons s strings =>
    exact run_element _ enters
      (run_flatMap (.langstrings wrapper) (run_writeLangstring inverse) [] (s :: strings)) (if_pos rfl) receives

theorem run_writeObjectiveRefs (next : Frame xml.Score) {ids : List String}
    (enters : xml.enter top (xml.tag "objectives" []) = .ok (.call (.objectiveRefs [])))
    (receives : top.receive (.objectiveRefs ids) = .ok next) (unchanged : ids = [] → next = top) :
    xml.run (.within top below) (xml.delivered (xml.writeObjectiveRefs ids) ++ rest) =
      xml.run (.within next below) rest := by
  have one : ∀ refs id rest, xml.run (.within (.objectiveRefs refs) (top :: below))
      (xml.delivered [.empty (xml.tag "objective" [("idref", id)])] ++ rest) =
        xml.run (.within (.objectiveRefs (refs ++ [id])) (top :: below)) rest := by
    intro refs id rest
    have passes : xml.pass (.objectiveRefs refs) (xml.tag "objective" [("idref", id)]) =
        .ok (.objectiveRefs (refs ++ [id])) := by
      rw [XmlReading.pass, tag_localName, if_pos rfl, objectiveRef, attr_tag inverse, attr_tag inverse]
      rfl
    exact run_empty passes
  unfold writeObjectiveRefs
  cases ids with
  | nil =>
    rw [unchanged rfl]
    rfl
  | cons id ids =>
    rw [List.isEmpty_cons, if_neg Bool.false_ne_true, List.map_eq_flatMap]
    exact run_element _ enters (run_flatMap .objectiveRefs one [] (id :: ids)) (if_pos rfl) receives

theorem run_writeTextElement {name text : String}
    (enters : xml.enter top (xml.tag name []) = .ok (.call (.text name "" "")))
    (receives : top.receive (.text name "" text) = .ok next) :
    xml.run (.within top below) (xml.delivered (xml.writeTextElement name text) ++ rest) =
      xml.run (.within next below) rest :=
  run_element [.text (xml.bytesText text)] enters (fun _ => run_text inverse) (if_pos rfl) receives

theorem run_writeCourse {c : Course}
    (enters : xml.enter top (xml.tag "course" [("id", c.id)]) = .ok (.call (.course ⟨c.id, [], []⟩)))
    (receives : top.receive (.course c) = .ok next) :
    xml.run (.within top below) (xml.delivered (xml.writeCourse c) ++ rest) = xml.run (.within next below) rest := by
  have reads : ∀ rest, xml.run (.within (.course ⟨c.id, [], []⟩) (top :: below))
      (xml.delivered (xml.writeLangstrings "title" c.title ++
        xml.writeLangstrings "description" c.description) ++ rest) =
        xml.run (.within (.course c) (top :: below)) rest := by
    intro rest
    rw [delivered_append, List.append_assoc,
      run_writeLangstrings inverse (.course ⟨c.id, c.title, []⟩) rfl rfl (fun none => by rw [none]),
      run_writeLangstrings inverse (.course c) rfl rfl (fun none => by rw [← none])]
  exact run_element _ enters reads (if_pos rfl) receives

theorem run_writeObjective (out : List Objective) (o : Objective) (rest : Events) :
    xml.run (.within (.objectives out) below) (xml.delivered (xml.writeObjective o) ++ rest) =
      xml.run (.within (.objectives (out ++ [o])) below) rest := by
  have enters : xml.enter (.objectives out) (xml.tag "objective" [("id", o.id)]) =
      .ok (.call (.objective ⟨o.id, [], []⟩)) := by
    rw [enter, tag_localName, if_pos rfl, required_tag inverse _ _ o.id _ rfl]
    rfl
  have reads : ∀ rest, xml.run (.within (.objective ⟨o.id, [], []⟩) (.objectives out :: below))
      (xml.delivered (xml.writeLangstrings "title" o.title ++
        xml.writeLangstrings "description" o.description) ++ rest) =
        xml.run (.within (.objective o) (.objectives out :: below)) rest := by
    intro rest
    rw [delivered_append, List.append_assoc,
      run_writeLangstrings inverse (.objective ⟨o.id, o.title, []⟩) rfl rfl (fun none => by rw [none]),
      run_writeLangstrings inverse (.objective o) rfl rfl (fun none => by rw [← none])]
  exact run_element _ enters reads (if_pos rfl) rfl

theorem run_writeObjectives {objs : List Objective}
    (enters : xml.enter top (xml.tag "objectives" []) = .ok (.call (.objectives [])))
    (receives : top.receive (.objectives objs) = .ok next) :
    xml.run (.within top below) (xml.delivered (xml.writeObjectives objs) ++ rest) =
      xml.run (.within next below) rest :=
  run_element _ enters (run_flatMap .objectives (run_writeObjective inverse) [] objs) (if_pos rfl) receives

/-- What the tag of a written AU says is all but what its elements do. -/
theorem auTag_written (au : AssignableUnit xml.Score) :
    xml.auTag (xml.tag "au" (xml.auAttributes au)) =
      .ok ⟨au.id, au.moveOn, au.masteryScore, au.launchMethod, [], [], [], none, none, none⟩ := by
  have parsed : ∀ m : xml.Score, xml.parseMasteryScore (xml.display m.val) = .ok m := by
    intro m
    rw [parseMasteryScore, inverse.number m.val m.property]
    exact dif_pos m.property
  have id : (xml.auAttributes au).lookup "id" = some au.id := rfl
  have moveOn : (xml.auAttributes au).lookup "moveOn" = some au.moveOn.asStr := rfl
  have score : (xml.auAttributes au).lookup "masteryScore" = au.masteryScore.map fun m => xml.display m.val := by
    unfold auAttributes
    cases au.masteryScore <;> cases au.launchMethod <;> rfl
  have method : (xml.auAttributes au).lookup "launchMethod" = au.launchMethod.map LaunchMethod.asStr := by
    unfold auAttributes
    cases au.masteryScore <;> cases au.launchMethod <;> rfl
  rw [auTag, required_tag inverse _ _ _ _ id, attr_tag inverse, moveOn, attr_tag inverse, score,
    attr_tag inverse, method]
  cases au.masteryScore <;> cases au.launchMethod <;>
    simp only [Option.map, bind, Except.bind, pure, Except.pure, MoveOn.parse_asStr, LaunchMethod.parse_asStr, parsed]

theorem run_writeOptional (next : Frame xml.Score) {name : String} {text : Option String}
    (enters : xml.enter top (xml.tag name []) = .ok (.call (.text name "" "")))
    (receives : ∀ t, text = some t → top.receive (.text name "" t) = .ok next)
    (unchanged : text = none → next = top) :
    xml.run (.within top below) (xml.delivered ((text.map (xml.writeTextElement name)).getD []) ++ rest) =
      xml.run (.within next below) rest := by
  cases text with
  | none =>
    rw [unchanged rfl]
    rfl
  | some t => exact run_writeTextElement inverse enters (receives t rfl)

end

/-- The children of a block or of the course are gathered in this call. -/
structure Gathers (xml : XmlWriting Doc Float) (at_ : List (Node xml.Score) → Frame xml.Score) : Prop where
  enterAu : ∀ nodes attributes au, xml.auTag (xml.tag "au" attributes) = .ok au →
    xml.enter (at_ nodes) (xml.tag "au" attributes) = .ok (.call (.au au))
  receiveAu : ∀ nodes au unit, au.complete = .ok unit → (at_ nodes).receive (.au au) = .ok (at_ (nodes ++ [.au unit]))
  enterBlock : ∀ nodes attributes id, xml.required (xml.tag "block" attributes) "block" "id" = .ok id →
    xml.enter (at_ nodes) (xml.tag "block" attributes) = .ok (.call (.block ⟨id, [], [], [], []⟩))
  receiveBlock : ∀ nodes block, (at_ nodes).receive (.block block) = .ok (at_ (nodes ++ [.block block]))

theorem gathers_block (id : String) (title description : List LangString) (objectiveIds : List String) :
    Gathers xml fun children => .block ⟨id, title, description, objectiveIds, children⟩ where
  enterAu nodes attributes au read := by
    show (xml.auTag (xml.tag "au" attributes) >>= _) = _
    rw [read]
    rfl
  receiveAu nodes au unit complete := by
    show (au.complete >>= _) = _
    rw [complete]
    rfl
  enterBlock nodes attributes id read := by
    show (xml.required (xml.tag "block" attributes) "block" "id" >>= _) = _
    rw [read]
    rfl
  receiveBlock nodes block := rfl

theorem gathers_structure (course : Option Course) (objectives : List Objective) :
    Gathers xml fun nodes => .courseStructure ⟨course, objectives, nodes⟩ where
  enterAu nodes attributes au read := by
    show (xml.auTag (xml.tag "au" attributes) >>= _) = _
    rw [read]
    rfl
  receiveAu nodes au unit complete := by
    show (au.complete >>= _) = _
    rw [complete]
    rfl
  enterBlock nodes attributes id read := by
    show (xml.required (xml.tag "block" attributes) "block" "id" >>= _) = _
    rw [read]
    rfl
  receiveBlock nodes block := rfl

theorem run_writeAu (inverse : xml.Inverse) {at_ : List (Node xml.Score) → Frame xml.Score}
    (gathers : Gathers xml at_)
    (nodes : List (Node xml.Score)) (au : AssignableUnit xml.Score) :
    xml.run (.within (at_ nodes) below) (xml.delivered (xml.writeAu au) ++ rest) =
      xml.run (.within (at_ (nodes ++ [.au au])) below) rest := by
  obtain ⟨id, moveOn, masteryScore, launchMethod, title, description, objectiveIds, url, launchParameters,
    entitlementKey⟩ := au
  have reads : ∀ rest, xml.run
    (.within (.au ⟨id, moveOn, masteryScore, launchMethod, [], [], [], none, none, none⟩) (at_ nodes :: below))
      (xml.delivered (xml.writeLangstrings "title" title ++ xml.writeLangstrings "description" description ++
        xml.writeObjectiveRefs objectiveIds ++ xml.writeTextElement "url" url ++
          (launchParameters.map (xml.writeTextElement "launchParameters")).getD [] ++
            (entitlementKey.map (xml.writeTextElement "entitlementKey")).getD []) ++ rest) =
        xml.run
          (.within (.au ⟨id, moveOn, masteryScore, launchMethod, title, description, objectiveIds, some url,
          launchParameters,
          entitlementKey⟩) (at_ nodes :: below)) rest := by
    intro rest
    rw [delivered_append, delivered_append, delivered_append, delivered_append, delivered_append, List.append_assoc,
      List.append_assoc, List.append_assoc, List.append_assoc, List.append_assoc,
      run_writeLangstrings inverse
        (.au ⟨id, moveOn, masteryScore, launchMethod, title, [], [], none, none, none⟩) rfl rfl
        (fun none => by rw [none]),
      run_writeLangstrings inverse
        (.au ⟨id, moveOn, masteryScore, launchMethod, title, description, [], none, none, none⟩) rfl rfl
        (fun none => by rw [none]),
      run_writeObjectiveRefs inverse
        (.au ⟨id, moveOn, masteryScore, launchMethod, title, description, objectiveIds, none, none,
        none⟩) rfl rfl (fun none => by rw [none]),
      run_writeTextElement inverse rfl rfl,
      run_writeOptional inverse
        (.au ⟨id, moveOn, masteryScore, launchMethod, title, description, objectiveIds, some url,
        launchParameters, none⟩) rfl (fun t here => by rw [here]; rfl) (fun none => by rw [none]; rfl),
      run_writeOptional inverse
        (.au ⟨id, moveOn, masteryScore, launchMethod, title, description, objectiveIds, some url,
        launchParameters, entitlementKey⟩) rfl (fun t here => by rw [here]; rfl) (fun none => by rw [none])]
  exact run_element _ (gathers.enterAu _ _ _ (auTag_written inverse _)) reads (if_pos rfl)
    (gathers.receiveAu _ _ _ rfl)

/-- The nodes of a tree are read in order, at every depth. -/
theorem run_writeNodes (inverse : xml.Inverse) (written : List (Node xml.Score))
    {at_ : List (Node xml.Score) → Frame xml.Score}
    (gathers : Gathers xml at_) (nodes : List (Node xml.Score)) (below : List (Frame xml.Score)) (rest : Events) :
    xml.run (.within (at_ nodes) below) (xml.delivered (xml.writeNodes written) ++ rest) =
      xml.run (.within (at_ (nodes ++ written)) below) rest := by
  induction written using Node.induction generalizing at_ nodes below rest with
  | nil =>
    rw [List.append_nil]
    rfl
  | au unit more ih =>
    rw [writeNodes, writeNode, delivered_append, List.append_assoc, run_writeAu inverse gathers, ih gathers,
      List.append_assoc, List.singleton_append]
  | block group more inner ih =>
    obtain ⟨id, title, description, objectiveIds, children⟩ := group
    have reads : ∀ rest, xml.run (.within (.block ⟨id, [], [], [], []⟩) (at_ nodes :: below))
        (xml.delivered (xml.writeLangstrings "title" title ++ xml.writeLangstrings "description" description ++
          xml.writeObjectiveRefs objectiveIds ++ xml.writeNodes children) ++ rest) =
          xml.run (.within (.block ⟨id, title, description, objectiveIds, children⟩) (at_ nodes :: below)) rest := by
      intro rest
      rw [delivered_append, delivered_append, delivered_append, List.append_assoc, List.append_assoc,
        List.append_assoc,
        run_writeLangstrings inverse (.block ⟨id, title, [], [], []⟩) rfl rfl (fun none => by rw [none]),
        run_writeLangstrings inverse (.block ⟨id, title, description, [], []⟩) rfl rfl (fun none => by rw [none]),
        run_writeObjectiveRefs inverse (.block ⟨id, title, description, objectiveIds, []⟩) rfl rfl (fun none =>
          by rw [none])]
      exact inner (gathers_block id title description objectiveIds) [] _ rest
    have read : ∀ rest, xml.run (.within (at_ nodes) below)
        (xml.delivered (xml.writeNode (.block ⟨id, title, description, objectiveIds, children⟩)) ++ rest) =
          xml.run (.within (at_ (nodes ++ [.block ⟨id, title, description, objectiveIds, children⟩])) below)
            rest := by
      intro rest
      have named := required_tag inverse "block" "id" id [("id", id)] rfl
      rw [writeNode]
      exact run_element _ (gathers.enterBlock _ _ _ named) reads (if_pos rfl) (gathers.receiveBlock _ _)
    rw [writeNodes, delivered_append, List.append_assoc, read, ih gathers, List.append_assoc, List.singleton_append]

/-- What is written of a structure is read as that structure. -/
theorem parseEvents_manifestEvents (inverse : xml.Inverse) (cs : CourseStructure xml.Score) :
    xml.parseEvents (xml.delivered (xml.manifestEvents cs)) = .ok cs := by
  obtain ⟨course, objectives, nodes⟩ := cs
  have entersCourse : xml.enter (.courseStructure ⟨none, [], []⟩) (xml.tag "course" [("id", course.id)]) =
      .ok (.call (.course ⟨course.id, [], []⟩)) := by
    rw [enter, tag_localName, if_pos rfl, required_tag inverse "course" "id" course.id _ rfl]
    rfl
  have objectivesRead : ∀ rest, xml.run (.within (.courseStructure ⟨some course, [], []⟩) [])
      (xml.delivered (if objectives.isEmpty then [] else xml.writeObjectives objectives) ++ rest) =
        xml.run (.within (.courseStructure ⟨some course, objectives, []⟩) []) rest := by
    intro rest
    cases objectives with
    | nil => rfl
    | cons o os => exact run_writeObjectives inverse rfl rfl
  have reads : ∀ rest, xml.run (.within (.courseStructure ⟨none, [], []⟩) [])
    (xml.delivered (xml.writeCourse course ++
      (if objectives.isEmpty then [] else xml.writeObjectives objectives) ++ xml.writeNodes nodes) ++ rest) =
        xml.run (.within (.courseStructure ⟨some course, objectives, nodes⟩) []) rest := by
    intro rest
    rw [delivered_append, delivered_append, List.append_assoc, List.append_assoc,
      run_writeCourse inverse entersCourse rfl, objectivesRead]
    exact run_writeNodes inverse nodes (gathers_structure (some course) objectives) [] [] rest
  rw [parseEvents_eq_run]
  calc xml.run .searching (xml.delivered (xml.manifestEvents ⟨course, objectives, nodes⟩))
    _ = xml.run (.within (.courseStructure ⟨none, [], []⟩) []) (xml.delivered (xml.writeCourse course ++
        (if objectives.isEmpty then [] else xml.writeObjectives objectives) ++ xml.writeNodes nodes) ++
          [.ok (.end_ "courseStructure")]) := by
      rw [← delivered_end_singleton, ← delivered_append]
      rfl
    _ = xml.run (.within (.courseStructure ⟨some course, objectives, nodes⟩) [])
      [.ok (.end_ "courseStructure")] := reads _
    _ = .ok ⟨course, objectives, nodes⟩ := rfl

end RoundTrip

/-- Every tag opened in these events is closed in them, whatever they stand in. -/
def Balanced (events : List Event) : Prop := ∀ opened rest, xml.Nests opened rest → xml.Nests opened (events ++ rest)

section Balanced

variable {xml}

theorem Balanced.nil : xml.Balanced [] := fun _ _ nests => nests

theorem Balanced.append {events more : List Event} (first : xml.Balanced events) (second : xml.Balanced more) :
    xml.Balanced (events ++ more) := by
  intro opened rest nests
  rw [List.append_assoc]
  exact first _ _ (second _ _ nests)

theorem Balanced.flatMap {α : Type} {write : α → List Event} (one : ∀ x, xml.Balanced (write x)) (xs : List α) :
    xml.Balanced (xs.flatMap write) := by
  induction xs with
  | nil => exact nil
  | cons x xs ih => exact (one x).append ih

variable {attributes : List (String × String)} {name : String}

theorem plain_tag (element : name ∈ elementNames) (distinct : (attributes.map Prod.fst).Nodup)
    (known : ∀ attr ∈ attributes, attr.1 ∈ attributeNames) :
    xml.Plain (xml.tag name attributes) := ⟨name, attributes, rfl, element, distinct, known⟩

theorem Balanced.empty {tag : Tag} (plain : xml.Plain tag) : xml.Balanced [.empty tag] := by
  intro opened rest nests
  rw [List.singleton_append, Nests]
  exact ⟨plain, nests⟩

theorem Balanced.element (plain : xml.Plain (xml.tag name attributes)) {events : List Event}
    (inner : xml.Balanced events) : xml.Balanced (.start (xml.tag name attributes) :: events ++ [.end_ name]) := by
  intro opened rest nests
  have closed : xml.Nests (name :: opened) (.end_ name :: rest) := ⟨rfl, nests⟩
  rw [List.append_assoc, List.cons_append, Nests]
  exact ⟨plain, inner _ _ closed⟩

theorem Balanced.text (plain : xml.Plain (xml.tag name attributes)) (text : String) :
    xml.Balanced [.start (xml.tag name attributes), .text (xml.bytesText text), .end_ name] := by
  intro opened rest nests
  rw [List.cons_append, Nests]
  exact ⟨plain, ⟨text, rfl⟩, rfl, nests⟩

theorem balanced_writeLangstrings {wrapper : String} (element : wrapper ∈ elementNames) (strings : List LangString) :
    xml.Balanced (xml.writeLangstrings wrapper strings) := by
  have one : ∀ s, xml.Balanced (xml.writeLangstring s) :=
    fun s => .text (plain_tag (by decide) (by simp) (by simp [attributeNames])) s.value
  unfold writeLangstrings
  split
  · exact .nil
  · exact .element (plain_tag element (by simp) (by simp)) (.flatMap one strings)

theorem balanced_writeObjectiveRefs (ids : List String) : xml.Balanced (xml.writeObjectiveRefs ids) := by
  have one : ∀ id, xml.Balanced [.empty (xml.tag "objective" [("idref", id)])] :=
    fun id => .empty (plain_tag (by decide) (by simp) (by simp [attributeNames]))
  unfold writeObjectiveRefs
  split
  · exact .nil
  · rw [List.map_eq_flatMap]
    exact .element (plain_tag (by decide) (by simp) (by simp)) (.flatMap one ids)

theorem balanced_writeTextElement (element : name ∈ elementNames) (text : String) :
    xml.Balanced (xml.writeTextElement name text) := .text (plain_tag element (by simp) (by simp)) text

theorem balanced_writeOptional (element : name ∈ elementNames) (text : Option String) :
    xml.Balanced ((text.map (xml.writeTextElement name)).getD []) := by
  cases text with
  | none => exact .nil
  | some text => exact balanced_writeTextElement element text

theorem balanced_writeCourse (c : Course) : xml.Balanced (xml.writeCourse c) :=
  .element (plain_tag (by decide) (by simp) (by simp [attributeNames]))
    ((balanced_writeLangstrings (by decide) c.title).append (balanced_writeLangstrings (by decide) c.description))

theorem balanced_writeObjectives (objs : List Objective) : xml.Balanced (xml.writeObjectives objs) := by
  have one : ∀ o, xml.Balanced (xml.writeObjective o) := fun o =>
    .element (plain_tag (by decide) (by simp) (by simp [attributeNames]))
      ((balanced_writeLangstrings (by decide) o.title).append (balanced_writeLangstrings (by decide) o.description))
  exact .element (plain_tag (by decide) (by simp) (by simp)) (.flatMap one objs)

theorem plain_auTag (au : AssignableUnit xml.Score) : xml.Plain (xml.tag "au" (xml.auAttributes au)) := by
  refine plain_tag (by decide) ?_ ?_
  · unfold auAttributes
    cases au.masteryScore <;> cases au.launchMethod <;> simp
  · unfold auAttributes
    cases au.masteryScore <;> cases au.launchMethod <;> simp [attributeNames]

theorem balanced_writeAu (au : AssignableUnit xml.Score) : xml.Balanced (xml.writeAu au) := by
  have strings : xml.Balanced
      (xml.writeLangstrings "title" au.title ++ xml.writeLangstrings "description" au.description) :=
    (balanced_writeLangstrings (by decide) au.title).append (balanced_writeLangstrings (by decide) au.description)
  have url : xml.Balanced (xml.writeTextElement "url" au.url) := balanced_writeTextElement (by decide) au.url
  have upToUrl := (strings.append (balanced_writeObjectiveRefs au.objectiveIds)).append url
  exact .element (plain_auTag au) ((upToUrl.append (balanced_writeOptional (by decide) au.launchParameters)).append
    (balanced_writeOptional (by decide) au.entitlementKey))

theorem balanced_writeNodes (nodes : List (Node xml.Score)) : xml.Balanced (xml.writeNodes nodes) := by
  induction nodes using Node.induction with
  | nil => exact .nil
  | au unit rest ih =>
    rw [writeNodes, writeNode]
    exact (balanced_writeAu unit).append ih
  | block group rest inner ih =>
    obtain ⟨id, title, description, objectiveIds, children⟩ := group
    have strings : xml.Balanced
        (xml.writeLangstrings "title" title ++ xml.writeLangstrings "description" description) :=
      (balanced_writeLangstrings (by decide) title).append (balanced_writeLangstrings (by decide) description)
    rw [writeNodes, writeNode]
    exact (Balanced.element (plain_tag (by decide) (by simp) (by simp [attributeNames]))
      ((strings.append (balanced_writeObjectiveRefs objectiveIds)).append inner)).append ih

theorem nests_manifestEvents (cs : CourseStructure xml.Score) : xml.Nests [] (xml.manifestEvents cs) := by
  have objectives : xml.Balanced (if cs.objectives.isEmpty then [] else xml.writeObjectives cs.objectives) := by
    split
    · exact .nil
    · exact balanced_writeObjectives cs.objectives
  have whole : xml.Balanced (xml.manifestEvents cs) :=
    .element (plain_tag (by decide) (by simp) (by simp [attributeNames]))
      (((balanced_writeCourse cs.course).append objectives).append (balanced_writeNodes cs.nodes))
  have nests := whole [] [] trivial
  rwa [List.append_nil] at nests

end Balanced

end XmlWriting

/-- A structure that is written and read again is the same, whatever it holds. -/
theorem manifest_round_trip {Doc Float : Type} (xml : XmlWriting Doc Float) (inverse : xml.Inverse)
    (cs : CourseStructure xml.Score) : (xml.toManifestXml cs >>= xml.parseManifest) = .ok cs := by
  obtain ⟨doc, written, read⟩ := inverse.events _ (XmlWriting.nests_manifestEvents cs)
  have serialized : xml.toManifestXml cs = .ok doc := by
    rw [XmlWriting.toManifestXml, written]
  rw [serialized]
  show xml.parseManifest doc = .ok cs
  rw [XmlReading.parseManifest, read]
  exact XmlWriting.parseEvents_manifestEvents inverse cs

/-- A number in tenths, as it is printed. -/
def displayTenths (tenths : Fin 11) : String :=
  ["0", "0.1", "0.2", "0.3", "0.4", "0.5", "0.6", "0.7", "0.8", "0.9", "1"].getD tenths ""

/-- Documents kept as their events, for texts that have nothing to escape. -/
def eventXml : XmlWriting (List Event) (Fin 11) where
  readEvents doc := (doc.flatMap fun
    | .text raw => if raw = "" then [] else [.text raw]
    | event => [event]).map .ok
  normalizedValue value := .ok value
  resolveCharRef _ := .ok none
  parseFloat s := (List.finRange 11).find? fun tenths => displayTenths tenths = s
  inUnit _ := true
  escape value := value
  bytesText text := text
  content raw := if raw = "" then [] else [.text raw]
  display := displayTenths
  write events := .ok events

theorem eventXml_inverse : eventXml.Inverse where
  attr _ := rfl
  text text := by
    show eventXml.textOf (if text = "" then [] else [.text text]) = .ok text
    split
    · next empty =>
      rw [empty]
      rfl
    · show Except.ok (text ++ "") = _
      rw [String.append_empty]
  between text event member := by
    change event ∈ (if text = "" then [] else [Event.text text]) at member
    split at member
    · cases member
    · rw [List.mem_singleton.mp member]
      rfl
  number v _ := by
    have printed : ∀ v : Fin 11,
        (List.finRange 11).find? (fun tenths => displayTenths tenths = displayTenths v) = some v := by
      decide +kernel
    exact printed v
  events events _ := ⟨events, rfl, rfl⟩

/-- A course with an objective, a unit in a block in a block, and a unit after them. -/
def laserCourse : CourseStructure eventXml.Score where
  course := ⟨"https://courses.example/laser", [⟨"en-US", "Laser Safety"⟩, ⟨"", ""⟩], []⟩
  objectives := [⟨"obj1", [⟨"en", "Finger safety"⟩], []⟩]
  nodes :=
    [.block ⟨"b1", [⟨"en", "Block One"⟩], [], ["obj1"],
      [.block ⟨"b2", [], [], [],
        [.au ⟨"a1", .completedAndPassed, some ⟨8, rfl⟩, some .ownWindow, [], [], ["obj1"], "a1.html",
        some "mode=strict", some ""⟩]⟩]⟩,
      .au ⟨"a2", .notApplicable, none, none, [⟨"en", "Basics"⟩], [], [], "", none, none⟩]

theorem manifest_round_trip_nested :
    (eventXml.toManifestXml laserCourse >>= eventXml.parseManifest) = .ok laserCourse :=
  manifest_round_trip eventXml eventXml_inverse laserCourse

end CoopSpaces.Cmi5
