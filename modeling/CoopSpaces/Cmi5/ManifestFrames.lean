import CoopSpaces.Cmi5.Manifest

namespace CoopSpaces.Cmi5

open XmlReading (UnitSoFar StructureSoFar)

/-- One call of the parser as it stands: what it has gathered so far. Of an element that is
passed over, how deep in elements of its name. -/
inductive Frame (Score : Type) where
  | courseStructure (cs : StructureSoFar Score)
  | course (course : Course)
  | objectives (objectives : List Objective)
  | objective (objective : Objective)
  | block (block : Block Score)
  | au (au : UnitSoFar Score)
  | langstrings (endTag : String) (out : List LangString)
  | objectiveRefs (refs : List String)
  | text (endTag : String) (lang : String) (text : String)
  | skip (name : String) (depth : Nat)

/-- The document is read up to the start of its structure; the calls are under way, the innermost
first; or this is what came of them. -/
inductive Config (Score : Type) where
  | searching
  | within (top : Frame Score) (below : List (Frame Score))
  | complete (cs : CourseStructure Score)

/-- What a start tag does to the innermost call: it goes on, or calls another. -/
inductive Entered (Score : Type) where
  | stay (frame : Frame Score)
  | call (child : Frame Score)

namespace Frame
variable {Score : Type}

/-- The element that is named if the document ends in a call. -/
def element : Frame Score → String
  | .courseStructure _ => "courseStructure"
  | .course _ => "course"
  | .objectives _ => "objectives"
  | .objective _ => "objective"
  | .block _ => "block"
  | .au _ => "au"
  | .langstrings .. => "langstring"
  | .objectiveRefs _ => "objectives"
  | .text .. => "text"
  | .skip .. => "element"

/-- The end tag that a call waits for. -/
def endTag : Frame Score → String
  | .courseStructure _ => "courseStructure"
  | .course _ => "course"
  | .objectives _ => "objectives"
  | .objective _ => "objective"
  | .block _ => "block"
  | .au _ => "au"
  | .langstrings endTag _ => endTag
  | .objectiveRefs _ => "objectives"
  | .text endTag .. => endTag
  | .skip name _ => name

/-- What becomes of a call at an end tag, if it does not return there. -/
def afterEnd (frame : Frame Score) (localName : String) : Option (Frame Score) :=
  if localName = frame.endTag then
    match frame with
    | .skip name depth => if depth - 1 = 0 then none else some (.skip name (depth - 1))
    | _ => none
  else some frame

/-- The caller takes what a call returns. -/
def receive : Frame Score → Frame Score → Except ManifestError (Frame Score)
  | .courseStructure cs, .course c => .ok (.courseStructure { cs with course := some c })
  | .courseStructure cs, .objectives os => .ok (.courseStructure { cs with objectives := os })
  | .courseStructure cs, .block b => .ok (.courseStructure { cs with nodes := cs.nodes ++ [.block b] })
  | .courseStructure cs, .au u => do
    let u ← u.complete
    .ok (.courseStructure { cs with nodes := cs.nodes ++ [.au u] })
  | .course c, .langstrings endTag out =>
    .ok (.course (if endTag = "title" then { c with title := out } else { c with description := out }))
  | .objectives os, .objective o => .ok (.objectives (os ++ [o]))
  | .objective o, .langstrings endTag out =>
    .ok (.objective (if endTag = "title" then { o with title := out } else { o with description := out }))
  | .block b, .langstrings endTag out =>
    .ok (.block (if endTag = "title" then { b with title := out } else { b with description := out }))
  | .block b, .objectiveRefs refs => .ok (.block { b with objectiveIds := refs })
  | .block b, .block child => .ok (.block { b with children := b.children ++ [.block child] })
  | .block b, .au u => do
    let u ← u.complete
    .ok (.block { b with children := b.children ++ [.au u] })
  | .au u, .langstrings endTag out =>
    .ok (.au (if endTag = "title" then { u with title := out } else { u with description := out }))
  | .au u, .objectiveRefs refs => .ok (.au { u with objectiveIds := refs })
  | .au u, .text endTag _ content =>
    .ok (.au (if endTag = "url" then { u with url := some content }
      else if endTag = "launchParameters" then { u with launchParameters := some content }
      else { u with entitlementKey := some content }))
  | .langstrings endTag out, .text _ lang content => .ok (.langstrings endTag (out ++ [⟨lang, content⟩]))
  | caller, _ => .ok caller

end Frame

namespace XmlReading
variable {Doc Float : Type} (xml : XmlReading Doc Float)

def enterStrings (tag : Tag) (otherwise : Except ManifestError (Entered xml.Score)) :
    Except ManifestError (Entered xml.Score) :=
  if tag.localName = "title" then .ok (.call (.langstrings "title" []))
  else if tag.localName = "description" then .ok (.call (.langstrings "description" []))
  else otherwise

def skipTag (tag : Tag) : Except ManifestError (Entered xml.Score) := .ok (.call (.skip tag.localName 1))

/-- A start tag, as the innermost call takes it. -/
def enter (frame : Frame xml.Score) (tag : Tag) : Except ManifestError (Entered xml.Score) :=
  match frame with
  | .courseStructure _ =>
    if tag.localName = "course" then do
      let id ← xml.required tag "course" "id"
      .ok (.call (.course ⟨id, [], []⟩))
    else if tag.localName = "objectives" then .ok (.call (.objectives []))
    else if tag.localName = "block" then do
      let id ← xml.required tag "block" "id"
      .ok (.call (.block ⟨id, [], [], [], []⟩))
    else if tag.localName = "au" then do
      let au ← xml.auTag tag
      .ok (.call (.au au))
    else xml.skipTag tag
  | .course _ | .objective _ => xml.enterStrings tag (xml.skipTag tag)
  | .objectives _ =>
    if tag.localName = "objective" then do
      let id ← xml.required tag "objective" "id"
      .ok (.call (.objective ⟨id, [], []⟩))
    else .ok (.stay frame)
  | .block _ =>
    xml.enterStrings tag
      (if tag.localName = "objectives" then .ok (.call (.objectiveRefs []))
      else if tag.localName = "block" then do
        let id ← xml.required tag "block" "id"
        .ok (.call (.block ⟨id, [], [], [], []⟩))
      else if tag.localName = "au" then do
        let au ← xml.auTag tag
        .ok (.call (.au au))
      else xml.skipTag tag)
  | .au _ =>
    xml.enterStrings tag
      (if tag.localName = "objectives" then .ok (.call (.objectiveRefs []))
      else if tag.localName = "url" then .ok (.call (.text "url" "" ""))
      else if tag.localName = "launchParameters" then .ok (.call (.text "launchParameters" "" ""))
      else if tag.localName = "entitlementKey" then .ok (.call (.text "entitlementKey" "" ""))
      else xml.skipTag tag)
  | .langstrings .. =>
    if tag.localName = "langstring" then do
      let lang ← xml.attr tag "lang"
      .ok (.call (.text "langstring" (lang.getD "") ""))
    else .ok (.stay frame)
  | .objectiveRefs refs =>
    if tag.localName = "objective" then do
      let refs ← xml.objectiveRef tag refs
      .ok (.stay (.objectiveRefs refs))
    else .ok (.stay frame)
  | .text .. => .ok (.stay frame)
  | .skip name depth => .ok (.stay (if tag.localName = name then .skip name (depth + 1) else frame))

/-- A tag that closes itself. -/
def pass (frame : Frame xml.Score) (tag : Tag) : Except ManifestError (Frame xml.Score) :=
  match frame with
  | .courseStructure cs =>
    if tag.localName = "course" then do
      let id ← xml.required tag "course" "id"
      .ok (.courseStructure { cs with course := some ⟨id, [], []⟩ })
    else if tag.localName = "block" then do
      let id ← xml.required tag "block" "id"
      .ok (.courseStructure { cs with nodes := cs.nodes ++ [.block ⟨id, [], [], [], []⟩] })
    else if tag.localName = "au" then do
      let _ ← xml.auTag tag
      throw (.missingElement "url")
    else .ok frame
  | .block block =>
    if tag.localName = "block" then do
      let id ← xml.required tag "block" "id"
      .ok (.block { block with children := block.children ++ [.block ⟨id, [], [], [], []⟩] })
    else if tag.localName = "au" then do
      let _ ← xml.auTag tag
      throw (.missingElement "url")
    else .ok frame
  | .au au =>
    if tag.localName = "url" then .ok (.au { au with url := some "" })
    else if tag.localName = "launchParameters" then .ok (.au { au with launchParameters := some "" })
    else if tag.localName = "entitlementKey" then .ok (.au { au with entitlementKey := some "" })
    else .ok frame
  | .langstrings endTag out =>
    if tag.localName = "langstring" then do
      let lang ← xml.attr tag "lang"
      .ok (.langstrings endTag (out ++ [⟨lang.getD "", ""⟩]))
    else .ok frame
  | .objectiveRefs refs =>
    if tag.localName = "objective" then do
      let refs ← xml.objectiveRef tag refs
      .ok (.objectiveRefs refs)
    else .ok frame
  | _ => .ok frame

/-- Anything between tags. -/
def between (frame : Frame xml.Score) (event : Event) : Except ManifestError (Frame xml.Score) :=
  match frame with
  | .text endTag lang text => do
    let piece ← xml.textPiece event
    .ok (.text endTag lang (text ++ piece.getD ""))
  | _ => .ok frame

/-- The innermost call returns to the one below, and the outermost with the structure. -/
def return_ (frame : Frame xml.Score) : List (Frame xml.Score) → Except ManifestError (Config xml.Score)
  | caller :: below => do
    let caller ← caller.receive frame
    .ok (.within caller below)
  | [] =>
    match frame with
    | .courseStructure cs => do
      let cs ← cs.complete
      .ok (.complete cs)
    | _ => .ok (.within frame [])

def step (top : Frame xml.Score) (below : List (Frame xml.Score)) : Event → Except ManifestError (Config xml.Score)
  | .start tag => do
    match ← xml.enter top tag with
    | .stay top => .ok (.within top below)
    | .call child => .ok (.within child (top :: below))
  | .empty tag => do
    let top ← xml.pass top tag
    .ok (.within top below)
  | .end_ localName =>
    match top.afterEnd localName with
    | some top => .ok (.within top below)
    | none => xml.return_ top below
  | event => do
    let top ← xml.between top event
    .ok (.within top below)

def search : Event → Config xml.Score
  | .start tag =>
    if tag.localName = "courseStructure" then .within (.courseStructure ⟨none, [], []⟩) [] else .searching
  | _ => .searching

def run : Config xml.Score → Events → Except ManifestError (CourseStructure xml.Score)
  | .complete cs, _ => .ok cs
  | .searching, [] => .error (.missingElement "courseStructure")
  | .within top _, [] => .error (.unexpectedEof top.element)
  | .searching, .error message :: _ => .error (.xml message)
  | .within _ _, .error message :: _ => .error (.xml message)
  | .searching, .ok event :: rest => run (xml.search event) rest
  | .within top below, .ok event :: rest =>
    match xml.step top below event with
    | .error error => .error error
    | .ok config => run config rest

section Consumes

open EventLoop

theorem consumes_again {σ α : Type} (s : σ) :
    Consumes (again s : Events → Except ManifestError ((σ ⊕ α) × Events)) := .ok _

theorem consumes_leave {σ α : Type} (answer : α) :
    Consumes (leave answer : Events → Except ManifestError ((σ ⊕ α) × Events)) :=
  .ok _

theorem consumes_end {σ α : Type} {here : Prop} {_ : Decidable here} (s : σ) (answer : α) :
    Consumes fun rest => if here then leave answer rest
      else (again s rest : Except ManifestError ((σ ⊕ α) × Events)) := by
  split
  · exact consumes_leave _
  · exact consumes_again _

theorem consumes_skipTurn (name : String) (depth : Nat) (event : Event) : Consumes (skipTurn name depth event) := by
  unfold skipTurn
  cases event with
  | start tag => exact consumes_again _
  | end_ localName =>
    dsimp only
    split
    · exact consumes_end _ _
    · exact consumes_again _
  | _ => exact consumes_again _

theorem consumes_skipToEnd (name : String) : Consumes (skipToEnd name) := consumes_loop (consumes_skipTurn name) 1

theorem consumes_textTurn (endTag text : String) (event : Event) : Consumes (xml.textTurn endTag text event) := by
  unfold textTurn
  cases event with
  | end_ localName => exact consumes_end _ _
  | _ => exact .of_value _ fun piece => consumes_again _

theorem consumes_parseText (endTag : String) : Consumes (xml.parseText endTag) :=
  consumes_loop (xml.consumes_textTurn endTag) ""

theorem consumes_langstringTurn (endTag : String) (out : List LangString) (event : Event) :
    Consumes (xml.langstringTurn endTag out event) := by
  unfold langstringTurn
  cases event with
  | start tag =>
    dsimp only
    split
    · exact .of_value _ fun lang => (xml.consumes_parseText _).bind fun value =>
        consumes_again (out ++ [⟨lang.getD "", value⟩])
    · exact consumes_again _
  | empty tag =>
    dsimp only
    split
    · exact .of_value _ fun lang => consumes_again _
    · exact consumes_again _
  | end_ localName => exact consumes_end _ _
  | _ => exact consumes_again _

theorem consumes_parseLangstrings (endTag : String) : Consumes (xml.parseLangstrings endTag) :=
  consumes_loop (xml.consumes_langstringTurn endTag) []

theorem consumes_objectiveRefTurn (refs : List String) (event : Event) :
    Consumes (xml.objectiveRefTurn refs event) := by
  have named : ∀ tag : Tag, Consumes fun rest => if tag.localName = "objective" then do
      let refs ← xml.objectiveRef tag refs
      again refs rest
    else (again refs rest : Except ManifestError ((List String ⊕ List String) × Events)) := by
    intro tag
    split
    · exact .of_value _ fun refs => consumes_again _
    · exact consumes_again _
  unfold objectiveRefTurn
  cases event with
  | start tag => exact named tag
  | empty tag => exact named tag
  | end_ localName => exact consumes_end _ _
  | _ => exact consumes_again _

theorem consumes_parseObjectiveRefs : Consumes xml.parseObjectiveRefs :=
  consumes_loop xml.consumes_objectiveRefTurn []

theorem consumes_courseTurn (course : Course) (event : Event) : Consumes (xml.courseTurn course event) := by
  unfold courseTurn
  cases event with
  | start tag =>
    dsimp only
    split
    · exact (xml.consumes_parseLangstrings _).bind fun title => consumes_again { course with title }
    · split
      · exact (xml.consumes_parseLangstrings _).bind fun description => consumes_again { course with description }
      · exact (consumes_skipToEnd _).bind fun _ => consumes_again course
  | end_ localName => exact consumes_end _ _
  | _ => exact consumes_again _

theorem consumes_parseCourse (tag : Tag) (empty : Bool) : Consumes (xml.parseCourse tag empty) := by
  refine .of_value _ fun id => ?_
  split
  · exact .ok _
  · exact consumes_loop xml.consumes_courseTurn _

theorem consumes_objectiveTurn (objective : Objective) (event : Event) :
    Consumes (xml.objectiveTurn objective event) := by
  unfold objectiveTurn
  cases event with
  | start tag =>
    dsimp only
    split
    · exact (xml.consumes_parseLangstrings _).bind fun title => consumes_again { objective with title }
    · split
      · exact (xml.consumes_parseLangstrings _).bind fun description => consumes_again { objective with description }
      · exact (consumes_skipToEnd _).bind fun _ => consumes_again objective
  | end_ localName => exact consumes_end _ _
  | _ => exact consumes_again _

theorem consumes_objectivesTurn (objectives : List Objective) (event : Event) :
    Consumes (xml.objectivesTurn objectives event) := by
  have inner : ∀ tag, Consumes (xml.parseObjective tag) :=
    fun tag => .of_value _ fun id => consumes_loop xml.consumes_objectiveTurn _
  unfold objectivesTurn
  cases event with
  | start tag =>
    dsimp only
    split
    · exact (inner _).bind fun objective => consumes_again (objectives ++ [objective])
    · exact consumes_again _
  | end_ localName => exact consumes_end _ _
  | _ => exact consumes_again _

theorem consumes_auTurn (au : UnitSoFar xml.Score) (event : Event) : Consumes (xml.auTurn au event) := by
  unfold auTurn
  cases event with
  | start tag =>
    dsimp only
    split
    · exact (xml.consumes_parseLangstrings _).bind fun title => consumes_again { au with title }
    · split
      · exact (xml.consumes_parseLangstrings _).bind fun description => consumes_again { au with description }
      · split
        · exact xml.consumes_parseObjectiveRefs.bind fun objectiveIds => consumes_again { au with objectiveIds }
        · split
          · exact (xml.consumes_parseText _).bind fun url => consumes_again { au with url := some url }
          · split
            · exact (xml.consumes_parseText _).bind fun text =>
                consumes_again { au with launchParameters := some text }
            · split
              · exact (xml.consumes_parseText _).bind fun text =>
                  consumes_again { au with entitlementKey := some text }
              · exact (consumes_skipToEnd _).bind fun _ => consumes_again au
  | empty tag =>
    dsimp only
    split
    · exact consumes_again _
    · split
      · exact consumes_again _
      · split
        · exact consumes_again _
        · exact consumes_again _
  | end_ localName => exact consumes_end _ _
  | _ => exact consumes_again _

theorem consumes_parseAu (tag : Tag) (empty : Bool) : Consumes (xml.parseAu tag empty) := by
  refine .of_value _ fun au => ?_
  cases empty with
  | true => exact .error _
  | false => exact (consumes_loop xml.consumes_auTurn au).bind fun au => .of_value _ fun complete => .ok complete

theorem consumes_blockTurn {inner : Tag → Bool → Events → Except ManifestError (Block xml.Score × Events)}
    (consumes : ∀ tag empty, Consumes (inner tag empty)) (block : Block xml.Score) (event : Event) :
    Consumes (xml.blockTurn inner block event) := by
  unfold blockTurn
  cases event with
  | start tag =>
    dsimp only
    split
    · exact (xml.consumes_parseLangstrings _).bind fun title => consumes_again { block with title }
    · split
      · exact (xml.consumes_parseLangstrings _).bind fun description => consumes_again { block with description }
      · split
        · exact xml.consumes_parseObjectiveRefs.bind fun objectiveIds => consumes_again { block with objectiveIds }
        · split
          · exact (consumes _ _).bind fun child =>
              consumes_again { block with children := block.children ++ [Node.block child] }
          · split
            · exact (xml.consumes_parseAu _ _).bind fun child =>
                consumes_again { block with children := block.children ++ [Node.au child] }
            · exact (consumes_skipToEnd _).bind fun _ => consumes_again block
  | empty tag =>
    dsimp only
    split
    · exact (consumes _ _).bind fun child =>
        consumes_again { block with children := block.children ++ [Node.block child] }
    · split
      · exact (xml.consumes_parseAu _ _).bind fun child =>
          consumes_again { block with children := block.children ++ [Node.au child] }
      · exact consumes_again _
  | end_ localName => exact consumes_end _ _
  | _ => exact consumes_again _

theorem consumes_parseBlock (depth : Nat) (tag : Tag) (empty : Bool) : Consumes (xml.parseBlock depth tag empty) := by
  induction depth generalizing tag empty with
  | zero => exact .error _
  | succ depth ih =>
    refine .of_value _ fun id => ?_
    cases empty with
    | true => exact .ok _
    | false => exact consumes_loop (xml.consumes_blockTurn ih) _

theorem consumes_structureTurn (cs : StructureSoFar xml.Score) (event : Event) :
    Consumes (xml.structureTurn cs event) := by
  have block : ∀ tag empty, Consumes fun rest => xml.parseBlock (rest.length + 1) tag empty rest :=
    fun tag empty events => xml.consumes_parseBlock _ tag empty events
  have objectives_ : Consumes xml.parseObjectives := consumes_loop xml.consumes_objectivesTurn []
  unfold structureTurn
  cases event with
  | start tag =>
    dsimp only
    split
    · exact (xml.consumes_parseCourse _ _).bind fun course => consumes_again { cs with course := some course }
    · split
      · exact objectives_.bind fun objectives => consumes_again { cs with objectives }
      · split
        · exact (block _ _).bind fun child => consumes_again { cs with nodes := cs.nodes ++ [Node.block child] }
        · split
          · exact (xml.consumes_parseAu _ _).bind fun child =>
              consumes_again { cs with nodes := cs.nodes ++ [Node.au child] }
          · exact (consumes_skipToEnd _).bind fun _ => consumes_again cs
  | empty tag =>
    dsimp only
    split
    · exact (xml.consumes_parseCourse _ _).bind fun course => consumes_again { cs with course := some course }
    · split
      · exact (block _ _).bind fun child => consumes_again { cs with nodes := cs.nodes ++ [Node.block child] }
      · split
        · exact (xml.consumes_parseAu _ _).bind fun child =>
            consumes_again { cs with nodes := cs.nodes ++ [Node.au child] }
        · exact consumes_again _
  | end_ localName => exact consumes_end _ _
  | _ => exact consumes_again _

end Consumes

/-- As far as so many events, the calls under way come to what the parser does, once the
innermost has returned what it makes of them. -/
def Returns {α : Type} (bound : Nat) (frame : Frame xml.Score) (made : α → Frame xml.Score)
    (parse : Events → Except ManifestError (α × Events)) : Prop :=
  ∀ caller below events, events.length ≤ bound → xml.run (.within frame (caller :: below)) events =
    (parse events).bind fun out => (caller.receive (made out.1)).bind fun caller =>
      xml.run (.within caller below) out.2

section Returns
variable {xml} {bound : Nat}

theorem run_complete (cs : CourseStructure xml.Score) (events : Events) : xml.run (.complete cs) events = .ok cs := by
  cases events <;> rfl

theorem run_within_cons (top : Frame xml.Score) (below : List (Frame xml.Score)) (event : Event) (rest : Events) :
    xml.run (.within top below) (.ok event :: rest) = (xml.step top below event).bind (xml.run · rest) := by
  rw [run]
  rcases xml.step top below event with error | config
  · rfl
  · rfl

/-- What a turn of a loop leaves to run, with the calls below and what is done with its answer. -/
def Turned {σ α : Type} (xml : XmlReading Doc Float) (at_ : σ → Frame xml.Score) (below : List (Frame xml.Score))
    (finish : α → Events → Except ManifestError (CourseStructure xml.Score)) (out : (σ ⊕ α) × Events) :
    Except ManifestError (CourseStructure xml.Score) :=
  out.1.elim (fun s => xml.run (.within (at_ s) below) out.2) (finish · out.2)

/-- The answer of a call goes to its caller. -/
def hand {α : Type} (xml : XmlReading Doc Float) (made : α → Frame xml.Score) (caller : Frame xml.Score)
    (below : List (Frame xml.Score)) (answer : α) (rest : Events) :
    Except ManifestError (CourseStructure xml.Score) :=
  (caller.receive (made answer)).bind fun caller => xml.run (.within caller below) rest

theorem loop_turned {σ α : Type} {element : String} (at_ : σ → Frame xml.Score) (below : List (Frame xml.Score))
    (finish : α → Events → Except ManifestError (CourseStructure xml.Score))
    {turn : σ → Event → Events → Except ManifestError ((σ ⊕ α) × Events)}
    (named : ∀ s, (at_ s).element = element) (consumes : ∀ s event, EventLoop.Consumes (turn s event))
    (turns : ∀ s event rest, rest.length < bound → (xml.step (at_ s) below event).bind (xml.run · rest) =
      (turn s event rest).bind (xml.Turned at_ below finish))
    (s : σ) (events : Events) (less : events.length ≤ bound) :
    xml.run (.within (at_ s) below) events = (readLoop element turn s events).bind fun out => finish out.1 out.2 := by
  unfold readLoop
  refine EventLoop.loop_bind (fun s => xml.run (.within (at_ s) below)) finish
    (fun s => ?_) (fun s message rest => ?_) (fun s event rest short => ?_) consumes s events less
  · rw [run, named]
  · rw [run]
  · rw [run_within_cons]
    exact turns s event rest short

theorem returns_loop {σ α : Type} {element : String} (at_ : σ → Frame xml.Score) (made : α → Frame xml.Score)
    {turn : σ → Event → Events → Except ManifestError ((σ ⊕ α) × Events)}
    (named : ∀ s, (at_ s).element = element) (consumes : ∀ s event, EventLoop.Consumes (turn s event))
    (turns : ∀ s event rest caller below, rest.length < bound →
      (xml.step (at_ s) (caller :: below) event).bind (xml.run · rest) =
      (turn s event rest).bind (xml.Turned at_ (caller :: below) (xml.hand made caller below))) (s : σ) :
    xml.Returns bound (at_ s) made (readLoop element turn s) := fun caller below events less =>
  loop_turned at_ (caller :: below) (xml.hand made caller below) named consumes
    (fun s event rest short => turns s event rest caller below short) s events less

variable {below : List (Frame xml.Score)} {rest : Events}

theorem Returns.call {σ α β : Type} {child : Frame xml.Score} {made : β → Frame xml.Score}
    {parse : Events → Except ManifestError (β × Events)} (returns : xml.Returns bound child made parse)
    (at_ : σ → Frame xml.Score) {s : σ} (next : β → σ) (received : ∀ b, (at_ s).receive (made b) = .ok (at_ (next b)))
    {finish : α → Events → Except ManifestError (CourseStructure xml.Score)} (short : rest.length ≤ bound) :
    xml.run (.within child (at_ s :: below)) rest =
      (parse rest >>= fun out => again (next out.1) out.2).bind (xml.Turned at_ below finish) := by
  rw [returns (at_ s) below rest short]
  rcases parse rest with error | ⟨b, rest'⟩
  · rfl
  · show ((at_ s).receive (made b)).bind _ = _
    rw [received]
    rfl

theorem receive_skip (caller : Frame xml.Score) (name : String) (depth : Nat) :
    caller.receive (.skip name depth) = .ok caller := by
  cases caller <;> rfl

theorem returns_skipToEnd (name : String) :
    xml.Returns bound (.skip name 1) (fun _ => .skip name 1) (skipToEnd name) := by
  refine returns_loop (fun depth => .skip name depth) _ (fun _ => rfl) (consumes_skipTurn name) ?_ 1
  intro depth event rest caller below _
  cases event with
  | start tag =>
    dsimp only [step, enter, skipTurn]
    by_cases same : tag.localName = name
    · simp only [same, if_true]
      rfl
    · simp only [same, if_false]
      rfl
  | end_ localName =>
    dsimp only [step, skipTurn, Frame.afterEnd, Frame.endTag]
    by_cases same : localName = name
    · simp only [same, if_true]
      by_cases outermost : depth - 1 = 0
      · simp only [outermost, if_true, return_, receive_skip]
        show _ = (caller.receive (.skip name 1)).bind _
        rw [receive_skip]
        rfl
      · simp only [outermost, if_false]
        rfl
    · simp only [same, if_false]
      rfl
  | _ => rfl

theorem turn_end {σ : Type} {at_ : σ → Frame xml.Score} {s : σ} {name localName : String} {caller : Frame xml.Score}
    (waits : (at_ s).afterEnd localName = if localName = name then none else some (at_ s)) :
    (xml.step (at_ s) (caller :: below) (.end_ localName)).bind (xml.run · rest) =
      (if localName = name then leave s rest else again s rest).bind
        (xml.Turned at_ (caller :: below) (xml.hand at_ caller below)) := by
  dsimp only [step]
  rw [waits]
  by_cases same : localName = name
  · simp only [same, if_true, return_]
    show _ = (caller.receive (at_ s)).bind _
    rcases caller.receive (at_ s) with error | caller
    · rfl
    · rfl
  · simp only [same, if_false]
    rfl

theorem returns_parseText (endTag lang : String) :
    xml.Returns bound (.text endTag lang "") (fun text => .text endTag lang text) (xml.parseText endTag) := by
  refine returns_loop (fun text => .text endTag lang text) _ (fun _ => rfl) (xml.consumes_textTurn endTag) ?_ ""
  intro text event rest caller below _
  have piece : ∀ piece : Except ManifestError (Option String),
      (do
        let top ← (do
          let piece ← piece
          .ok (.text endTag lang (text ++ piece.getD "") : Frame xml.Score))
        .ok (Config.within top (caller :: below))).bind (xml.run · rest) =
      (piece >>= fun piece => again (text ++ piece.getD "") rest).bind
        (xml.Turned (fun text => .text endTag lang text) (caller :: below)
          (xml.hand (fun text => .text endTag lang text) caller below)) := by
    intro piece
    rcases piece with error | piece
    · rfl
    · rfl
  cases event with
  | end_ localName => exact turn_end rfl
  | start tag =>
    have none_ : xml.textTurn endTag text (.start tag) rest = again text rest := by
      show again (text ++ "") rest = again text rest
      rw [String.append_empty]
    rw [none_]
    rfl
  | empty tag =>
    have none_ : xml.textTurn endTag text (.empty tag) rest = again text rest := by
      show again (text ++ "") rest = again text rest
      rw [String.append_empty]
    rw [none_]
    rfl
  | text content => exact piece _
  | cData content => exact piece _
  | generalRef name => exact piece _
  | other => exact piece _

theorem returns_parseLangstrings (endTag : String) :
    xml.Returns bound (.langstrings endTag []) (fun out => .langstrings endTag out)
      (xml.parseLangstrings endTag) := by
  refine returns_loop (fun out => .langstrings endTag out) _ (fun _ => rfl) (xml.consumes_langstringTurn endTag) ?_ []
  intro out event rest caller below short
  cases event with
  | start tag =>
    dsimp only [step, enter, langstringTurn]
    by_cases here : tag.localName = "langstring"
    · simp only [here, if_true]
      rcases xml.attr tag "lang" with error | lang
      · rfl
      · exact (returns_parseText "langstring" (lang.getD "")).call (fun out => .langstrings endTag out)
          (fun value => out ++ [⟨lang.getD "", value⟩]) (fun _ => rfl) (Nat.le_of_lt short)
    · simp only [here, if_false]
      rfl
  | empty tag =>
    dsimp only [step, pass, langstringTurn]
    by_cases here : tag.localName = "langstring"
    · simp only [here, if_true]
      rcases xml.attr tag "lang" with error | lang
      · rfl
      · rfl
    · simp only [here, if_false]
      rfl
  | end_ localName => exact turn_end rfl
  | _ => rfl

theorem returns_parseObjectiveRefs : xml.Returns bound (.objectiveRefs []) .objectiveRefs xml.parseObjectiveRefs := by
  refine returns_loop .objectiveRefs _ (fun _ => rfl) xml.consumes_objectiveRefTurn ?_ []
  intro refs event rest caller below _
  cases event with
  | start tag =>
    dsimp only [step, enter, objectiveRefTurn]
    by_cases here : tag.localName = "objective"
    · simp only [here, if_true]
      rcases xml.objectiveRef tag refs with error | refs
      · rfl
      · rfl
    · simp only [here, if_false]
      rfl
  | empty tag =>
    dsimp only [step, pass, objectiveRefTurn]
    by_cases here : tag.localName = "objective"
    · simp only [here, if_true]
      rcases xml.objectiveRef tag refs with error | refs
      · rfl
      · rfl
    · simp only [here, if_false]
      rfl
  | end_ localName => exact turn_end rfl
  | _ => rfl

theorem returns_course (course : Course) :
    xml.Returns bound (.course course) .course (readLoop "course" xml.courseTurn course) := by
  refine returns_loop .course _ (fun _ => rfl) xml.consumes_courseTurn ?_ course
  intro course event rest caller below short
  cases event with
  | start tag =>
    dsimp only [step, enter, enterStrings, skipTag, courseTurn]
    by_cases title : tag.localName = "title"
    · simp only [title, if_true]
      exact (returns_parseLangstrings "title").call .course (fun title => { course with title })
        (fun _ => rfl) (Nat.le_of_lt short)
    by_cases description : tag.localName = "description"
    · simp only [description, String.reduceEq, if_true, if_false]
      exact (returns_parseLangstrings "description").call .course
        (fun description => { course with description }) (fun _ => rfl) (Nat.le_of_lt short)
    · simp only [title, description, if_false]
      exact (returns_skipToEnd tag.localName).call .course (fun _ => course) (fun _ => rfl) (Nat.le_of_lt short)
  | end_ localName => exact turn_end rfl
  | _ => rfl

theorem returns_objective (objective : Objective) :
    xml.Returns bound (.objective objective) .objective (readLoop "objective" xml.objectiveTurn objective) := by
  refine returns_loop .objective _ (fun _ => rfl) xml.consumes_objectiveTurn ?_ objective
  intro objective event rest caller below short
  cases event with
  | start tag =>
    dsimp only [step, enter, enterStrings, skipTag, objectiveTurn]
    by_cases title : tag.localName = "title"
    · simp only [title, if_true]
      exact (returns_parseLangstrings "title").call .objective (fun title => { objective with title })
        (fun _ => rfl) (Nat.le_of_lt short)
    by_cases description : tag.localName = "description"
    · simp only [description, String.reduceEq, if_true, if_false]
      exact (returns_parseLangstrings "description").call .objective
        (fun description => { objective with description })
        (fun _ => rfl) (Nat.le_of_lt short)
    · simp only [title, description, if_false]
      exact (returns_skipToEnd tag.localName).call .objective (fun _ => objective) (fun _ => rfl) (Nat.le_of_lt short)
  | end_ localName => exact turn_end rfl
  | _ => rfl

theorem returns_parseObjectives : xml.Returns bound (.objectives []) .objectives xml.parseObjectives := by
  refine returns_loop .objectives _ (fun _ => rfl) xml.consumes_objectivesTurn ?_ []
  intro objectives event rest caller below short
  cases event with
  | start tag =>
    dsimp only [step, enter, objectivesTurn]
    by_cases here : tag.localName = "objective"
    · simp only [here, if_true, parseObjective]
      rcases xml.required tag "objective" "id" with error | id
      · rfl
      · exact (returns_objective ⟨id, [], []⟩).call .objectives (fun objective => objectives ++ [objective])
          (fun _ => rfl) (Nat.le_of_lt short)
    · simp only [here, if_false]
      rfl
  | end_ localName => exact turn_end rfl
  | _ => rfl

theorem returns_au (au : UnitSoFar xml.Score) : xml.Returns bound (.au au) .au (readLoop "au" xml.auTurn au) := by
  refine returns_loop .au _ (fun _ => rfl) xml.consumes_auTurn ?_ au
  intro au event rest caller below short
  cases event with
  | start tag =>
    dsimp only [step, enter, enterStrings, skipTag, auTurn]
    by_cases title : tag.localName = "title"
    · simp only [title, if_true]
      exact (returns_parseLangstrings "title").call .au (fun title => { au with title }) (fun _ => rfl)
        (Nat.le_of_lt short)
    by_cases description : tag.localName = "description"
    · simp only [description, String.reduceEq, if_true, if_false]
      exact (returns_parseLangstrings "description").call .au (fun description => { au with description })
        (fun _ => rfl) (Nat.le_of_lt short)
    by_cases objectives : tag.localName = "objectives"
    · simp only [objectives, String.reduceEq, if_true, if_false]
      exact returns_parseObjectiveRefs.call .au (fun objectiveIds => { au with objectiveIds }) (fun _ => rfl)
        (Nat.le_of_lt short)
    by_cases url : tag.localName = "url"
    · simp only [url, String.reduceEq, if_true, if_false]
      exact (returns_parseText "url" "").call .au (fun url => { au with url := some url }) (fun _ => rfl)
        (Nat.le_of_lt short)
    by_cases parameters : tag.localName = "launchParameters"
    · simp only [parameters, String.reduceEq, if_true, if_false]
      exact (returns_parseText "launchParameters" "").call .au
        (fun text => { au with launchParameters := some text }) (fun _ => rfl) (Nat.le_of_lt short)
    by_cases key : tag.localName = "entitlementKey"
    · simp only [key, String.reduceEq, if_true, if_false]
      exact (returns_parseText "entitlementKey" "").call .au
        (fun text => { au with entitlementKey := some text }) (fun _ => rfl) (Nat.le_of_lt short)
    · simp only [title, description, objectives, url, parameters, key, if_false]
      exact (returns_skipToEnd tag.localName).call .au (fun _ => au) (fun _ => rfl) (Nat.le_of_lt short)
  | empty tag =>
    dsimp only [step, pass, auTurn]
    by_cases url : tag.localName = "url"
    · simp only [url, if_true]
      rfl
    by_cases parameters : tag.localName = "launchParameters"
    · simp only [parameters, String.reduceEq, if_true, if_false]
      rfl
    by_cases key : tag.localName = "entitlementKey"
    · simp only [key, String.reduceEq, if_true, if_false]
      rfl
    · simp only [url, parameters, key, if_false]
      rfl
  | end_ localName => exact turn_end rfl
  | _ => rfl

/-- The turn of a loop that calls for an AU. -/
theorem call_au {σ α : Type} (at_ : σ → Frame xml.Score) {s : σ} (next : AssignableUnit xml.Score → σ)
    (received : ∀ au, (at_ s).receive (.au au) = au.complete >>= fun au => .ok (at_ (next au)))
    {finish : α → Events → Except ManifestError (CourseStructure xml.Score)} (tag : Tag) :
    (do
      match ← (do
        let au ← xml.auTag tag
        .ok (.call (.au au)) : Except ManifestError (Entered xml.Score)) with
      | .stay top => .ok (Config.within top below)
      | .call child => .ok (.within child (at_ s :: below))).bind (xml.run · rest) =
      (xml.parseAu tag false rest >>= fun out => again (next out.1) out.2).bind (xml.Turned at_ below finish) := by
  unfold parseAu
  rcases xml.auTag tag with error | au
  · rfl
  · have returns := returns_au au (at_ s) below rest (Nat.le_refl _)
    show xml.run (.within (.au au) (at_ s :: below)) rest = _
    rw [returns]
    show _ = ((readLoop "au" xml.auTurn au rest >>= _) >>= _).bind _
    rcases readLoop "au" xml.auTurn au rest with error | ⟨au, rest'⟩
    · rfl
    · show ((at_ s).receive (.au au)).bind _ = ((au.complete >>= _) >>= _).bind _
      rw [received]
      rcases au.complete with error | au
      · rfl
      · rfl

theorem pass_au {σ α : Type} (at_ : σ → Frame xml.Score) (next : AssignableUnit xml.Score → σ)
    {finish : α → Events → Except ManifestError (CourseStructure xml.Score)} (tag : Tag) :
    (do
      let top ← (do
        let _ ← xml.auTag tag
        throw (ManifestError.missingElement "url") : Except ManifestError (Frame xml.Score))
      .ok (Config.within top below)).bind (xml.run · rest) =
      (xml.parseAu tag true rest >>= fun out => again (next out.1) out.2).bind (xml.Turned at_ below finish) := by
  unfold parseAu
  rcases xml.auTag tag with error | au
  · rfl
  · rfl

theorem returns_block (depth : Nat) (deep : bound ≤ depth) (block : Block xml.Score) :
    xml.Returns bound (.block block) .block (readLoop "block" (xml.blockTurn (xml.parseBlock depth)) block) := by
  induction depth generalizing bound block with
  | zero =>
    refine returns_loop .block _ (fun _ => rfl) (xml.consumes_blockTurn (xml.consumes_parseBlock 0)) ?_ block
    intro block event rest caller below short
    omega
  | succ depth ih =>
    refine returns_loop .block _ (fun _ => rfl) (xml.consumes_blockTurn (xml.consumes_parseBlock _)) ?_ block
    intro block event rest caller below short
    cases event with
    | start tag =>
      dsimp only [step, enter, enterStrings, skipTag, blockTurn]
      by_cases title : tag.localName = "title"
      · simp only [title, if_true]
        exact (returns_parseLangstrings "title").call .block (fun title => { block with title })
          (fun _ => rfl) (Nat.le_of_lt short)
      by_cases description : tag.localName = "description"
      · simp only [description, String.reduceEq, if_true, if_false]
        exact (returns_parseLangstrings "description").call .block
          (fun description => { block with description }) (fun _ => rfl) (Nat.le_of_lt short)
      by_cases objectives : tag.localName = "objectives"
      · simp only [objectives, String.reduceEq, if_true, if_false]
        exact returns_parseObjectiveRefs.call .block (fun objectiveIds => { block with objectiveIds })
          (fun _ => rfl) (Nat.le_of_lt short)
      by_cases inner : tag.localName = "block"
      · simp only [inner, String.reduceEq, if_true, if_false, parseBlock]
        rcases xml.required tag "block" "id" with error | id
        · rfl
        · have returns : xml.Returns rest.length (.block ⟨id, [], [], [], []⟩) .block _ := ih (by omega) _
          exact returns.call .block (fun child => { block with children := block.children ++ [.block child] })
            (fun _ => rfl)
            (Nat.le_refl _)
      by_cases au : tag.localName = "au"
      · simp only [au, String.reduceEq, if_true, if_false]
        exact call_au .block (fun child => { block with children := block.children ++ [.au child] })
          (fun _ => rfl) tag
      · simp only [title, description, objectives, inner, au, if_false]
        exact (returns_skipToEnd tag.localName).call .block (fun _ => block) (fun _ => rfl) (Nat.le_of_lt short)
    | empty tag =>
      dsimp only [step, pass, blockTurn]
      by_cases inner : tag.localName = "block"
      · simp only [inner, String.reduceEq, if_true, if_false, parseBlock]
        rcases xml.required tag "block" "id" with error | id
        · rfl
        · rfl
      by_cases au : tag.localName = "au"
      · simp only [au, String.reduceEq, if_true, if_false]
        exact pass_au .block (fun child => { block with children := block.children ++ [.au child] }) tag
      · simp only [inner, au, if_false]
        rfl
    | end_ localName => exact turn_end rfl
    | _ => rfl

theorem call_block {σ α : Type} (at_ : σ → Frame xml.Score) {s : σ} (next : Block xml.Score → σ)
    (received : ∀ block, (at_ s).receive (.block block) = .ok (at_ (next block)))
    {finish : α → Events → Except ManifestError (CourseStructure xml.Score)} (id : String) :
    xml.run (.within (.block ⟨id, [], [], [], []⟩) (at_ s :: below)) rest =
      (readLoop "block" (xml.blockTurn (xml.parseBlock rest.length)) ⟨id, [], [], [], []⟩ rest >>= fun out =>
        again (next out.1) out.2).bind (xml.Turned at_ below finish) :=
  (returns_block rest.length (Nat.le_refl _) ⟨id, [], [], [], []⟩).call at_ next received (Nat.le_refl _)

theorem structure_turned (cs : StructureSoFar xml.Score) (event : Event) (rest : Events) :
    (xml.step (.courseStructure cs) [] event).bind (xml.run · rest) =
      (xml.structureTurn cs event rest).bind (xml.Turned .courseStructure [] fun cs _ => cs.complete) := by
  cases event with
  | start tag =>
    dsimp only [step, enter, skipTag, structureTurn]
    by_cases course : tag.localName = "course"
    · simp only [course, if_true, parseCourse]
      rcases xml.required tag "course" "id" with error | id
      · rfl
      · exact (returns_course ⟨id, [], []⟩).call .courseStructure
          (fun course => { cs with course := some course }) (fun _ => rfl)
          (Nat.le_refl _)
    by_cases objectives : tag.localName = "objectives"
    · simp only [objectives, String.reduceEq, if_true, if_false]
      exact returns_parseObjectives.call .courseStructure (fun objectives => { cs with objectives })
        (fun _ => rfl) (Nat.le_refl _)
    by_cases block : tag.localName = "block"
    · simp only [block, String.reduceEq, if_true, if_false, parseBlock]
      rcases xml.required tag "block" "id" with error | id
      · rfl
      · exact call_block .courseStructure (fun block => { cs with nodes := cs.nodes ++ [.block block] })
          (fun _ => rfl) id
    by_cases au : tag.localName = "au"
    · simp only [au, String.reduceEq, if_true, if_false]
      exact call_au .courseStructure (fun au => { cs with nodes := cs.nodes ++ [.au au] }) (fun _ => rfl) tag
    · simp only [course, objectives, block, au, if_false]
      exact (returns_skipToEnd tag.localName).call .courseStructure (fun _ => cs) (fun _ => rfl) (Nat.le_refl _)
  | empty tag =>
    dsimp only [step, pass, structureTurn]
    by_cases course : tag.localName = "course"
    · simp only [course, if_true, parseCourse]
      rcases xml.required tag "course" "id" with error | id
      · rfl
      · rfl
    by_cases block : tag.localName = "block"
    · simp only [block, String.reduceEq, if_true, if_false, parseBlock]
      rcases xml.required tag "block" "id" with error | id
      · rfl
      · rfl
    by_cases au : tag.localName = "au"
    · simp only [au, String.reduceEq, if_true, if_false]
      exact pass_au .courseStructure (fun au => { cs with nodes := cs.nodes ++ [.au au] }) tag
    · simp only [course, block, au, if_false]
      rfl
  | end_ localName =>
    dsimp only [step, structureTurn, Frame.afterEnd, Frame.endTag]
    by_cases here : localName = "courseStructure"
    · simp only [here, if_true, return_]
      show _ = cs.complete
      rcases cs.complete with error | complete
      · rfl
      · exact run_complete complete rest
    · simp only [here, if_false]
      rfl
  | _ => rfl

theorem run_structure (events : Events) :
    xml.run (.within (.courseStructure ⟨none, [], []⟩) []) events =
      (xml.parseCourseStructure events).map Prod.fst := by
  have loop : xml.run (.within (.courseStructure ⟨none, [], []⟩) []) events =
      (readLoop "courseStructure" xml.structureTurn ⟨none, [], []⟩ events).bind fun out => out.1.complete :=
    loop_turned .courseStructure [] (fun cs _ => cs.complete) (fun _ => rfl) xml.consumes_structureTurn
      (fun cs event rest _ => structure_turned cs event rest) _ events (Nat.le_refl _)
  rw [loop]
  unfold parseCourseStructure
  rcases readLoop "courseStructure" xml.structureTurn ⟨none, [], []⟩ events with error | ⟨cs, rest⟩
  · rfl
  · show cs.complete = Except.map _ (cs.complete >>= _)
    rcases cs.complete with error | cs
    · rfl
    · rfl

end Returns

section Run

variable {xml} {top next : Frame xml.Score} {below : List (Frame xml.Score)} {rest : Events}

theorem run_start {tag : Tag} {child : Frame xml.Score} (enters : xml.enter top tag = .ok (.call child)) :
    xml.run (.within top below) (.ok (.start tag) :: rest) = xml.run (.within child (top :: below)) rest := by
  rw [run, step, enters]
  rfl

theorem run_empty {tag : Tag} (passes : xml.pass top tag = .ok next) :
    xml.run (.within top below) (.ok (.empty tag) :: rest) = xml.run (.within next below) rest := by
  rw [run, step, passes]
  rfl

theorem run_stay {tag : Tag} (enters : xml.enter top tag = .ok (.stay next)) :
    xml.run (.within top below) (.ok (.start tag) :: rest) = xml.run (.within next below) rest := by
  rw [run, step, enters]
  rfl

theorem run_stay_end {localName : String} (stays : top.afterEnd localName = some next) :
    xml.run (.within top below) (.ok (.end_ localName) :: rest) = xml.run (.within next below) rest := by
  rw [run, step, stays]

theorem run_between {content : String} (passes : xml.between top (.text content) = .ok next) :
    xml.run (.within top below) (.ok (.text content) :: rest) = xml.run (.within next below) rest := by
  have steps : xml.step top below (.text content) = .ok (.within next below) := by
    show (xml.between top (.text content) >>= _) = _
    rw [passes]
    rfl
  rw [run, steps]

theorem run_return {callee : Frame xml.Score} {localName : String} (ends : callee.afterEnd localName = none)
    (receives : top.receive callee = .ok next) :
    xml.run (.within callee (top :: below)) (.ok (.end_ localName) :: rest) = xml.run (.within next below) rest := by
  have returns : xml.return_ callee (top :: below) = .ok (.within next below) := by
    rw [return_, receives]
    rfl
  rw [run, step, ends]
  dsimp only
  rw [returns]

end Run

/-- The calls one after another are the parser. -/
theorem parseEvents_eq_run (events : Events) : xml.parseEvents events = xml.run .searching events := by
  induction events with
  | nil => rfl
  | cons event rest ih =>
    match event with
    | .error message => rfl
    | .ok (.start tag) =>
      rw [parseEvents, run, search]
      by_cases here : tag.localName = "courseStructure"
      · rw [if_pos here, if_pos here, run_structure]
        rcases xml.parseCourseStructure rest with error | ⟨cs, rest'⟩
        · rfl
        · rfl
      · rw [if_neg here, if_neg here]
        exact ih
    | .ok (.empty tag) => exact ih
    | .ok (.end_ localName) => exact ih
    | .ok (.text content) => exact ih
    | .ok (.cData content) => exact ih
    | .ok (.generalRef name) => exact ih
    | .ok .other => exact ih

end XmlReading

end CoopSpaces.Cmi5
