import CoopSpaces.Cmi5.ManifestFrames
import CoopSpaces.Lib.Fallible

namespace CoopSpaces.Cmi5

open XmlReading (UnitSoFar StructureSoFar)

/-- A call of the parser less what it has gathered. -/
inductive Shape where
  | courseStructure
  | course
  | objectives
  | objective
  | block
  | au
  | langstrings (endTag : String)
  | objectiveRefs
  | text (endTag : String) (lang : String)
  | skip (name : String) (depth : Nat)
deriving DecidableEq

def Frame.shape {Score : Type} : Frame Score → Shape
  | .courseStructure _ => .courseStructure
  | .course _ => .course
  | .objectives _ => .objectives
  | .objective _ => .objective
  | .block _ => .block
  | .au _ => .au
  | .langstrings endTag _ => .langstrings endTag
  | .objectiveRefs _ => .objectiveRefs
  | .text endTag lang _ => .text endTag lang
  | .skip name depth => .skip name depth

/-- The end tags that bring a call to its end. -/
def Shape.tags : Shape → List String
  | .courseStructure => ["courseStructure"]
  | .course => ["course"]
  | .objectives => ["objectives"]
  | .objective => ["objective"]
  | .block => ["block"]
  | .au => ["au"]
  | .langstrings endTag => [endTag]
  | .objectiveRefs => ["objectives"]
  | .text endTag _ => [endTag]
  | .skip name depth => List.replicate depth name

/-- Which calls a call makes. -/
inductive Shape.Calls : Shape → Shape → Prop
  | course : Calls .courseStructure .course
  | objectives : Calls .courseStructure .objectives
  | objective : Calls .objectives .objective
  | node {caller child} (gathers : caller = .courseStructure ∨ caller = .block)
    (node : child = .block ∨ child = .au) :
    Calls caller child
  | strings {caller endTag} (titled : caller = .course ∨ caller = .objective ∨ caller = .block ∨ caller = .au)
    (named : endTag = "title" ∨ endTag = "description") : Calls caller (.langstrings endTag)
  | langstring {endTag lang} : Calls (.langstrings endTag) (.text "langstring" lang)
  | refs {caller} (refers : caller = .block ∨ caller = .au) : Calls caller .objectiveRefs
  | leaf {endTag} (named : endTag = "url" ∨ endTag = "launchParameters" ∨ endTag = "entitlementKey") :
    Calls .au (.text endTag "")
  | skip {caller name depth}
    (skips : caller = .courseStructure ∨ caller = .course ∨ caller = .objective ∨ caller = .block ∨ caller = .au)
    (deep : 0 < depth) : Calls caller (.skip name depth)

section Calls

variable {caller : Shape}

theorem Shape.Calls.of_course (calls : caller.Calls .course) : caller = .courseStructure := by
  cases calls with
  | course => rfl
  | node _ node => rcases node with node | node <;> cases node

theorem Shape.Calls.of_objectives (calls : caller.Calls .objectives) : caller = .courseStructure := by
  cases calls with
  | objectives => rfl
  | node _ node => rcases node with node | node <;> cases node

theorem Shape.Calls.of_objective (calls : caller.Calls .objective) : caller = .objectives := by
  cases calls with
  | objective => rfl
  | node _ node => rcases node with node | node <;> cases node

theorem Shape.Calls.of_block (calls : caller.Calls .block) : caller = .courseStructure ∨ caller = .block := by
  cases calls with
  | node gathers _ => exact gathers

theorem Shape.Calls.of_au (calls : caller.Calls .au) : caller = .courseStructure ∨ caller = .block := by
  cases calls with
  | node gathers _ => exact gathers

theorem Shape.Calls.of_langstrings {endTag : String} (calls : caller.Calls (.langstrings endTag)) :
    (caller = .course ∨ caller = .objective ∨ caller = .block ∨ caller = .au) ∧
      (endTag = "title" ∨ endTag = "description") := by
  cases calls with
  | strings titled named => exact ⟨titled, named⟩
  | node _ node => rcases node with node | node <;> cases node

theorem Shape.Calls.of_objectiveRefs (calls : caller.Calls .objectiveRefs) : caller = .block ∨ caller = .au := by
  cases calls with
  | refs refers => exact refers
  | node _ node => rcases node with node | node <;> cases node

theorem Shape.Calls.of_text {endTag lang : String} (calls : caller.Calls (.text endTag lang)) :
    (∃ titled, caller = .langstrings titled) ∨
      (caller = .au ∧ (endTag = "url" ∨ endTag = "launchParameters" ∨ endTag = "entitlementKey") ∧ lang = "") := by
  cases calls with
  | langstring => exact .inl ⟨_, rfl⟩
  | leaf named => exact .inr ⟨rfl, named, rfl⟩
  | node _ node => rcases node with node | node <;> cases node

theorem Shape.Calls.of_courseStructure (calls : caller.Calls .courseStructure) : False := by
  cases calls with
  | node _ node => rcases node with node | node <;> cases node

theorem Shape.Calls.of_skip {name : String} {depth : Nat} (calls : caller.Calls (.skip name depth)) :
    (caller = .courseStructure ∨ caller = .course ∨ caller = .objective ∨ caller = .block ∨ caller = .au) ∧
      0 < depth := by
  cases calls with
  | skip skips deep => exact ⟨skips, deep⟩
  | node _ node => rcases node with node | node <;> cases node

end Calls

/-- The calls under way, the innermost first: each was made by the one below it. -/
def Stacked : List Shape → Prop
  | [] => False
  | [shape] => shape = .courseStructure
  | child :: caller :: below => caller.Calls child ∧ Stacked (caller :: below)

variable {below : List Shape}

theorem Stacked.call {child top : Shape} (stacked : Stacked (top :: below)) (calls : top.Calls child) :
    Stacked (child :: top :: below) := ⟨calls, stacked⟩

theorem Stacked.deeper {name : String} {depth deep : Nat} (stacked : Stacked (.skip name depth :: below))
    (positive : 0 < deep) : Stacked (.skip name deep :: below) := by
  cases below with
  | nil => cases stacked
  | cons caller below =>
    exact ⟨.skip stacked.1.of_skip.1 positive, stacked.2⟩

theorem Stacked.depth_pos {name : String} {depth : Nat} (stacked : Stacked (.skip name depth :: below)) :
    0 < depth := by
  cases below with
  | nil => cases stacked
  | cons caller below => exact stacked.1.of_skip.2

/-- What a start tag does to a call of this shape. -/
def Entered.Legal {Score : Type} (shape : Shape) (name : String) : Entered Score → Prop
  | .stay next => next.shape = shape ∨ ∃ depth, shape = .skip name depth ∧ next.shape = .skip name (depth + 1)
  | .call child => shape.Calls child.shape ∧ child.shape.tags = [name]

namespace XmlReading
variable {Doc Float : Type} {xml : XmlReading Doc Float}

theorem legal_call {shape : Shape} {name : String} {child : Frame xml.Score} (calls : shape.Calls child.shape)
    (tags : child.shape.tags = [name]) :
    Ensures (.ok (.call child) : Except ManifestError (Entered xml.Score)) (Entered.Legal shape name) :=
  ensures_ok ⟨calls, tags⟩

theorem legal_stay {frame : Frame xml.Score} {name : String} :
    Ensures (.ok (.stay frame) : Except ManifestError (Entered xml.Score)) (Entered.Legal frame.shape name) :=
      ensures_ok (.inl rfl)

theorem legal_skip {shape : Shape} {tag : Tag}
    (skips : shape = .courseStructure ∨ shape = .course ∨ shape = .objective ∨ shape = .block ∨ shape = .au) :
    Ensures (xml.skipTag tag) (Entered.Legal shape tag.localName) := legal_call (.skip skips Nat.one_pos) rfl

theorem legal_strings {shape : Shape} {tag : Tag} {otherwise : Except ManifestError (Entered xml.Score)}
    (titled : shape = .course ∨ shape = .objective ∨ shape = .block ∨ shape = .au)
    (other : Ensures otherwise (Entered.Legal shape tag.localName)) :
    Ensures (xml.enterStrings tag otherwise) (Entered.Legal shape tag.localName) := by
  unfold enterStrings
  split
  next title =>
    rw [title]
    exact legal_call (.strings titled (.inl rfl)) rfl
  split
  next description =>
    rw [description]
    exact legal_call (.strings titled (.inr rfl)) rfl
  exact other

/-- A start tag goes on with a call, or makes one that its end tag ends. -/
theorem enter_legal (frame : Frame xml.Score) (tag : Tag) :
    Ensures (xml.enter frame tag) (Entered.Legal frame.shape tag.localName) := by
  have block : ∀ {shape : Shape}, shape = .courseStructure ∨ shape = .block → tag.localName = "block" →
      Ensures (do
        let id ← xml.required tag "block" "id"
        .ok (.call (.block ⟨id, [], [], [], []⟩)) : Except ManifestError (Entered xml.Score))
          (Entered.Legal shape tag.localName) := by
    intro shape gathers named
    rw [named]
    exact ensures_bind fun id _ => legal_call (.node gathers (.inl rfl)) rfl
  have au : ∀ {shape : Shape}, shape = .courseStructure ∨ shape = .block → tag.localName = "au" →
      Ensures (do
        let au ← xml.auTag tag
        .ok (.call (.au au)) : Except ManifestError (Entered xml.Score)) (Entered.Legal shape tag.localName) := by
    intro shape gathers named
    rw [named]
    exact ensures_bind fun id _ => legal_call (.node gathers (.inr rfl)) rfl
  have refs : ∀ {shape : Shape}, shape = .block ∨ shape = .au → tag.localName = "objectives" →
      Ensures (.ok (.call (.objectiveRefs [])) : Except ManifestError (Entered xml.Score))
        (Entered.Legal shape tag.localName) := by
    intro shape refers named
    rw [named]
    exact legal_call (.refs refers) rfl
  unfold enter
  cases frame with
  | courseStructure cs =>
    dsimp only
    split
    next course =>
      rw [course]
      exact ensures_bind fun id _ => legal_call .course rfl
    split
    next objectives =>
      rw [objectives]
      exact legal_call .objectives rfl
    split
    next named => exact block (.inl rfl) named
    split
    next named => exact au (.inl rfl) named
    exact legal_skip (.inl rfl)
  | course course => exact legal_strings (.inl rfl) (legal_skip (.inr (.inl rfl)))
  | objectives os =>
    dsimp only
    split
    next named =>
      rw [named]
      exact ensures_bind fun id _ => legal_call .objective rfl
    exact legal_stay
  | objective o => exact legal_strings (.inr (.inl rfl)) (legal_skip (.inr (.inr (.inl rfl))))
  | block b =>
    refine legal_strings (.inr (.inr (.inl rfl))) ?_
    split
    next named => exact refs (.inl rfl) named
    split
    next named => exact block (.inr rfl) named
    split
    next named => exact au (.inr rfl) named
    exact legal_skip (.inr (.inr (.inr (.inl rfl))))
  | au u =>
    refine legal_strings (.inr (.inr (.inr rfl))) ?_
    split
    next named => exact refs (.inr rfl) named
    split
    next url =>
      rw [url]
      exact legal_call (.leaf (.inl rfl)) rfl
    split
    next parameters =>
      rw [parameters]
      exact legal_call (.leaf (.inr (.inl rfl))) rfl
    split
    next key =>
      rw [key]
      exact legal_call (.leaf (.inr (.inr rfl))) rfl
    exact legal_skip (.inr (.inr (.inr (.inr rfl))))
  | langstrings endTag out =>
    dsimp only
    split
    next named =>
      rw [named]
      exact ensures_bind fun lang _ => legal_call .langstring rfl
    exact legal_stay
  | objectiveRefs refs =>
    dsimp only
    split
    · exact ensures_bind fun refs' _ => ensures_ok (.inl rfl)
    · exact legal_stay
  | text endTag lang text => exact legal_stay
  | skip name depth =>
    dsimp only
    split
    next named =>
      rw [named]
      exact ensures_ok (.inr ⟨depth, rfl, rfl⟩)
    exact legal_stay

theorem pass_shape (frame : Frame xml.Score) (tag : Tag) :
    Ensures (xml.pass frame tag) fun next => next.shape = frame.shape := by
  unfold pass
  cases frame with
  | courseStructure cs =>
    dsimp only
    split
    · exact ensures_bind fun id _ => ensures_ok rfl
    split
    · exact ensures_bind fun id _ => ensures_ok rfl
    split
    · exact ensures_bind fun au _ => ensures_error _
    · exact ensures_ok rfl
  | block b =>
    dsimp only
    split
    · exact ensures_bind fun id _ => ensures_ok rfl
    split
    · exact ensures_bind fun au _ => ensures_error _
    · exact ensures_ok rfl
  | au u =>
    dsimp only
    split
    · exact ensures_ok rfl
    split
    · exact ensures_ok rfl
    split
    · exact ensures_ok rfl
    · exact ensures_ok rfl
  | langstrings endTag out =>
    dsimp only
    split
    · exact ensures_bind fun lang _ => ensures_ok rfl
    · exact ensures_ok rfl
  | objectiveRefs refs =>
    dsimp only
    split
    · exact ensures_bind fun refs _ => ensures_ok rfl
    · exact ensures_ok rfl
  | _ => exact ensures_ok rfl

theorem between_shape (frame : Frame xml.Score) (event : Event) :
    Ensures (xml.between frame event) fun next => next.shape = frame.shape := by
  unfold between
  cases frame with
  | text endTag lang text => exact ensures_bind fun piece _ => ensures_ok rfl
  | _ => exact ensures_ok rfl

end XmlReading

theorem receive_shape {Score : Type} (caller child : Frame Score) :
    Ensures (caller.receive child) fun next => next.shape = caller.shape := by
  unfold Frame.receive
  split
  all_goals first
    | exact ensures_ok rfl
    | exact ensures_bind fun u _ => ensures_ok rfl

/-- Tags that are open once these events are read, the innermost first. None if one is closed
that is not the innermost. -/
def openTags : List String → Events → Option (List String)
  | opened, [] => some opened
  | opened, .ok (.start tag) :: rest => openTags (tag.localName :: opened) rest
  | [], .ok (.end_ _) :: _ => none
  | name :: opened, .ok (.end_ localName) :: rest => if localName = name then openTags opened rest else none
  | opened, _ :: rest => openTags opened rest

/-- The calls were made one by the other, for elements that are still open. -/
def Config.Sound {Score : Type} (opened : List String) : Config Score → Prop
  | .within top below =>
    Stacked ((top :: below).map Frame.shape) ∧
      List.Sublist (((top :: below).map Frame.shape).flatMap Shape.tags) opened
  | _ => True

/-- A call that its last end tag ends. -/
theorem afterEnd_none {Score : Type} {frame : Frame Score} {localName : String}
    (stacked : Stacked (frame.shape :: below)) (ends : frame.afterEnd localName = none) :
    frame.shape.tags = [localName] := by
  unfold Frame.afterEnd at ends
  split at ends
  case isFalse => cases ends
  case isTrue here =>
    subst here
    cases frame with
    | skip name depth =>
      have positive := stacked.depth_pos
      dsimp only at ends
      split at ends
      next last =>
        have one : depth = 1 := by omega
        rw [one]
        rfl
      next => cases ends
    | _ => rfl

/-- A call that an end tag does not end. -/
theorem afterEnd_some {Score : Type} {frame next : Frame Score} {localName : String}
    (stacked : Stacked (frame.shape :: below)) (stays : frame.afterEnd localName = some next) :
    (next = frame ∧ ∀ name ∈ frame.shape.tags, name ≠ localName) ∨
      (Stacked (next.shape :: below) ∧ frame.shape.tags = localName :: next.shape.tags) := by
  unfold Frame.afterEnd at stays
  split at stays
  case isFalse other =>
    injection stays with stays
    refine .inl ⟨stays.symm, fun name member => ?_⟩
    rintro rfl
    cases frame with
    | skip skipped depth => exact other (List.eq_of_mem_replicate member)
    | _ => exact other (List.mem_singleton.mp member)
  case isTrue here =>
    subst here
    cases frame with
    | skip name depth =>
      have positive := stacked.depth_pos
      dsimp only at stays
      split at stays
      next => cases stays
      next deeper =>
        injection stays with stays
        subst stays
        refine .inr ⟨stacked.deeper (by omega), ?_⟩
        show List.replicate depth name = name :: List.replicate (depth - 1) name
        rw [← List.replicate_succ, Nat.sub_add_cancel positive]
    | _ => cases stays

theorem Stacked.tags_cons {shape : Shape} (stacked : Stacked (shape :: below)) :
    ∃ name names, shape.tags = name :: names := by
  cases shape with
  | skip name depth =>
    have positive := stacked.depth_pos
    exact ⟨name, List.replicate (depth - 1) name, by rw [← List.replicate_succ, Nat.sub_add_cancel positive]; rfl⟩
  | _ => exact ⟨_, [], rfl⟩

namespace XmlReading
variable {Doc Float : Type} {xml : XmlReading Doc Float} {top : Frame xml.Score}
    {below : List (Frame xml.Score)} {opened : List String}

theorem start_sound (sound : (Config.within top below).Sound opened) (tag : Tag) :
    Ensures (xml.step top below (.start tag)) (Config.Sound (tag.localName :: opened)) := by
  obtain ⟨stacked, sublist⟩ := sound
  refine ensures_bind fun entered enters => ?_
  have legal := enter_legal top tag entered enters
  cases entered with
  | stay next =>
    refine ensures_ok ?_
    rcases legal with same | ⟨depth, skipped, deeper⟩
    · show Stacked (next.shape :: _) ∧ (next.shape.tags ++ _).Sublist _
      rw [same]
      exact ⟨stacked, sublist.cons _⟩
    · simp only [List.map_cons, List.flatMap_cons, skipped] at stacked sublist
      show Stacked (next.shape :: _) ∧ (next.shape.tags ++ _).Sublist _
      rw [deeper]
      exact ⟨stacked.deeper (Nat.succ_pos _), sublist.cons_cons _⟩
  | call child =>
    refine ensures_ok ⟨stacked.call legal.1, ?_⟩
    show (child.shape.tags ++ _).Sublist _
    rw [legal.2]
    exact sublist.cons_cons _

theorem return_sound (stacked : Stacked (top.shape :: below.map Frame.shape))
    (sublist : List.Sublist ((below.map Frame.shape).flatMap Shape.tags) opened) :
    Ensures (xml.return_ top below) (Config.Sound opened) := by
  cases below with
  | nil =>
    unfold return_
    cases top with
    | courseStructure cs => exact ensures_bind fun cs _ => ensures_ok trivial
    | _ => cases stacked
  | cons caller below =>
    refine ensures_bind fun next receives => ensures_ok ?_
    have same := receive_shape caller top next receives
    show Stacked (next.shape :: _) ∧ (next.shape.tags ++ _).Sublist _
    rw [same]
    exact ⟨stacked.2, sublist⟩

theorem end_sound {localName : String} (sound : (Config.within top below).Sound (localName :: opened)) :
    Ensures (xml.step top below (.end_ localName)) (Config.Sound opened) := by
  obtain ⟨stacked, sublist⟩ := sound
  have sublist : (top.shape.tags ++ (below.map Frame.shape).flatMap Shape.tags).Sublist (localName :: opened) :=
    sublist
  unfold step
  dsimp only
  split
  next next stays =>
    refine ensures_ok ?_
    rcases afterEnd_some stacked stays with ⟨same, others⟩ | ⟨deeper, tags⟩
    · subst same
      obtain ⟨name, names, tags⟩ := stacked.tags_cons
      refine ⟨stacked, ?_⟩
      show (next.shape.tags ++ _).Sublist _
      rw [tags] at sublist others ⊢
      exact List.Sublist.of_cons_of_ne (others name List.mem_cons_self) sublist
    · rw [tags] at sublist
      exact ⟨deeper, List.cons_sublist_cons.mp sublist⟩
  next ends =>
    rw [afterEnd_none stacked ends] at sublist
    exact return_sound stacked (List.cons_sublist_cons.mp sublist)

variable (xml) in
/-- Where the parser stands once it has read these events. -/
def reach : Config xml.Score → Events → Except ManifestError (Config xml.Score)
  | config, [] => .ok config
  | .complete cs, _ => .ok (.complete cs)
  | .searching, .error message :: _ => .error (.xml message)
  | .within _ _, .error message :: _ => .error (.xml message)
  | .searching, .ok event :: rest => reach (xml.search event) rest
  | .within top below, .ok event :: rest =>
    match xml.step top below event with
    | .error error => .error error
    | .ok config => reach config rest

theorem run_append (config : Config xml.Score) (events more : Events) :
    xml.run config (events ++ more) = (xml.reach config events).bind (xml.run · more) := by
  induction events generalizing config with
  | nil =>
    cases config <;> rfl
  | cons event events ih =>
    match config, event with
    | .complete cs, _ =>
      rw [run_complete, reach]
      · exact (run_complete cs more).symm
      · exact List.cons_ne_nil _ _
    | .searching, .error message => rfl
    | .within _ _, .error message => rfl
    | .searching, .ok event => exact ih (xml.search event)
    | .within top below, .ok event =>
      rw [List.cons_append, run, reach]
      rcases xml.step top below event with error | config
      · rfl
      · exact ih config

theorem search_sound (event : Event) {opened after : List String} (tags : openTags opened [.ok event] = some after) :
    (xml.search event).Sound after := by
  unfold search
  cases event with
  | start tag =>
    injection tags with tags
    dsimp only
    split
    next here =>
      rw [← tags, here]
      exact ⟨rfl, List.Sublist.cons_cons _ (List.nil_sublist _)⟩
    next => trivial
  | _ => trivial

theorem keep_sound {keep : Except ManifestError (Frame xml.Score)}
    (shape : Ensures keep fun next => next.shape = top.shape)
    (sound : (Config.within top below).Sound opened) :
    Ensures (do
      let top ← keep
      .ok (.within top below)) (Config.Sound opened) := by
  refine ensures_bind fun next kept => ensures_ok ?_
  have same := shape next kept
  show Stacked (next.shape :: _) ∧ (next.shape.tags ++ _).Sublist _
  rw [same]
  exact sound

theorem openTags_cons (opened : List String) (event : Except String Event) (rest : Events) :
    openTags opened (event :: rest) = (openTags opened [event]).bind (openTags · rest) := by
  match opened, event with
  | _, .error _ => simp only [openTags, Option.bind]
  | _, .ok (.start _) => rfl
  | [], .ok (.end_ _) => rfl
  | name :: opened, .ok (.end_ localName) =>
    rw [openTags, openTags]
    split <;> rfl
  | _, .ok (.empty _) | _, .ok (.text _) | _, .ok (.cData _) | _, .ok (.generalRef _) | _, .ok .other =>
    simp only [openTags, Option.bind]

theorem step_sound {event : Event} {after : List String} (sound : (Config.within top below).Sound opened)
    (tags : openTags opened [.ok event] = some after) : Ensures (xml.step top below event) (Config.Sound after) := by
  cases event with
  | start tag =>
    injection tags with tags
    rw [← tags]
    exact start_sound sound tag
  | end_ localName =>
    cases opened with
    | nil => cases tags
    | cons name opened =>
      rw [openTags] at tags
      split at tags
      next here =>
        injection tags with tags
        rw [← tags]
        rw [← here] at sound
        exact end_sound sound
      next => cases tags
  | empty tag =>
    simp only [openTags, Option.some.injEq] at tags
    rw [← tags]
    exact keep_sound (pass_shape top tag) sound
  | _ =>
    simp only [openTags, Option.some.injEq] at tags
    rw [← tags]
    exact keep_sound (between_shape top _) sound

/-- As far as tags match, the calls under way are for elements that are open. -/
theorem reach_sound (config : Config xml.Score) (events : Events) {opened after : List String}
    (sound : config.Sound opened)
    (tags : openTags opened events = some after) : Ensures (xml.reach config events) (Config.Sound after) := by
  induction events generalizing config opened with
  | nil =>
    injection tags with tags
    rw [← tags]
    cases config <;> exact ensures_ok sound
  | cons event events ih =>
    rw [openTags_cons] at tags
    obtain ⟨between, first, rest⟩ := Option.bind_eq_some_iff.mp tags
    match config, event with
    | .complete cs, _ => exact ensures_ok trivial
    | .searching, .error message => exact ensures_error _
    | .within _ _, .error message => exact ensures_error _
    | .searching, .ok event => exact ih (xml.search event) (search_sound event first) rest
    | .within top below, .ok event =>
      have stepped := step_sound sound first
      rw [reach]
      rcases step : xml.step top below event with error | config
      · exact ensures_error _
      · exact ih config (stepped config step) rest

end XmlReading

end CoopSpaces.Cmi5
