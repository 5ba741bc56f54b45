import CoopSpaces.Cmi5.ParserStack
import CoopSpaces.Cmi5.ManifestRoundTrip

namespace CoopSpaces.Cmi5

open XmlReading (UnitSoFar StructureSoFar)

/-- An element without content, spelled as a start tag and an end tag. -/
def pair (tag : Tag) (post : Events) : Events := .ok (.start tag) :: .ok (.end_ tag.localName) :: post

/-- The same, spelled as one tag that closes itself. -/
def selfClosing (tag : Tag) (post : Events) : Events := .ok (.empty tag) :: post

/-- Where an element of that name without content is not the same as one that closes itself. -/
def Frame.Differs {Score : Type} (name : String) : Frame Score → Prop
  | .courseStructure cs => name = "objectives" ∧ cs.objectives ≠ []
  | .course c => (name = "title" ∧ c.title ≠ []) ∨ (name = "description" ∧ c.description ≠ [])
  | .objectives _ => name = "objective" ∨ name = "objectives"
  | .objective o => (name = "title" ∧ o.title ≠ []) ∨ (name = "description" ∧ o.description ≠ [])
  | .block b =>
    (name = "title" ∧ b.title ≠ []) ∨ (name = "description" ∧ b.description ≠ []) ∨
      (name = "objectives" ∧ b.objectiveIds ≠ [])
  | .au u =>
    (name = "title" ∧ u.title ≠ []) ∨ (name = "description" ∧ u.description ≠ []) ∨
      (name = "objectives" ∧ u.objectiveIds ≠ [])
  | .langstrings endTag _ => name = endTag
  | .objectiveRefs _ => name = "objectives"
  | .text endTag _ _ => name = endTag
  | .skip _ _ => False

def Config.Differs {Score : Type} (name : String) : Config Score → Prop
  | .searching => name = "courseStructure"
  | .within top _ => top.Differs name
  | .complete _ => False

/-- Whether a call may return: a unit needs its url, and the structure its course. -/
def Frame.Ready {Score : Type} : Frame Score → Prop
  | .courseStructure cs => cs.course ≠ none
  | .au u => u.url ≠ none
  | _ => True

/-- Two calls of one shape that have not gathered the same, while neither is nearer to its end. -/
structure Frame.Unlike {Score : Type} (f g : Frame Score) : Prop where
  shape : f.shape = g.shape
  differ : f ≠ g
  ready : f.Ready ↔ g.Ready

section Unlike

variable {Score : Type}

theorem complete_of_ready {u : UnitSoFar Score} (ready : u.url ≠ none) : ∃ unit, u.complete = .ok unit := by
  obtain ⟨url, here⟩ := Option.ne_none_iff_exists'.mp ready
  rw [XmlReading.UnitSoFar.complete, here]
  exact ⟨_, rfl⟩

theorem complete_inj {u v : UnitSoFar Score} {unit : AssignableUnit Score} (first : u.complete = .ok unit)
    (second : v.complete = .ok unit) : u = v := by
  obtain ⟨_, _, _, _, _, _, _, url, _, _⟩ := u
  obtain ⟨_, _, _, _, _, _, _, url', _, _⟩ := v
  cases url with
  | none => cases first
  | some url =>
    cases url' with
    | none => cases second
    | some url' =>
      injection first with first
      injection second with second
      rw [← second] at first
      injection first
      subst_vars
      rfl

theorem afterEnd_other {frame : Frame Score} {localName : String} (other : localName ≠ frame.endTag) :
    frame.afterEnd localName = some frame := if_neg other

theorem Frame.Unlike.not_skip {f g : Frame Score} (unlike : f.Unlike g) (name : String) (depth : Nat) :
    f.shape ≠ .skip name depth := by
  intro skipped
  have skipped' : g.shape = .skip name depth := unlike.shape.symm.trans skipped
  cases f <;> cases skipped
  cases g <;> cases skipped'
  exact unlike.differ rfl

theorem tags_of_not_skip {f : Frame Score} (notSkip : ∀ name depth, f.shape ≠ .skip name depth) :
    f.shape.tags = [f.endTag] := by
  cases f with
  | skip name depth => exact absurd rfl (notSkip name depth)
  | _ => rfl

theorem afterEnd_of_not_skip {f : Frame Score} (notSkip : ∀ name depth, f.shape ≠ .skip name depth) (name : String) :
    f.afterEnd name = if name = f.endTag then none else some f := by
  unfold Frame.afterEnd
  cases f with
  | skip name depth => exact absurd rfl (notSkip name depth)
  | _ => rfl

theorem Frame.Unlike.endTag {f g : Frame Score} (unlike : f.Unlike g) : f.endTag = g.endTag := by
  have tags := tags_of_not_skip unlike.not_skip
  rw [unlike.shape, tags_of_not_skip fun name depth same => unlike.not_skip name depth
    (unlike.shape.trans same)] at tags
  exact (List.singleton_inj.mp tags).symm

theorem Frame.Unlike.afterEnd {f g : Frame Score} (unlike : f.Unlike g) (name : String) :
    (f.afterEnd name = some f ∧ g.afterEnd name = some g ∧ name ≠ f.endTag) ∨
      (f.afterEnd name = none ∧ g.afterEnd name = none ∧ name = f.endTag) := by
  rw [afterEnd_of_not_skip unlike.not_skip,
    afterEnd_of_not_skip fun name depth same => unlike.not_skip name depth (unlike.shape.trans same), ← unlike.endTag]
  by_cases here : name = f.endTag
  · rw [if_pos here, if_pos here]
    exact .inr ⟨rfl, rfl, here⟩
  · rw [if_neg here, if_neg here]
    exact .inl ⟨rfl, rfl, here⟩

/-- Who takes what unlike calls return is unlike too. -/
theorem Frame.Unlike.receive {f g caller : Frame Score} (unlike : f.Unlike g)
    (calls : caller.shape.Calls f.shape) (ready : f.Ready) :
    ∃ f' g', caller.receive f = .ok f' ∧ caller.receive g = .ok g' ∧ f'.Unlike g' := by
  obtain ⟨shape, differ, bothReady⟩ := unlike
  cases f with
  | courseStructure cs => exact calls.of_courseStructure.elim
  | course c =>
    have callerShape := calls.of_course
    cases caller <;> cases callerShape
    cases g <;> cases shape
    exact ⟨_, _, rfl, rfl, rfl, fun same => differ (by simpa using same), by simp [Frame.Ready]⟩
  | objectives os =>
    have callerShape := calls.of_objectives
    cases caller <;> cases callerShape
    cases g <;> cases shape
    exact ⟨_, _, rfl, rfl, rfl, fun same => differ (by simpa using same), by simp [Frame.Ready]⟩
  | objective o =>
    have callerShape := calls.of_objective
    cases caller <;> cases callerShape
    cases g <;> cases shape
    exact ⟨_, _, rfl, rfl, rfl, fun same => differ (by simpa using same), Iff.rfl⟩
  | block b =>
    cases g <;> cases shape
    rcases calls.of_block with callerShape | callerShape <;> cases caller <;> cases callerShape <;>
      exact ⟨_, _, rfl, rfl, rfl, fun same => differ (by simpa using same), Iff.rfl⟩
  | au u =>
    cases g with
    | au v =>
      obtain ⟨unit, complete⟩ := complete_of_ready ready
      obtain ⟨unit', complete'⟩ := complete_of_ready (bothReady.mp ready)
      have units : unit ≠ unit' := by
        rintro rfl
        exact differ (by rw [complete_inj complete complete'])
      rcases calls.of_au with callerShape | callerShape <;> cases caller <;> cases callerShape <;>
        refine ⟨_, _, by rw [Frame.receive, complete]; rfl, by rw [Frame.receive, complete']; rfl, by rfl,
          fun same => units (by simpa using same), by simp [Frame.Ready]⟩
    | _ => cases shape
  | langstrings endTag out =>
    cases g with
    | langstrings endTag' out' =>
      injection shape with tags
      subst tags
      have outs : out ≠ out' := by simpa using differ
      obtain ⟨callerShape, named⟩ := calls.of_langstrings
      rcases named with rfl | rfl <;> rcases callerShape
        with callerShape | callerShape | callerShape | callerShape <;>
        cases caller <;> cases callerShape <;> exact ⟨_, _, rfl, rfl, rfl,
          fun same => outs (by simpa using same), Iff.rfl⟩
    | _ => cases shape
  | objectiveRefs refs =>
    cases g <;> cases shape
    rcases calls.of_objectiveRefs with callerShape | callerShape <;> cases caller <;> cases callerShape <;>
      exact ⟨_, _, rfl, rfl, rfl, fun same => differ (by simpa using same), Iff.rfl⟩
  | text endTag lang text =>
    cases g with
    | text endTag' lang' text' =>
      injection shape with tags langs
      subst tags langs
      have texts : text ≠ text' := by simpa using differ
      rcases calls.of_text with ⟨titled, callerShape⟩ | ⟨callerShape, named, _⟩
      · cases caller <;> cases callerShape
        exact ⟨_, _, rfl, rfl, rfl, fun same => texts (by simpa using same), Iff.rfl⟩
      · cases caller <;> cases callerShape
        rcases named with rfl | rfl | rfl <;>
          exact ⟨_, _, rfl, rfl, rfl, fun same => texts (by simpa using same), by simp [Frame.Ready]⟩
    | _ => cases shape
  | skip name depth =>
    cases g <;> cases shape
    exact absurd rfl differ

end Unlike

namespace XmlReading
variable {Doc Float : Type} {xml : XmlReading Doc Float}

/-- An attribute that is read as it is written. -/
def idTag (name : String) : Tag := ⟨name, [.ok ⟨"id", "id"⟩]⟩

theorem required_idTag (plain : xml.normalizedValue "id" = .ok "id") (name : String) :
    xml.required (idTag name) name "id" = .ok "id" := by
  rw [required, attr, idTag, attr.go, if_pos rfl, plain]

/-- What a call still needs it can be given, and no less unlike another one for that. -/
theorem made_ready (plain : xml.normalizedValue "id" = .ok "id") {f g : Frame xml.Score} (unlike : f.Unlike g)
    (below : List (Frame xml.Score)) :
    ∃ (needed : Events) (f' g' : Frame xml.Score), f'.Unlike g' ∧ f'.Ready ∧ f'.shape = f.shape ∧
      (∀ rest, xml.run (.within f below) (needed ++ rest) = xml.run (.within f' below) rest) ∧
        (∀ rest, xml.run (.within g below) (needed ++ rest) = xml.run (.within g' below) rest) ∧
          ∀ opened rest, openTags opened (needed ++ rest) = openTags opened rest := by
  by_cases ready : f.Ready
  · exact ⟨[], f, g, unlike, ready, rfl, fun _ => rfl, fun _ => rfl, fun _ _ => rfl⟩
  have unready : ¬ g.Ready := fun other => ready (unlike.ready.mpr other)
  obtain ⟨shape, differ, _⟩ := unlike
  cases f with
  | courseStructure cs =>
    cases g with
    | courseStructure cs' =>
      have passes : ∀ cs : StructureSoFar xml.Score, xml.pass (.courseStructure cs) (idTag "course") =
          .ok (.courseStructure { cs with course := some ⟨"id", [], []⟩ }) := by
        intro cs
        rw [pass, idTag, if_pos rfl]
        exact congrArg (· >>= _) (required_idTag plain "course")
      have missing : cs.course = none := not_not.mp ready
      have missing' : cs'.course = none := not_not.mp unready
      refine ⟨[.ok (.empty (idTag "course"))], .courseStructure { cs with course := some ⟨"id", [], []⟩ },
        .courseStructure { cs' with course := some ⟨"id", [], []⟩ },
          ⟨rfl, fun same => differ ?_, by simp [Frame.Ready]⟩,
        by simp [Frame.Ready], rfl, fun rest => run_empty (passes cs), fun rest => run_empty (passes cs'),
        fun opened rest => by simp only [List.singleton_append, openTags]⟩
      obtain ⟨course, objectives, nodes⟩ := cs
      obtain ⟨course', objectives', nodes'⟩ := cs'
      simp only [Frame.courseStructure.injEq, StructureSoFar.mk.injEq, true_and] at same missing missing' ⊢
      exact ⟨missing.trans missing'.symm, same⟩
    | _ => cases shape
  | au u =>
    cases g with
    | au v =>
      have missing : u.url = none := not_not.mp ready
      have missing' : v.url = none := not_not.mp unready
      refine ⟨[.ok (.empty ⟨"url", []⟩)], .au { u with url := some "" }, .au { v with url := some "" },
        ⟨rfl, fun same => differ ?_, by simp [Frame.Ready]⟩, by simp [Frame.Ready], rfl, fun rest => run_empty rfl,
        fun rest => run_empty rfl, fun opened rest => by simp only [List.singleton_append, openTags]⟩
      obtain ⟨_, _, _, _, _, _, _, url, _, _⟩ := u
      obtain ⟨_, _, _, _, _, _, _, url', _, _⟩ := v
      simp only [Frame.au.injEq, UnitSoFar.mk.injEq, true_and] at same missing missing' ⊢
      simp only [same, missing, missing', true_and]
    | _ => cases shape
  | _ => exact absurd trivial ready

theorem run_last {cs : StructureSoFar xml.Score} {course : Course} (here : cs.course = some course) (rest : Events) :
    xml.run (.within (.courseStructure cs) []) (.ok (.end_ "courseStructure") :: rest) =
      .ok ⟨course, cs.objectives, cs.nodes⟩ := by
  have returns : xml.step (.courseStructure cs) [] (.end_ "courseStructure") =
      .ok (.complete ⟨course, cs.objectives, cs.nodes⟩) := by
    show (cs.complete >>= _) = _
    rw [StructureSoFar.complete, here]
    rfl
  rw [run, returns]
  exact run_complete _ rest

/-- The outermost call returns a structure as it was gathered. -/
theorem outermost_distinguished {f g : Frame xml.Score} (unlike : f.Unlike g) (ready : f.Ready)
    (outermost : f.shape = .courseStructure) :
    ∃ r s, (∀ rest, xml.run (.within f []) (.ok (.end_ "courseStructure") :: rest) = .ok r) ∧
      (∀ rest, xml.run (.within g []) (.ok (.end_ "courseStructure") :: rest) = .ok s) ∧ r ≠ s := by
  obtain ⟨shape, differ, bothReady⟩ := unlike
  cases f with
  | courseStructure cs =>
    cases g with
    | courseStructure cs' =>
      obtain ⟨course, here⟩ := Option.ne_none_iff_exists'.mp ready
      obtain ⟨course', here'⟩ := Option.ne_none_iff_exists'.mp (bothReady.mp ready)
      refine ⟨_, _, run_last here, run_last here', fun same => differ ?_⟩
      obtain ⟨_, _, _⟩ := cs
      obtain ⟨_, _, _⟩ := cs'
      simp only [CourseStructure.mk.injEq] at here here' same
      obtain ⟨courses, objectives, nodes⟩ := same
      rw [here, here', courses, objectives, nodes]
    | _ => cases shape
  | _ => cases outermost

/-- End tags for all that is open. -/
def closing (opened : List String) : Events := opened.map fun name => .ok (.end_ name)

theorem openTags_end (name : String) (opened : List String) (rest : Events) :
    openTags (name :: opened) (.ok (.end_ name) :: rest) = openTags opened rest := by
  rw [openTags, if_pos rfl]

theorem openTags_closing (opened : List String) : openTags opened (closing opened) = some [] := by
  induction opened with
  | nil => rfl
  | cons name opened ih => exact (openTags_end name opened _).trans ih

/-- Whatever the calls below, two unlike calls can be brought to structures that differ, by the
same end of a document. -/
theorem unlike_distinguished (plain : xml.normalizedValue "id" = .ok "id") {f g : Frame xml.Score}
    (unlike : f.Unlike g)
    (below : List (Frame xml.Score)) {opened : List String} (sound : (Config.within f below).Sound opened) :
    ∃ post r s, openTags opened post = some [] ∧ xml.run (.within f below) post = .ok r ∧
      xml.run (.within g below) post = .ok s ∧
      r ≠ s := by
  induction opened generalizing f g below with
  | nil =>
    have none : (f.shape.tags ++ _).Sublist [] := sound.2
    rw [tags_of_not_skip unlike.not_skip] at none
    cases none
  | cons name opened ih =>
    obtain ⟨stacked, sublist⟩ := sound
    have sublist : (f.shape.tags ++ (below.map Frame.shape).flatMap Shape.tags).Sublist (name :: opened) := sublist
    rw [tags_of_not_skip unlike.not_skip] at sublist
    rcases unlike.afterEnd name with ⟨stays, stays', other⟩ | ⟨ends, ends', here⟩
    · have later : (f.shape.tags ++ (below.map Frame.shape).flatMap Shape.tags).Sublist opened := by
        rw [tags_of_not_skip unlike.not_skip]
        exact List.Sublist.of_cons_of_ne (Ne.symm other) sublist
      obtain ⟨post, r, s, closes, first, second, differ⟩ := ih unlike below ⟨stacked, later⟩
      refine ⟨.ok (.end_ name) :: post, r, s, ?_, ?_, ?_, differ⟩
      · rw [openTags_end, closes]
      · rw [run_stay_end stays, first]
      · rw [run_stay_end stays', second]
    · rw [← here] at sublist
      have later : List.Sublist ((below.map Frame.shape).flatMap Shape.tags) opened :=
        List.cons_sublist_cons.mp sublist
      obtain ⟨needed, f', g', unlike', ready, shape, reads, reads', balanced⟩ := made_ready plain unlike below
      have same : f'.endTag = f.endTag := by
        have tags := tags_of_not_skip unlike'.not_skip
        rw [shape, tags_of_not_skip unlike.not_skip] at tags
        exact (List.singleton_inj.mp tags).symm
      rcases unlike'.afterEnd name with ⟨_, _, other⟩ | ⟨ends, ends', _⟩
      · exact absurd (here.trans same.symm) other
      cases below with
      | nil =>
        obtain ⟨r, s, first, second, differ⟩ := outermost_distinguished unlike' ready (shape.trans stacked)
        have last : name = "courseStructure" := by
          have tags := tags_of_not_skip unlike.not_skip
          rw [show f.shape = .courseStructure from stacked, ← here] at tags
          exact (List.singleton_inj.mp tags).symm
        refine ⟨needed ++ .ok (.end_ name) :: closing opened, r, s, ?_, ?_, ?_, differ⟩
        · rw [balanced, openTags_end, openTags_closing]
        · rw [reads, last, first]
        · rw [reads', last, second]
      | cons caller below =>
        have calls : caller.shape.Calls f'.shape := by
          rw [shape]
          exact stacked.1
        obtain ⟨c, c', receives, receives', unlikeCallers⟩ := unlike'.receive calls ready
        have callerShape : c.shape = caller.shape := receive_shape caller f' c receives
        have callersSound : (Config.within c below).Sound opened := by
          show Stacked (c.shape :: _) ∧ (c.shape.tags ++ _).Sublist _
          rw [callerShape]
          exact ⟨stacked.2, later⟩
        obtain ⟨post, r, s, closes, first, second, differ⟩ := ih unlikeCallers below callersSound
        refine ⟨needed ++ .ok (.end_ name) :: post, r, s, ?_, ?_, ?_, differ⟩
        · rw [balanced, openTags_end, closes]
        · rw [reads, run_return ends receives, first]
        · rw [reads', run_return ends' receives', second]

section Alike

variable {top next child : Frame xml.Score} {below : List (Frame xml.Score)} {tag : Tag} {post : Events}

theorem run_pair_call (enters : xml.enter top tag = .ok (.call child)) (ends : child.afterEnd tag.localName = none)
    (receives : top.receive child = .ok next) (post : Events) :
    xml.run (.within top below) (pair tag post) = xml.run (.within next below) post :=
  (run_start enters).trans (run_return ends receives)

theorem run_pair_stay (enters : xml.enter top tag = .ok (.stay child))
    (stays : child.afterEnd tag.localName = some next) (post : Events) :
    xml.run (.within top below) (pair tag post) = xml.run (.within next below) post :=
  (run_stay enters).trans (run_stay_end stays)

theorem run_pair_return {caller : Frame xml.Score} (enters : xml.enter top tag = .ok (.stay child))
    (ends : child.afterEnd tag.localName = none) (receives : caller.receive child = .ok next) (post : Events) :
    xml.run (.within top (caller :: below)) (pair tag post) = xml.run (.within next below) post :=
  (run_stay enters).trans (run_return ends receives)

theorem run_pair_skip (enters : xml.enter top tag = xml.skipTag tag)
    (receives : top.receive (.skip tag.localName 1) = .ok top)
    (post : Events) : xml.run (.within top below) (pair tag post) = xml.run (.within top below) post :=
  run_pair_call enters (if_pos rfl) receives post

theorem run_pair_error {error : ManifestError} (enters : xml.enter top tag = .error error) (post : Events) :
    xml.run (.within top below) (pair tag post) = .error error := by
  rw [pair, run, step, enters]
  rfl

theorem run_selfClosing_error {error : ManifestError} (passes : xml.pass top tag = .error error) (post : Events) :
    xml.run (.within top below) (selfClosing tag post) = .error error := by
  rw [selfClosing, run, step, passes]
  rfl

variable (xml top below tag) in
/-- A document with the one spelling comes to the same as one with the other, or to an error as well. -/
def Alike (post : Events) : Prop :=
  (xml.run (.within top below) (pair tag post)).toOption =
    (xml.run (.within top below) (selfClosing tag post)).toOption

theorem alike_of_next (pairs : ∀ post,
    xml.run (.within top below) (pair tag post) = xml.run (.within next below) post)
    (passes : xml.pass top tag = .ok next) : xml.Alike top below tag post := by
  have closes : xml.run (.within top below) (selfClosing tag post) = xml.run (.within next below) post :=
    run_empty passes
  rw [Alike, pairs, closes]

theorem alike_skip (enters : xml.enter top tag = xml.skipTag tag)
    (receives : top.receive (.skip tag.localName 1) = .ok top)
    (passes : xml.pass top tag = .ok top) : xml.Alike top below tag post :=
  alike_of_next (run_pair_skip enters receives) passes

theorem alike_gate {α : Type} {gate : Except ManifestError α} {call : α → Except ManifestError (Entered xml.Score)}
    {keep : α → Except ManifestError (Frame xml.Score)} (enters : xml.enter top tag = gate >>= call)
    (passes : xml.pass top tag = gate >>= keep)
    (rest : ∀ a, gate = .ok a → xml.enter top tag = call a → xml.pass top tag = keep a →
      xml.Alike top below tag post) :
    xml.Alike top below tag post := by
  rcases here : gate with error | a
  · rw [here] at enters passes
    rw [Alike, run_pair_error enters, run_selfClosing_error passes]
  · rw [here] at enters passes
    exact rest a here enters passes

theorem auTag_url (tag : Tag) : Ensures (xml.auTag tag) fun au => au.url = none := by
  unfold auTag
  refine ensures_bind fun id _ => ensures_bind fun moveOn _ => ?_
  -- whichever attributes there are, the last step makes a unit without a url
  cases moveOn <;> refine ensures_bind fun moveOn _ => ensures_bind fun score _ => ?_
  all_goals cases score <;> repeat refine ensures_bind fun _ _ => ?_
  all_goals split <;> repeat refine ensures_bind fun _ _ => ?_
  all_goals exact ensures_ok rfl

/-- A unit without content has no url, however it is spelled. -/
theorem alike_au (named : tag.localName = "au") (enters : xml.enter top tag = do
      let au ← xml.auTag tag
      .ok (.call (.au au)))
    (passes : xml.pass top tag = do
      let _ ← xml.auTag tag
      throw (.missingElement "url"))
    {received : AssignableUnit xml.Score → Frame xml.Score}
    (receives : ∀ au, top.receive (.au au) = au.complete >>= fun unit => .ok (received unit)) :
      xml.Alike top below tag post := by
  refine alike_gate enters passes fun au here enters passes => ?_
  have noUrl : au.complete = .error (.missingElement "url") := by
    rw [UnitSoFar.complete, auTag_url tag au here]
  have fails : xml.run (.within top below) (pair tag post) = .error (.missingElement "url") := by
    have returns : xml.step (.au au) (top :: below) (.end_ tag.localName) = .error (.missingElement "url") := by
      rw [step, named]
      show (top.receive (.au au) >>= _) = _
      rw [receives, noUrl]
      rfl
    rw [pair, run_start enters, run, returns]
  rw [Alike, fails, run_selfClosing_error passes]

/-- A title or a description that is not there yet is as empty as one without content. -/
theorem alike_strings {otherwise : Except ManifestError (Entered xml.Score)}
    (enters : xml.enter top tag = xml.enterStrings tag otherwise)
    (passes : tag.localName = "title" ∨ tag.localName = "description" → xml.pass top tag = .ok top)
    (titled : tag.localName = "title" → top.receive (.langstrings "title" []) = .ok top)
    (described : tag.localName = "description" → top.receive (.langstrings "description" []) = .ok top)
    (other : tag.localName ≠ "title" → tag.localName ≠ "description" → xml.enter top tag = otherwise →
      xml.Alike top below tag post) :
    xml.Alike top below tag post := by
  unfold enterStrings at enters
  by_cases title : tag.localName = "title"
  · rw [if_pos title] at enters
    exact alike_of_next (run_pair_call enters (if_pos title) (titled title)) (passes (.inl title))
  by_cases description : tag.localName = "description"
  · rw [if_neg title, if_pos description] at enters
    exact alike_of_next (run_pair_call enters (if_pos description) (described description))
      (passes (.inr description))
  · rw [if_neg title, if_neg description] at enters
    exact other title description enters

theorem alike_structure {cs : StructureSoFar xml.Score} (same : ¬ (Frame.courseStructure cs).Differs tag.localName) :
    xml.Alike (.courseStructure cs) below tag post := by
  by_cases course : tag.localName = "course"
  · refine alike_gate (by rw [enter, if_pos course]) (by rw [pass, if_pos course]) fun id _ enters passes => ?_
    exact alike_of_next (run_pair_call enters (if_pos course) rfl) passes
  by_cases objectives : tag.localName = "objectives"
  · have none : cs.objectives = [] := not_not.mp fun some => same ⟨objectives, some⟩
    have enters : xml.enter (.courseStructure cs) tag = .ok (.call (.objectives [])) := by
      rw [enter, if_neg course, if_pos objectives]
    have passes : xml.pass (.courseStructure cs) tag = .ok (.courseStructure cs) := by
      simp only [pass, objectives, String.reduceEq, if_false]
    have receives : (Frame.courseStructure cs).receive (.objectives []) = .ok (.courseStructure cs) := by
      rw [Frame.receive, ← none]
    exact alike_of_next (run_pair_call enters (if_pos objectives) receives) passes
  by_cases block : tag.localName = "block"
  · refine alike_gate (by rw [enter, if_neg course, if_neg objectives, if_pos block])
      (by rw [pass, if_neg course, if_pos block])
      fun id _ enters passes => ?_
    exact alike_of_next (run_pair_call enters (if_pos block) rfl) passes
  by_cases au : tag.localName = "au"
  · exact alike_au au (by rw [enter, if_neg course, if_neg objectives, if_neg block, if_pos au])
      (by rw [pass, if_neg course, if_neg block, if_pos au]) fun _ => rfl
  · refine alike_skip ?_ rfl ?_
    · rw [enter, if_neg course, if_neg objectives, if_neg block, if_neg au]
    · rw [pass, if_neg course, if_neg block, if_neg au]

theorem alike_block {b : Block xml.Score} (same : ¬ (Frame.block b).Differs tag.localName) :
    xml.Alike (.block b) below tag post := by
  obtain ⟨id, titles, descriptions, objectiveIds, children⟩ := b
  refine alike_strings rfl (fun strings => ?_) (fun title => ?_) (fun description => ?_)
    fun title description enters => ?_
  · rcases strings with named | named <;> simp only [pass, named, String.reduceEq, if_false]
  · have none : titles = [] := not_not.mp fun some => same (.inl ⟨title, some⟩)
    rw [Frame.receive, if_pos rfl, ← none]
  · have none : descriptions = [] := not_not.mp fun some => same (.inr (.inl ⟨description, some⟩))
    rw [Frame.receive, if_neg (by decide), ← none]
  by_cases objectives : tag.localName = "objectives"
  · have none : objectiveIds = [] := not_not.mp fun some => same (.inr (.inr ⟨objectives, some⟩))
    have passes : xml.pass (.block ⟨id, titles, descriptions, objectiveIds, children⟩) tag =
        .ok (.block ⟨id, titles, descriptions, objectiveIds, children⟩) := by
      simp only [pass, objectives, String.reduceEq, if_false]
    have receives : (Frame.block ⟨id, titles, descriptions, objectiveIds, children⟩).receive
        (.objectiveRefs []) = .ok (.block ⟨id, titles, descriptions, objectiveIds, children⟩) := by
      rw [Frame.receive, ← none]
    rw [if_pos objectives] at enters
    exact alike_of_next (run_pair_call enters (if_pos objectives) receives) passes
  by_cases inner : tag.localName = "block"
  · rw [if_neg objectives, if_pos inner] at enters
    refine alike_gate enters (by rw [pass, if_pos inner]) fun id _ enters passes => ?_
    exact alike_of_next (run_pair_call enters (if_pos inner) rfl) passes
  by_cases au : tag.localName = "au"
  · rw [if_neg objectives, if_neg inner, if_pos au] at enters
    exact alike_au au enters (by rw [pass, if_neg inner, if_pos au]) fun _ => rfl
  · rw [if_neg objectives, if_neg inner, if_neg au] at enters
    exact alike_skip enters rfl (by rw [pass, if_neg inner, if_neg au])

theorem alike_unit {u : UnitSoFar xml.Score} (same : ¬ (Frame.au u).Differs tag.localName) :
    xml.Alike (.au u) below tag post := by
  refine alike_strings rfl (fun strings => ?_) (fun title => ?_) (fun description => ?_)
    fun title description enters => ?_
  · rcases strings with named | named <;> simp only [pass, named, String.reduceEq, if_false]
  · have none : u.title = [] := not_not.mp fun some => same (.inl ⟨title, some⟩)
    rw [Frame.receive, if_pos rfl, ← none]
  · have none : u.description = [] := not_not.mp fun some => same (.inr (.inl ⟨description, some⟩))
    rw [Frame.receive, if_neg (by decide), ← none]
  by_cases objectives : tag.localName = "objectives"
  · have none : u.objectiveIds = [] := not_not.mp fun some => same (.inr (.inr ⟨objectives, some⟩))
    have passes : xml.pass (.au u) tag = .ok (.au u) := by
      simp only [pass, objectives, String.reduceEq, if_false]
    have receives : (Frame.au u).receive (.objectiveRefs []) = .ok (.au u) := by
      rw [Frame.receive, ← none]
    rw [if_pos objectives] at enters
    exact alike_of_next (run_pair_call enters (if_pos objectives) receives) passes
  by_cases url : tag.localName = "url"
  · rw [if_neg objectives, if_pos url] at enters
    exact alike_of_next (run_pair_call enters (if_pos url) rfl) (by rw [pass, if_pos url]; rfl)
  by_cases parameters : tag.localName = "launchParameters"
  · rw [if_neg objectives, if_neg url, if_pos parameters] at enters
    exact alike_of_next (run_pair_call enters (if_pos parameters) rfl)
      (by rw [pass, if_neg url, if_pos parameters]; rfl)
  by_cases key : tag.localName = "entitlementKey"
  · rw [if_neg objectives, if_neg url, if_neg parameters, if_pos key] at enters
    exact alike_of_next (run_pair_call enters (if_pos key) rfl)
      (by rw [pass, if_neg url, if_neg parameters, if_pos key]; rfl)
  · rw [if_neg objectives, if_neg url, if_neg parameters, if_neg key] at enters
    exact alike_skip enters rfl (by rw [pass, if_neg url, if_neg parameters, if_neg key])

/-- Where the spellings do not differ, nothing that follows tells them apart. -/
theorem alike_within (stacked : Stacked ((top :: below).map Frame.shape)) (same : ¬ top.Differs tag.localName) :
    xml.Alike top below tag post := by
  cases top with
  | courseStructure cs => exact alike_structure same
  | course c =>
    refine alike_strings rfl (fun _ => rfl) (fun title => ?_) (fun description => ?_) fun _ _ enters =>
      alike_skip enters rfl rfl
    · have none : c.title = [] := not_not.mp fun some => same (.inl ⟨title, some⟩)
      rw [Frame.receive, if_pos rfl, ← none]
    · have none : c.description = [] := not_not.mp fun some => same (.inr ⟨description, some⟩)
      rw [Frame.receive, if_neg (by decide), ← none]
  | objectives os =>
    have enters : xml.enter (.objectives os) tag = .ok (.stay (.objectives os)) := by
      rw [enter, if_neg fun objective => same (.inl objective)]
    exact alike_of_next (run_pair_stay enters (afterEnd_other fun objectives => same (.inr objectives))) rfl
  | objective o =>
    refine alike_strings rfl (fun _ => rfl) (fun title => ?_) (fun description => ?_) fun _ _ enters =>
      alike_skip enters rfl rfl
    · have none : o.title = [] := not_not.mp fun some => same (.inl ⟨title, some⟩)
      rw [Frame.receive, if_pos rfl, ← none]
    · have none : o.description = [] := not_not.mp fun some => same (.inr ⟨description, some⟩)
      rw [Frame.receive, if_neg (by decide), ← none]
  | block b => exact alike_block same
  | au u => exact alike_unit same
  | langstrings endTag out =>
    by_cases named : tag.localName = "langstring"
    · refine alike_gate (by rw [enter, if_pos named]) (by rw [pass, if_pos named]) fun lang _ enters passes => ?_
      exact alike_of_next (run_pair_call enters (if_pos named) rfl) passes
    · have enters : xml.enter (.langstrings endTag out) tag = .ok (.stay (.langstrings endTag out)) := by
        rw [enter, if_neg named]
      exact alike_of_next (run_pair_stay enters (afterEnd_other same)) (by rw [pass, if_neg named])
  | objectiveRefs refs =>
    by_cases named : tag.localName = "objective"
    · refine alike_gate (by rw [enter, if_pos named]) (by rw [pass, if_pos named]) fun refs _ enters passes => ?_
      exact alike_of_next (run_pair_stay enters (afterEnd_other same)) passes
    · have enters : xml.enter (.objectiveRefs refs) tag = .ok (.stay (.objectiveRefs refs)) := by
        rw [enter, if_neg named]
      exact alike_of_next (run_pair_stay enters (afterEnd_other same)) (by rw [pass, if_neg named])
  | text endTag lang text => exact alike_of_next (run_pair_stay rfl (afterEnd_other same)) rfl
  | skip name depth =>
    have positive : 0 < depth := Stacked.depth_pos stacked
    by_cases named : tag.localName = name
    · have enters : xml.enter (.skip name depth) tag = .ok (.stay (.skip name (depth + 1))) := by
        rw [enter, if_pos named]
      have stays : (Frame.skip name (depth + 1) : Frame xml.Score).afterEnd tag.localName =
          some (.skip name depth) := by
        rw [Frame.afterEnd, Frame.endTag, if_pos named]
        exact if_neg (by omega)
      exact alike_of_next (run_pair_stay enters stays) rfl
    · have enters : xml.enter (.skip name depth) tag = .ok (.stay (.skip name depth)) := by
        rw [enter, if_neg named]
      exact alike_of_next (run_pair_stay enters (afterEnd_other named)) rfl

section TellApart

variable {opened : List String}

theorem sound_of_shape {f : Frame xml.Score} (shape : f.shape = top.shape)
    (sound : (Config.within top below).Sound opened) :
    (Config.within f below).Sound opened := by
  show Stacked (f.shape :: _) ∧ (f.shape.tags ++ _).Sublist _
  rw [shape]
  exact sound

theorem not_alike_of_unlike (plain : xml.normalizedValue "id" = .ok "id") {f g : Frame xml.Score}
    (unlike : f.Unlike g)
    (pairs : ∀ post, xml.run (.within top below) (pair tag post) = xml.run (.within f below) post)
    (passes : xml.pass top tag = .ok g)
    (sound : (Config.within f below).Sound opened) : ∃ post, openTags opened post = some [] ∧
      ¬ xml.Alike top below tag post := by
  obtain ⟨post, r, s, closes, first, second, differ⟩ := unlike_distinguished plain unlike below sound
  refine ⟨post, closes, fun alike => differ ?_⟩
  have closed : xml.run (.within top below) (selfClosing tag post) = .ok s := (run_empty passes).trans second
  rw [Alike, pairs, first, closed] at alike
  exact Option.some.inj alike

/-- One spelling ends the call too early, and it misses something that comes later. -/
theorem not_alike_of_missed (plain : xml.normalizedValue "id" = .ok "id") {g : Frame xml.Score}
    (unlike : top.Unlike g)
    {missing : Config xml.Score} (more : Events)
    (pairs : ∀ post, xml.run (.within top below) (pair tag post) = xml.run missing post)
    (passes : xml.pass top tag = .ok top)
    (misses : ∀ post, xml.run missing (more ++ post) = xml.run missing post)
    (gathers : ∀ post, xml.run (.within top below) (more ++ post) = xml.run (.within g below) post)
    (balanced : ∀ post, openTags opened (more ++ post) = openTags opened post)
    (sound : (Config.within top below).Sound opened) :
    ∃ post, openTags opened post = some [] ∧ ¬ xml.Alike top below tag post := by
  obtain ⟨post, r, s, closes, first, second, differ⟩ := unlike_distinguished plain unlike below sound
  by_contra alike
  have all : ∀ post, openTags opened post = some [] → xml.Alike top below tag post := by
    intro post closes
    by_contra other
    exact alike ⟨post, closes, other⟩
  have without := all post closes
  have with_ := all (more ++ post) ((balanced post).trans closes)
  have closed : ∀ post, xml.run (.within top below) (selfClosing tag post) =
    xml.run (.within top below) post := fun post => run_empty passes
  rw [Alike, pairs, closed, first] at without
  rw [Alike, pairs, misses, closed, gathers, second, without] at with_
  exact differ (Option.some.inj with_)

theorem caller_of_stacked (stacked : Stacked ((top :: below).map Frame.shape))
    (inner : top.shape ≠ .courseStructure) :
    ∃ caller callers, below = caller :: callers ∧ caller.shape.Calls top.shape := by
  cases below with
  | nil => exact absurd stacked inner
  | cons caller callers => exact ⟨caller, callers, rfl, stacked.1⟩

section
variable (plain : xml.normalizedValue "id" = .ok "id")
include plain

theorem tell_objectives {os : List Objective}
    (sound : (Config.within (.objectives os : Frame xml.Score) below).Sound opened)
    (differs : tag.localName = "objective" ∨ tag.localName = "objectives") :
    ∃ post, openTags opened post = some [] ∧ ¬ xml.Alike (.objectives os) below tag post := by
  have more : ∀ o : Objective, (Frame.objectives os : Frame xml.Score).Unlike (.objectives (os ++ [o])) :=
    fun o => ⟨rfl, by simp, Iff.rfl⟩
  rcases differs with objective | objectives
  · have enters : xml.enter (.objectives os) tag = xml.required tag "objective" "id" >>= fun id =>
        .ok (.call (.objective ⟨id, [], []⟩)) := by
      rw [enter, if_pos objective]
    rcases here : xml.required tag "objective" "id" with error | id <;> rw [here] at enters
    · obtain ⟨post, r, _, closes, first, _, _⟩ := unlike_distinguished plain (more ⟨"", [], []⟩) below sound
      have closed : xml.run (.within (.objectives os) below) (selfClosing tag post) = .ok r :=
        (run_empty rfl).trans first
      refine ⟨post, closes, fun alike => ?_⟩
      rw [Alike, run_pair_error enters, closed] at alike
      cases alike
    · have unlike : (Frame.objectives (os ++ [⟨id, [], []⟩]) : Frame xml.Score).Unlike (.objectives os) :=
        ⟨rfl, by simp, Iff.rfl⟩
      exact not_alike_of_unlike plain unlike (run_pair_call enters (if_pos objective) rfl) rfl
        (sound_of_shape rfl sound)
  · have inner : (Frame.objectives os : Frame xml.Score).shape ≠ .courseStructure := by
      intro same
      cases same
    obtain ⟨caller, callers, rfl, calls⟩ := caller_of_stacked sound.1 inner
    obtain ⟨next, receives, skips⟩ : ∃ next, caller.receive (.objectives os) = .ok next ∧
        ∀ post, xml.run (.within next callers) (pair (idTag "objective") post) =
          xml.run (.within next callers) post := by
      have callerShape := calls.of_objectives
      cases caller <;> cases callerShape
      exact ⟨_, rfl, fun post => run_pair_skip rfl rfl post⟩
    have enters : xml.enter (.objectives os) tag = .ok (.stay (.objectives os)) := by
      rw [enter, if_neg (by rw [objectives]; decide)]
    -- an objective that is skipped there and gathered here
    have named : xml.enter (.objectives os) (idTag "objective") = .ok (.call (.objective ⟨"id", [], []⟩)) := by
      rw [enter, idTag, if_pos rfl]
      exact congrArg (· >>= _) (required_idTag plain "objective")
    exact not_alike_of_missed plain (more ⟨"id", [], []⟩) (pair (idTag "objective") [])
      (run_pair_return enters (if_pos objectives) receives) rfl skips
        (fun post => run_pair_call named (if_pos rfl) rfl post)
      (fun post => openTags_end _ _ _) sound

theorem tell_langstrings {endTag : String} {out : List LangString}
    (sound : (Config.within (.langstrings endTag out : Frame xml.Score) below).Sound opened)
    (differs : tag.localName = endTag) :
    ∃ post, openTags opened post = some [] ∧ ¬ xml.Alike (.langstrings endTag out) below tag post := by
  obtain ⟨caller, callers, rfl, calls⟩ := caller_of_stacked sound.1 (by nofun)
  obtain ⟨titled, named⟩ := calls.of_langstrings
  have other : tag.localName ≠ "langstring" := by
    rcases named with named | named <;> rw [differs, named] <;> decide
  have enters : xml.enter (.langstrings endTag out) tag = .ok (.stay (.langstrings endTag out)) := by
    rw [enter, if_neg other]
  have passes : xml.pass (.langstrings endTag out) tag = .ok (.langstrings endTag out) := by
    rw [pass, if_neg other]
  obtain ⟨next, receives, skips⟩ : ∃ next, caller.receive (.langstrings endTag out) = .ok next ∧
      ∀ post, xml.run (.within next callers) (pair ⟨"langstring", []⟩ post) =
        xml.run (.within next callers) post := by
    rcases titled with shape | shape | shape | shape <;> cases caller <;> cases shape <;>
      exact ⟨_, rfl, fun post => run_pair_skip rfl rfl post⟩
  have gathers : xml.enter (.langstrings endTag out) ⟨"langstring", []⟩ =
    .ok (.call (.text "langstring" "" "")) := rfl
  have more : (Frame.langstrings endTag out : Frame xml.Score).Unlike (.langstrings endTag (out ++ [⟨"", ""⟩])) :=
    ⟨rfl, by simp, Iff.rfl⟩
  exact not_alike_of_missed plain more (pair ⟨"langstring", []⟩ [])
    (run_pair_return enters (if_pos differs) receives) passes skips
    (fun post => run_pair_call gathers (if_pos rfl) rfl post) (fun post => openTags_end _ _ _) sound

theorem tell_objectiveRefs {refs : List String}
    (sound : (Config.within (.objectiveRefs refs : Frame xml.Score) below).Sound opened)
    (differs : tag.localName = "objectives") :
    ∃ post, openTags opened post = some [] ∧ ¬ xml.Alike (.objectiveRefs refs) below tag post := by
  obtain ⟨caller, callers, rfl, calls⟩ := caller_of_stacked sound.1 (by nofun)
  have other : tag.localName ≠ "objective" := by
    rw [differs]
    decide
  have enters : xml.enter (.objectiveRefs refs) tag = .ok (.stay (.objectiveRefs refs)) := by
    rw [enter, if_neg other]
  have passes : xml.pass (.objectiveRefs refs) tag = .ok (.objectiveRefs refs) := by
    rw [pass, if_neg other]
  obtain ⟨next, receives, ignores⟩ : ∃ next, caller.receive (.objectiveRefs refs) = .ok next ∧
      xml.pass next (idTag "objective") = .ok next := by
    rcases calls.of_objectiveRefs with shape | shape <;> cases caller <;> cases shape <;> exact ⟨_, rfl, rfl⟩
  have named : xml.pass (.objectiveRefs refs) (idTag "objective") = .ok (.objectiveRefs (refs ++ ["id"])) := by
    have id : xml.attr (idTag "objective") "id" = .ok (some "id") := by
      rw [attr, idTag, attr.go, if_pos rfl, plain]
    have gate : xml.pass (.objectiveRefs refs) (idTag "objective") =
        xml.objectiveRef (idTag "objective") refs >>= fun refs => .ok (.objectiveRefs refs) := rfl
    rw [gate, objectiveRef, id]
    rfl
  have more : (Frame.objectiveRefs refs : Frame xml.Score).Unlike (.objectiveRefs (refs ++ ["id"])) :=
    ⟨rfl, by simp, Iff.rfl⟩
  exact not_alike_of_missed plain more [.ok (.empty (idTag "objective"))]
    (run_pair_return enters (if_pos differs) receives) passes (fun post => run_empty ignores)
    (fun post => run_empty named) (fun post => by simp only [List.singleton_append, openTags]) sound

theorem tell_text {endTag lang text : String}
    (sound : (Config.within (.text endTag lang text : Frame xml.Score) below).Sound opened)
    (differs : tag.localName = endTag) :
    ∃ post, openTags opened post = some [] ∧ ¬ xml.Alike (.text endTag lang text) below tag post := by
  obtain ⟨caller, callers, rfl, calls⟩ := caller_of_stacked sound.1 (by nofun)
  obtain ⟨next, receives, ignores⟩ : ∃ next, caller.receive (.text endTag lang text) = .ok next ∧
      xml.between next (.text "x") = .ok next := by
    rcases calls.of_text with ⟨titled, shape⟩ | ⟨shape, _⟩ <;> cases caller <;> cases shape <;> exact ⟨_, rfl, rfl⟩
  have enters : xml.enter (.text endTag lang text) tag = .ok (.stay (.text endTag lang text)) := rfl
  have more : (Frame.text endTag lang text : Frame xml.Score).Unlike (.text endTag lang (text ++ "x")) := by
    refine ⟨rfl, fun same => ?_, Iff.rfl⟩
    injection same with _ _ same
    have lengths := congrArg String.length same
    rw [String.length_append] at lengths
    exact absurd lengths (Nat.ne_of_lt (Nat.lt_add_of_pos_right (by decide)))
  exact not_alike_of_missed plain more [.ok (.text "x")] (run_pair_return enters (if_pos differs) receives) rfl
    (fun post => run_between ignores) (fun post => rfl)
      (fun post => by simp only [List.singleton_append, openTags]) sound

theorem tell_emptied (child : Frame xml.Score) (enters : xml.enter top tag = .ok (.call child))
    (ends : child.afterEnd tag.localName = none) (receives : top.receive child = .ok next) (unlike : next.Unlike top)
    (passes : xml.pass top tag = .ok top) (sound : (Config.within top below).Sound opened) :
    ∃ post, openTags opened post = some [] ∧ ¬ xml.Alike top below tag post :=
  not_alike_of_unlike plain unlike (run_pair_call enters ends receives) passes (sound_of_shape unlike.shape sound)

/-- Where the spellings differ, some end of the document tells them apart. -/
theorem tell_apart (sound : (Config.within top below).Sound opened) (differs : top.Differs tag.localName) :
    ∃ post, openTags opened post = some [] ∧
      ¬ xml.Alike top below tag post := by
  cases top with
  | courseStructure cs =>
    obtain ⟨named, some⟩ := differs
    have unlike : (Frame.courseStructure { cs with objectives := [] } : Frame xml.Score).Unlike
        (.courseStructure cs) :=
      ⟨rfl, fun same => some (by rw [← Frame.courseStructure.inj same]), Iff.rfl⟩
    refine tell_emptied plain (.objectives []) ?_ (if_pos named) rfl unlike ?_ sound
    · simp only [enter, named, String.reduceEq, if_false, if_true]
    · simp only [pass, named, String.reduceEq, if_false]
  | course c =>
    rcases differs with ⟨named, some⟩ | ⟨named, some⟩
    · have unlike : (Frame.course { c with title := [] } : Frame xml.Score).Unlike (.course c) :=
        ⟨rfl, fun same => some (by rw [← Frame.course.inj same]), Iff.rfl⟩
      exact tell_emptied plain (.langstrings "title" []) (if_pos named) (if_pos named) rfl unlike rfl sound
    · have unlike : (Frame.course { c with description := [] } : Frame xml.Score).Unlike (.course c) :=
        ⟨rfl, fun same => some (by rw [← Frame.course.inj same]), Iff.rfl⟩
      refine tell_emptied plain (.langstrings "description" []) ?_ (if_pos named) rfl unlike rfl sound
      simp only [enter, enterStrings, named, String.reduceEq, if_true, if_false]
  | objectives os => exact tell_objectives plain sound differs
  | objective o =>
    rcases differs with ⟨named, some⟩ | ⟨named, some⟩
    · have unlike : (Frame.objective { o with title := [] } : Frame xml.Score).Unlike (.objective o) :=
        ⟨rfl, fun same => some (by rw [← Frame.objective.inj same]), Iff.rfl⟩
      exact tell_emptied plain (.langstrings "title" []) (if_pos named) (if_pos named) rfl unlike rfl sound
    · have unlike : (Frame.objective { o with description := [] } : Frame xml.Score).Unlike (.objective o) :=
        ⟨rfl, fun same => some (by rw [← Frame.objective.inj same]), Iff.rfl⟩
      refine tell_emptied plain (.langstrings "description" []) ?_ (if_pos named) rfl unlike rfl sound
      simp only [enter, enterStrings, named, String.reduceEq, if_true, if_false]
  | block b =>
    rcases differs with ⟨named, some⟩ | ⟨named, some⟩ | ⟨named, some⟩
    · have unlike : (Frame.block { b with title := [] } : Frame xml.Score).Unlike (.block b) :=
        ⟨rfl, fun same => some (by rw [← Frame.block.inj same]), Iff.rfl⟩
      refine tell_emptied plain (.langstrings "title" []) (if_pos named) (if_pos named) rfl unlike ?_ sound
      simp only [pass, named, String.reduceEq, if_false]
    · have unlike : (Frame.block { b with description := [] } : Frame xml.Score).Unlike (.block b) :=
        ⟨rfl, fun same => some (by rw [← Frame.block.inj same]), Iff.rfl⟩
      refine tell_emptied plain (.langstrings "description" []) ?_ (if_pos named) rfl unlike ?_ sound
      · simp only [enter, enterStrings, named, String.reduceEq, if_true, if_false]
      · simp only [pass, named, String.reduceEq, if_false]
    · have unlike : (Frame.block { b with objectiveIds := [] } : Frame xml.Score).Unlike (.block b) :=
        ⟨rfl, fun same => some (by rw [← Frame.block.inj same]), Iff.rfl⟩
      refine tell_emptied plain (.objectiveRefs []) ?_ (if_pos named) rfl unlike ?_ sound
      · simp only [enter, enterStrings, named, String.reduceEq, if_true, if_false]
      · simp only [pass, named, String.reduceEq, if_false]
  | au u =>
    rcases differs with ⟨named, some⟩ | ⟨named, some⟩ | ⟨named, some⟩
    · have unlike : (Frame.au { u with title := [] } : Frame xml.Score).Unlike (.au u) :=
        ⟨rfl, fun same => some (by rw [← Frame.au.inj same]), Iff.rfl⟩
      refine tell_emptied plain (.langstrings "title" []) (if_pos named) (if_pos named) rfl unlike ?_ sound
      simp only [pass, named, String.reduceEq, if_false]
    · have unlike : (Frame.au { u with description := [] } : Frame xml.Score).Unlike (.au u) :=
        ⟨rfl, fun same => some (by rw [← Frame.au.inj same]), Iff.rfl⟩
      refine tell_emptied plain (.langstrings "description" []) ?_ (if_pos named) rfl unlike ?_ sound
      · simp only [enter, enterStrings, named, String.reduceEq, if_true, if_false]
      · simp only [pass, named, String.reduceEq, if_false]
    · have unlike : (Frame.au { u with objectiveIds := [] } : Frame xml.Score).Unlike (.au u) :=
        ⟨rfl, fun same => some (by rw [← Frame.au.inj same]), Iff.rfl⟩
      refine tell_emptied plain (.objectiveRefs []) ?_ (if_pos named) rfl unlike ?_ sound
      · simp only [enter, enterStrings, named, String.reduceEq, if_true, if_false]
      · simp only [pass, named, String.reduceEq, if_false]
  | langstrings endTag out => exact tell_langstrings plain sound differs
  | objectiveRefs refs => exact tell_objectiveRefs plain sound differs
  | text endTag lang text => exact tell_text plain sound differs
  | skip name depth => exact differs.elim

end

end TellApart

end Alike

variable (xml) in
/-- Whether the two spellings come to the same in a document that goes on like this. -/
def SpelledAlike (pre : Events) (tag : Tag) (post : Events) : Prop :=
  (xml.parseEvents (pre ++ pair tag post)).toOption = (xml.parseEvents (pre ++ selfClosing tag post)).toOption

variable (xml) in
/-- Whether they differ where the parser stands after the first part of a document. -/
def DiffersAfter (pre : Events) (name : String) : Prop :=
  ∃ config, xml.reach .searching pre = .ok config ∧ config.Differs name

theorem spelledAlike_of_reach {pre post : Events} {tag : Tag} {config : Config xml.Score}
    (reach : xml.reach .searching pre = .ok config) :
    xml.SpelledAlike pre tag post ↔
      (xml.run config (pair tag post)).toOption = (xml.run config (selfClosing tag post)).toOption := by
  have runs : ∀ more, xml.parseEvents (pre ++ more) = xml.run config more := by
    intro more
    rw [parseEvents_eq_run, run_append, reach]
    rfl
  rw [SpelledAlike, runs, runs]

theorem spelledAlike_of_not_differs {pre : Events} {tag : Tag} {opened : List String}
    (nests : openTags [] pre = some opened)
    (same : ¬ xml.DiffersAfter pre tag.localName) (post : Events) : xml.SpelledAlike pre tag post := by
  rcases reach : xml.reach .searching pre with error | config
  · have fails : ∀ more, xml.parseEvents (pre ++ more) = .error error := by
      intro more
      rw [parseEvents_eq_run, run_append, reach]
      rfl
    rw [SpelledAlike, fails, fails]
  have here : ¬ config.Differs tag.localName := fun differs => same ⟨config, reach, differs⟩
  rw [spelledAlike_of_reach reach]
  cases config with
  | searching =>
    have other : tag.localName ≠ "courseStructure" := here
    have searches : xml.run .searching (pair tag post) = xml.run .searching post := by
      rw [pair, run, search, if_neg other]
      rfl
    rw [searches]
    rfl
  | within top below => exact alike_within (reach_sound .searching pre trivial nests _ reach).1 here
  | complete cs => rw [run_complete, run_complete]

/-- Before its structure, a document may have one that closes itself but not one without content. -/
theorem search_apart (plain : xml.normalizedValue "id" = .ok "id") (opened : List String) {tag : Tag}
    (named : tag.localName = "courseStructure") :
    ∃ post, openTags opened post = some [] ∧
      (xml.run .searching (pair tag post)).toOption ≠ (xml.run .searching (selfClosing tag post)).toOption := by
  have passes : xml.pass (.courseStructure ⟨none, [], []⟩) (idTag "course") =
      .ok (.courseStructure ⟨some ⟨"id", [], []⟩, [], []⟩) := by
    rw [pass, idTag, if_pos rfl]
    exact congrArg (· >>= _) (required_idTag plain "course")
  let post : Events := .ok (.start ⟨"courseStructure", []⟩) :: .ok (.empty (idTag "course")) ::
    .ok (.end_ "courseStructure") :: closing opened
  have read : xml.run .searching (selfClosing tag post) = .ok ⟨⟨"id", [], []⟩, [], []⟩ := by
    show xml.run (.within (.courseStructure ⟨none, [], []⟩) []) _ = _
    exact (run_empty passes).trans (run_last rfl _)
  have missing : xml.run .searching (pair tag post) = .error (.missingElement "course") := by
    rw [pair, run, search, if_pos named, named]
    rfl
  refine ⟨post, ?_, ?_⟩
  · show openTags opened (closing opened) = some []
    exact openTags_closing opened
  · rw [read, missing]
    intro same
    cases same

theorem not_spelledAlike_of_differs (plain : xml.normalizedValue "id" = .ok "id") {pre : Events} {tag : Tag}
    {opened : List String}
    (nests : openTags [] pre = some opened) (differs : xml.DiffersAfter pre tag.localName) :
    ∃ post, openTags opened post = some [] ∧ ¬ xml.SpelledAlike pre tag post := by
  obtain ⟨config, reach, here⟩ := differs
  simp only [spelledAlike_of_reach reach]
  cases config with
  | searching => exact search_apart plain opened here
  | within top below => exact tell_apart plain (reach_sound .searching pre trivial nests _ reach) here
  | complete cs => exact here.elim

end XmlReading

/-- Wherever an element without content stands in a document, both spellings come to the same whatever
follows if and only if the parser does not stand where they differ; and where they do, a document
that closes its tags tells them apart. -/
theorem empty_elements_alike_iff {Doc Float : Type} (xml : XmlReading Doc Float)
    (plain : xml.normalizedValue "id" = .ok "id")
    (pre : Events) (tag : Tag) (opened : List String) (nests : openTags [] pre = some opened) :
    ((∀ post, xml.SpelledAlike pre tag post) ↔ ¬ xml.DiffersAfter pre tag.localName) ∧
      ((∀ post, openTags opened post = some [] → xml.SpelledAlike pre tag post) ↔
        ¬ xml.DiffersAfter pre tag.localName) := by
  have apart : xml.DiffersAfter pre tag.localName → ∃ post, openTags opened post = some [] ∧
      ¬ xml.SpelledAlike pre tag post :=
    XmlReading.not_spelledAlike_of_differs plain nests
  refine ⟨⟨fun all differs => ?_, fun same => XmlReading.spelledAlike_of_not_differs nests same⟩,
    fun all differs => ?_, fun same post _ => XmlReading.spelledAlike_of_not_differs nests same post⟩
  · obtain ⟨post, _, other⟩ := apart differs
    exact other (all post)
  · obtain ⟨post, closes, other⟩ := apart differs
    exact other (all post closes)

/-- A block without content, the last of its course. -/
theorem empty_blocks_spelled_alike :
    eventXml.SpelledAlike [.ok (.start ⟨"courseStructure", []⟩)] (XmlReading.idTag "block")
      [.ok (.end_ "courseStructure")] := by
  refine (empty_elements_alike_iff eventXml.toXmlReading rfl _ _ ["courseStructure"] rfl).1.mpr ?_ _
  rintro ⟨config, reach, differs⟩
  cases reach
  exact absurd differs.1 (by decide)

/-- An objective without content is one of the course, and dropped if it closes itself. -/
theorem empty_objective_dropped :
    ¬ eventXml.SpelledAlike
      [.ok (.start ⟨"courseStructure", []⟩), .ok (.empty (XmlReading.idTag "course")),
        .ok (.start ⟨"objectives", []⟩)]
      (XmlReading.idTag "objective") [.ok (.end_ "objectives"), .ok (.end_ "courseStructure")] := by
  intro alike
  have counts := congrArg (Option.map fun cs => cs.objectives.length) alike
  revert counts
  decide +kernel

end CoopSpaces.Cmi5
