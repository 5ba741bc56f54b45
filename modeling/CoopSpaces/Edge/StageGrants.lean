import CoopSpaces.Edge.AllowRuns

namespace CoopSpaces

/-- When the key's allow began, a pass after its last refusal, and whether every tick since listed the key. -/
def beganStep (key : String) (began : Option (Int × Bool)) : TickNote → Option (Int × Bool)
  | .report _ _ _ => began
  | .tick tools => if key ∈ tools then began else began.map fun since => (since.1, false)
  | .pass p =>
    if p.wiring.toolId = key then
      if p.decision = .allow then some (began.getD (p.now, true)) else none
    else began

def allowBegan (log : List TickNote) (key : String) : Option (Int × Bool) := log.foldl (beganStep key) none

/-- The note neither refuses the key nor passes it over. -/
structure CarriesOn (key : String) (note : TickNote) : Prop where
  listed : ∀ tools, note = .tick tools → key ∈ tools
  allowed : ∀ p, note = .pass p → p.wiring.toolId = key → p.decision = .allow

/-- Of the device the note tells at most that it is on, in the allow. -/
def KeepsOn (start : Int) (deviceId : String) (note : TickNote) : Prop :=
  ∀ relayOn at_, note = .report deviceId relayOn at_ → relayOn = true ∧ start ≤ at_

/-- In the allow the device reported on at `first`, and has reported on ever since. -/
def OnSince (log : List TickNote) (start : Int) (deviceId : String) (first : Int) : Prop :=
  start ≤ first ∧ Since (fun _ note => note = .report deviceId true first) (KeepsOn start deviceId) log

def stagesBefore (wiring : ToolModuleTool) (b : DeviceBinding) : List DeviceBinding :=
  (powerBindings wiring).filter fun earlier => decide (earlier.startStage < b.startStage)

def DeviceBinding.startDelay (b : DeviceBinding) : Int := milliseconds (max b.startDelayMs 0)

/-- The binding's delay has passed since the allow began, and since each binding of an earlier stage first
reported on. -/
structure DueByFirst (log : List TickNote) (start now : Int) (wiring : ToolModuleTool) (b : DeviceBinding) :
    Prop where
  begun : start + b.startDelay ≤ now
  confirmed : ∀ earlier ∈ stagesBefore wiring b, ∃ first, OnSince log start earlier.deviceId first ∧
    first + b.startDelay ≤ now

def Pass.Grants (p : Pass) (b : DeviceBinding) : Prop := ∃ entry ∈ p.power, entry.1 = b ∧ entry.2.grant = true

instance (p : Pass) (b : DeviceBinding) : Decidable (p.Grants b) :=
  inferInstanceAs (Decidable (∃ entry ∈ p.power, entry.1 = b ∧ entry.2.grant = true))

/-- An earlier tick of the allow granted the binding, and its earlier stages have reported on ever since. -/
def GrantedBefore (log : List TickNote) (key : String) (start now : Int) (wiring : ToolModuleTool)
    (b : DeviceBinding) : Prop :=
  Since (fun _ note => ∃ q, note = .pass q ∧ q.wiring.toolId = key ∧ q.decision = .allow ∧ q.now ≤ now ∧ q.Grants b ∧
      ∀ earlier ∈ stagesBefore wiring b, earlier ∈ stagesBefore q.wiring b)
    (fun note => CarriesOn key note ∧ ∀ earlier ∈ stagesBefore wiring b, KeepsOn start earlier.deviceId note) log

namespace Turn
variable (turn : Turn)

/-- The allow the turn is in, or begins, began at `start` and is contiguous. -/
def InAllow (start : Int) : Prop := (allowBegan turn.log turn.tool).getD (turn.now, true) = (start, true)

instance (start : Int) : Decidable (turn.InAllow start) :=
  inferInstanceAs (Decidable ((allowBegan turn.log turn.tool).getD (turn.now, true) = (start, true)))

/-- A granted stage stays granted: in a contiguous allow a pass grants what an earlier pass granted, and what is
due by the first reports of the stages before it. -/
structure StagesHold : Prop where
  kept : ∀ p, turn.outcome.2 = some p → p.decision = .allow → ∀ start, turn.InAllow start →
    ∀ b ∈ powerBindings p.wiring, GrantedBefore turn.log turn.tool start turn.now p.wiring b → p.Grants b
  due : ∀ p, turn.outcome.2 = some p → p.decision = .allow → ∀ start, turn.InAllow start →
    ∀ b ∈ powerBindings p.wiring, DueByFirst turn.log start turn.now p.wiring b → p.Grants b

/-- No earlier stage has repeated its report too lately: what is due by the first reports is due by the last. -/
def Undisturbed : Prop :=
  turn.state.evaluate turn.tool turn.now turn.timeout = .allow → ∀ wiring, turn.state.wiring turn.tool = some wiring →
    ∀ start, turn.InAllow start → ∀ b ∈ powerBindings wiring, DueByFirst turn.log start turn.now wiring b →
      ∀ earlier ∈ stagesBefore wiring b, ∀ last, LastReport turn.log earlier.deviceId true last →
        last + b.startDelay ≤ turn.now

end Turn

section Notes
variable {log rest : List TickNote} {key deviceId : String} {start first : Int} {note : TickNote}

@[simp] theorem allowBegan_snoc (log : List TickNote) (key : String) (note : TickNote) :
    allowBegan (log ++ [note]) key = beganStep key (allowBegan log key) note := by
  simp only [allowBegan, List.foldl_append, List.foldl_cons, List.foldl_nil]

theorem allowBegan_allow {p : Pass} (allowed : p.decision = .allow) : allowBegan (log ++ [.pass p]) key =
    if key = p.wiring.toolId then some ((allowBegan log key).getD (p.now, true)) else allowBegan log key := by
  simp only [allowBegan_snoc, beganStep, if_pos allowed, @eq_comm _ key]

theorem allowBegan_deny {p : Pass} (denied : p.decision ≠ .allow) : allowBegan (log ++ [.pass p]) key =
    if key = p.wiring.toolId then none else allowBegan log key := by
  simp only [allowBegan_snoc, beganStep, if_neg denied, @eq_comm _ key]

theorem CarriesOn.began (carries : CarriesOn key note) {began : Int × Bool} (here : allowBegan log key = some began) :
    allowBegan (log ++ [note]) key = some began := by
  rw [allowBegan_snoc, here]
  cases note with
  | report deviceId relayOn at_ => rfl
  | tick tools => rw [beganStep, if_pos (carries.listed tools rfl)]
  | pass p =>
    rw [beganStep]
    split
    · rename_i about
      rw [if_pos (carries.allowed p rfl about), Option.getD_some]
    · rfl

theorem allowBegan_append (carries : ∀ note ∈ rest, CarriesOn key note) {began : Int × Bool}
    (here : allowBegan log key = some began) : allowBegan (log ++ rest) key = some began := by
  induction rest generalizing log with
  | nil => rw [List.append_nil, here]
  | cons note rest ih =>
    rw [List.append_cons]
    exact ih (fun later member => carries later (List.mem_cons_of_mem _ member))
      ((carries note (List.mem_cons_self ..)).began here)

theorem lastReport_quiet {relayOn : Bool} {at_ : Int} (quiet : ∀ d r a, note ≠ .report d r a) :
    LastReport (log ++ [note]) deviceId relayOn at_ ↔ LastReport log deviceId relayOn at_ := by
  refine Since.snoc_iff.trans ⟨?_, fun told => .inr ⟨told, fun r a => quiet deviceId r a⟩⟩
  rintro (same | ⟨told, -⟩)
  · exact absurd same (quiet _ _ _)
  · exact told

theorem lastReport_report {other : String} {relayOn told : Bool} {at_ now : Int} :
    LastReport (log ++ [.report other told now]) deviceId relayOn at_ ↔
      deviceId = other ∧ (relayOn, at_) = (told, now) ∨ deviceId ≠ other ∧ LastReport log deviceId relayOn at_ := by
  refine Since.snoc_iff.trans ⟨?_, ?_⟩
  · rintro (same | ⟨before, apart⟩)
    · obtain ⟨rfl, rfl, rfl⟩ := TickNote.report.inj same
      exact .inl ⟨rfl, rfl⟩
    · refine .inr ⟨?_, before⟩
      rintro rfl
      exact apart told now rfl
  · rintro (⟨rfl, same⟩ | ⟨apart, before⟩)
    · obtain ⟨rfl, rfl⟩ := Prod.mk.inj same
      exact .inl rfl
    · exact .inr ⟨before, fun r a same => apart (TickNote.report.inj same).1.symm⟩

theorem OnSince.last (reported : OnSince log start deviceId first) :
    ∃ last, LastReport log deviceId true last ∧ start ≤ last := by
  obtain ⟨fresh, held⟩ := reported
  induction log using List.reverseRecOn with
  | nil => exact absurd held Since.not_nil
  | append_singleton log note ih =>
    rcases Since.snoc_iff.mp held with rfl | ⟨before, keeps⟩
    · exact ⟨first, Since.now rfl, fresh⟩
    · by_cases about : ∃ relayOn at_, note = .report deviceId relayOn at_
      · obtain ⟨relayOn, at_, rfl⟩ := about
        obtain ⟨rfl, within⟩ := keeps relayOn at_ rfl
        exact ⟨at_, Since.now rfl, within⟩
      · obtain ⟨last, told, within⟩ := ih before
        exact ⟨last, told.later fun relayOn at_ same => about ⟨relayOn, at_, same⟩, within⟩

theorem LastReport.onSince (told : LastReport log deviceId true first) (within : start ≤ first)
    (keeps : ∀ note ∈ rest, KeepsOn start deviceId note) : OnSince (log ++ rest) start deviceId first := by
  have held : Since (fun _ note => note = .report deviceId true first) (KeepsOn start deviceId) log :=
    told.imp (fun _ _ here => here) fun note silent relayOn at_ same => absurd same (silent relayOn at_)
  exact ⟨within, held.append keeps⟩

end Notes

namespace ModuleState
variable {s : ModuleState} {since base now delay : Int} {b : DeviceBinding}

theorem confirmedOnAt_iff {at_ : Int} :
    s.confirmedOnAt b since = some at_ ↔ s.relayState b.deviceId = some (true, at_) ∧ since ≤ at_ := by
  unfold confirmedOnAt
  split
  · rename_i confirmed told
    rw [told]
    simp only [Option.some_inj, Prod.mk.injEq, true_and]
    split
    · rename_i fresh
      rw [Option.some_inj]
      refine ⟨?_, And.left⟩
      rintro rfl
      exact ⟨rfl, fresh⟩
    · rename_i stale
      refine iff_of_false nofun ?_
      rintro ⟨rfl, fresh⟩
      exact stale fresh
  · rename_i other
    refine iff_of_false nofun ?_
    rintro ⟨told, -⟩
    exact other _ told

theorem confirmedBase_due {earlier : List DeviceBinding} :
    ((s.confirmedBase since base earlier).any fun latest => decide (latest + delay ≤ now)) = true ↔
      base + delay ≤ now ∧ ∀ e ∈ earlier, ∃ at_, s.confirmedOnAt e since = some at_ ∧ at_ + delay ≤ now := by
  induction earlier generalizing base with
  | nil => simp [confirmedBase]
  | cons first rest ih =>
    rcases confirmed : s.confirmedOnAt first since with _ | at_
    · simp [confirmedBase, confirmed]
    · simp only [confirmedBase, confirmed, List.forall_mem_cons, Option.some_inj, exists_eq_left']
      rw [ih, ← and_assoc]
      refine and_congr_left fun _ => ?_
      omega

theorem started_iff {wiring : ToolModuleTool} :
    s.started (powerBindings wiring) since now b = true ↔ since + b.startDelay ≤ now ∧
      ∀ earlier ∈ stagesBefore wiring b, ∃ at_,
        s.relayState earlier.deviceId = some (true, at_) ∧ since ≤ at_ ∧ at_ + b.startDelay ≤ now := by
  simp only [← and_assoc, ← confirmedOnAt_iff, ← confirmedBase_due]
  rw [started, startBase]
  split
  · rename_i first
    have none_before : stagesBefore wiring b = [] := by
      refine List.filter_eq_nil_iff.mpr fun earlier bound before => ?_
      have least := firstStage_le bound
      have less := of_decide_eq_true before
      omega
    rw [none_before, confirmedBase]
    rfl
  · rfl

end ModuleState

/-- A pass granted what had been on as long as its delay, in the allow the pass belongs to. -/
def GrantsEarned (before : List TickNote) (note : TickNote) : Prop :=
  ∀ q, note = .pass q → q.decision = .allow → ∀ b, q.Grants b →
    ∃ began, allowBegan (before ++ [note]) q.wiring.toolId = some began ∧ began.1 + b.startDelay ≤ q.now ∧
      ∀ earlier ∈ stagesBefore q.wiring b, ∃ at_,
        LastReport before earlier.deviceId true at_ ∧ began.1 ≤ at_ ∧ at_ + b.startDelay ≤ q.now

/-- What the start clocks and the relay states are, of the notes so far. -/
structure StageInv (log : List TickNote) (s : ModuleState) : Prop where
  began : ∀ key, s.allowedSince key = (allowBegan log key).map (·.1)
  reported : ∀ deviceId relayOn at_, s.relayState deviceId = some (relayOn, at_) ↔ LastReport log deviceId relayOn at_
  earned : EveryStep GrantsEarned log

theorem Turn.allows {t : Turn} (listed : t.tool ∈ t.state.tools)
    (evaluated : t.state.evaluate t.tool t.now t.timeout = .allow) :
    ∃ p, t.outcome.2 = some p ∧ p.decision = .allow := by
  obtain ⟨renewed, wiring, -, -, -, ⟨-, result⟩ | ⟨denial, denied, -⟩⟩ := Turn.cases listed
  · exact ⟨_, congrArg Prod.snd result, rfl⟩
  · rw [evaluated] at denied
    cases denied

namespace StageInv
variable {log : List TickNote} {s : ModuleState}

theorem new : StageInv [] .new where
  began _ := rfl
  reported _ _ _ := iff_of_false nofun Since.not_nil
  earned := EveryStep.nil

theorem congr {t : ModuleState} (inv : StageInv log s) (same : s.SameClocks t) : StageInv log t where
  began := same.allowedSince ▸ inv.began
  reported := same.relayState ▸ inv.reported
  earned := inv.earned

theorem report (inv : StageInv log s) (deviceId : String) (relayOn : Bool) (now : Int) :
    StageInv (log ++ [.report deviceId relayOn now]) (s.noteRelayState deviceId relayOn now) where
  began key := (inv.began key).trans (by rw [allowBegan_snoc]; rfl)
  reported device on_ at_ := by
    show (s.relayState.insert deviceId (relayOn, now)) device = some (on_, at_) ↔ _
    rw [Table.insert_eq_some, lastReport_report, inv.reported]
  earned := EveryStep.snoc_iff.mpr ⟨inv.earned, nofun⟩

theorem begins (inv : StageInv log s) (tools : List String) : StageInv (log ++ [.tick tools]) s where
  began key := by
    rw [inv.began, allowBegan_snoc, beganStep]
    split
    · rfl
    · rw [Option.map_map]
      rfl
  reported device on_ at_ := by
    rw [inv.reported, lastReport_quiet (by simp)]
  earned := EveryStep.snoc_iff.mpr ⟨inv.earned, nofun⟩

/-- What an allowing pass grants, of the notes before it. -/
theorem grants_iff (inv : StageInv log s) {tool : String} {wiring : ToolModuleTool} {now ttlMs : Int}
    {b : DeviceBinding} :
    (s.allowPass tool wiring now ttlMs).Grants b ↔ b ∈ powerBindings wiring ∧
      ((allowBegan log wiring.toolId).getD (now, true)).1 + b.startDelay ≤ now ∧
        ∀ earlier ∈ stagesBefore wiring b, ∃ at_, LastReport log earlier.deviceId true at_ ∧
          ((allowBegan log wiring.toolId).getD (now, true)).1 ≤ at_ ∧
          at_ + b.startDelay ≤ now := by
  have since : s.allowedAt wiring now = ((allowBegan log wiring.toolId).getD (now, true)).1 := by
    rw [ModuleState.allowedAt, inv.began]
    rcases allowBegan log wiring.toolId with _ | began <;> rfl
  rw [← since]
  simp only [← inv.reported, ← ModuleState.started_iff]
  constructor
  · rintro ⟨entry, member, rfl, -⟩
    obtain ⟨b, starts, rfl⟩ := List.mem_map.mp member
    exact List.mem_filter.mp starts
  · intro starts
    exact ⟨_, List.mem_map_of_mem (List.mem_filter.mpr starts), rfl, rfl⟩

theorem allowTool (inv : StageInv log s) (tool : String) (wiring : ToolModuleTool) (now ttlMs : Int) :
    StageInv (log ++ [.pass (s.allowPass tool wiring now ttlMs)]) (s.allowTool wiring now) where
  began key := by
    show (s.allowedSince.orInsert wiring.toolId now) key = _
    rw [allowBegan_allow rfl, Table.orInsert, Table.insert_apply]
    by_cases about : key = wiring.toolId
    · subst about
      rw [if_pos rfl, inv.began]
      refine Eq.trans ?_ (congrArg (Option.map Prod.fst) (if_pos rfl).symm)
      rcases allowBegan log wiring.toolId with _ | began <;> rfl
    · rw [if_neg about, inv.began]
      exact congrArg (Option.map Prod.fst) (if_neg about).symm
  reported device on_ at_ := (inv.reported device on_ at_).trans (lastReport_quiet (by simp)).symm
  earned := by
    refine EveryStep.snoc_iff.mpr ⟨inv.earned, ?_⟩
    rintro q same allowed b grants
    obtain rfl := TickNote.pass.inj same
    obtain ⟨-, due, confirmed⟩ := inv.grants_iff.mp grants
    exact ⟨_, (allowBegan_allow allowed).trans (if_pos rfl), due, confirmed⟩

theorem denyTool (inv : StageInv log s) (tool : String) (wiring : ToolModuleTool) (denial : Denial)
    (now ttlMs : Int) :
    StageInv (log ++ [.pass (s.denyPass tool wiring denial now ttlMs)]) (s.denyTool wiring now) where
  began key := by
    show (s.allowedSince.erase wiring.toolId) key = _
    have denied : (s.denyPass tool wiring denial now ttlMs).decision ≠ .allow := by simp [ModuleState.denyPass]
    rw [allowBegan_deny denied, Table.erase_apply]
    by_cases about : key = wiring.toolId
    · rw [if_pos about]
      exact Eq.trans (Option.map_none (f := Prod.fst)).symm (congrArg (Option.map Prod.fst) (if_pos about).symm)
    · rw [if_neg about, inv.began]
      exact congrArg (Option.map Prod.fst) (if_neg about).symm
  reported device on_ at_ := (inv.reported device on_ at_).trans (lastReport_quiet (by simp)).symm
  earned := by
    refine EveryStep.snoc_iff.mpr ⟨inv.earned, ?_⟩
    rintro q same allowed
    obtain rfl := TickNote.pass.inj same
    cases allowed

theorem turn {t : Turn} (inv : StageInv t.log t.state) (listed : t.tool ∈ t.state.tools) :
    StageInv t.logAfter t.outcome.1 := by
  obtain ⟨renewed, wiring, clocks, -, -, ⟨-, result⟩ | ⟨denial, -, result⟩⟩ := Turn.cases listed
  · rw [Turn.logAfter, result]
    exact (inv.congr clocks).allowTool _ _ _ _
  · rw [Turn.logAfter, result]
    exact (inv.congr clocks).denyTool _ _ _ _ _

theorem turn_grants {t : Turn} (inv : StageInv t.log t.state) (listed : t.tool ∈ t.state.tools) {p : Pass}
    (answer : t.outcome.2 = some p) (allowed : p.decision = .allow) {start : Int} (within : t.InAllow start) :
    t.state.evaluate t.tool t.now t.timeout = .allow ∧ t.state.wiring t.tool = some p.wiring ∧
      p.wiring.toolId = t.tool ∧ ∀ b, p.Grants b ↔ b ∈ powerBindings p.wiring ∧ start + b.startDelay ≤ t.now ∧
        ∀ earlier ∈ stagesBefore p.wiring b, ∃ at_,
        LastReport t.log earlier.deviceId true at_ ∧ start ≤ at_ ∧ at_ + b.startDelay ≤ t.now := by
  obtain ⟨renewed, wiring, clocks, wired, named, ⟨evaluated, result⟩ | ⟨denial, -, result⟩⟩ := Turn.cases listed
  · rw [result] at answer
    obtain rfl := Option.some.inj answer
    refine ⟨evaluated, wired, named, fun b => (inv.congr clocks).grants_iff.trans ?_⟩
    rw [named, within]
    rfl
  · rw [result] at answer
    obtain rfl := Option.some.inj answer
    cases allowed

theorem unique {deviceId : String} {at_ last : Int} (inv : StageInv log s) (told : LastReport log deviceId true at_)
    (again : LastReport log deviceId true last) : at_ = last := by
  have here := (inv.reported _ _ _).mpr told
  have there := (inv.reported _ _ _).mpr again
  rw [here] at there
  exact (Prod.mk.inj (Option.some.inj there)).2

theorem due_of_granted (inv : StageInv log s) {tool : String} {start now : Int} {wiring : ToolModuleTool}
    {b : DeviceBinding}
    (within : (allowBegan log tool).getD (now, true) = (start, true))
    (granted : GrantedBefore log tool start now wiring b) :
    DueByFirst log start now wiring b := by
  obtain ⟨before, _, after, rfl, ⟨q, rfl, rfl, allowed, past, grants, stages⟩, kept⟩ := granted
  obtain ⟨began, here, begun, confirmed⟩ := inv.earned before (.pass q) after rfl q rfl allowed b grants
  have goes := allowBegan_append (fun note member => (kept note member).1) here
  rw [List.append_assoc, List.singleton_append] at goes
  rw [goes, Option.getD_some] at within
  obtain rfl := within
  refine ⟨begun.trans past, fun earlier bound => ?_⟩
  obtain ⟨at_, told, fresh, due⟩ := confirmed earlier (stages earlier bound)
  refine ⟨at_, told.onSince fresh fun note member => ?_, due.trans past⟩
  rcases List.mem_cons.mp member with rfl | later
  · exact nofun
  · exact (kept note later).2 earlier bound

/-- A turn keeps what it has granted exactly when no earlier stage has repeated its report too lately. -/
theorem holds_iff {t : Turn} (inv : StageInv t.log t.state) (listed : t.tool ∈ t.state.tools) : t.StagesHold ↔
    t.Undisturbed := by
  constructor
  · intro holds evaluated wiring wired start within b bound due earlier stage last told
    obtain ⟨p, answer, allowed⟩ := Turn.allows listed evaluated
    obtain ⟨-, wired', -, grants⟩ := inv.turn_grants listed answer allowed within
    obtain rfl := Option.some.inj (wired.symm.trans wired')
    have granted : p.Grants b := holds.due p answer allowed start within b bound due
    obtain ⟨-, -, confirmed⟩ := (grants b).mp granted
    obtain ⟨at_, told', -, passed⟩ := confirmed earlier stage
    rw [inv.unique told told']
    exact passed
  · intro undisturbed
    have due : ∀ p, t.outcome.2 = some p → p.decision = .allow → ∀ start, t.InAllow start →
      ∀ b ∈ powerBindings p.wiring,
        DueByFirst t.log start t.now p.wiring b → p.Grants b := by
      intro p answer allowed start within b bound due
      obtain ⟨evaluated, wired, -, grants⟩ := inv.turn_grants listed answer allowed within
      refine (grants b).mpr ⟨bound, due.begun, fun earlier stage => ?_⟩
      obtain ⟨first, reported, -⟩ := due.confirmed earlier stage
      obtain ⟨last, told, fresh⟩ := reported.last
      exact ⟨last, told, fresh, undisturbed evaluated p.wiring wired start within b bound due earlier stage last told⟩
    refine ⟨fun p answer allowed start within b bound granted => ?_, due⟩
    exact due p answer allowed start within b bound (inv.due_of_granted within granted)

end StageInv

/-- In a run stages keep their grants exactly when at every turn no earlier stage has repeated its report less than a
start delay ago. -/
theorem stages_hold_iff (calls : List Call) : EveryTurn Turn.StagesHold calls ↔ EveryTurn Turn.Undisturbed calls := by
  have everywhere : EveryTurn (fun _ => True) calls := fun _ _ _ _ _ _ => trivial
  have held := (everyTurn_invariant StageInv.new (fun _ _ _ same inv => inv.congr same)
    (fun _ _ deviceId relayOn now inv => inv.report deviceId relayOn now) (fun _ s inv => inv.begins s.tools)
    (fun _ listed _ inv => inv.turn listed) everywhere).2
  constructor
  · intro every past call later split turn member
    obtain ⟨listed, inv⟩ := held past call later split turn member
    exact (inv.holds_iff listed).mp (every past call later split turn member)
  · intro every past call later split turn member
    obtain ⟨listed, inv⟩ := held past call later split turn member
    exact (inv.holds_iff listed).mpr (every past call later split turn member)

/-- A spindle that waits five seconds for its extraction to spin up. -/
def slowSpindle : DeviceBinding := { spindle with startDelayMs := 5000 }

def slowMill : ToolModuleTool := { mill with modules := [slowSpindle, extraction] }

def slowMillRuns : List Call :=
  [.applyState ⟨[slowMill]⟩ none 0, .openSession "mill" 0 none, tickAt 0,
    .noteRelayState "fan" true (seconds 1), tickAt (seconds 6)]

/-- The pass that starts the spindle. -/
def spindleStarts : Pass :=
  { wiring := slowMill, now := seconds 6, decision := .allow,
    power := [(extraction, ⟨"mill", "fan", true, 10000, none⟩), (slowSpindle, ⟨"mill", "motor", true, 10000, none⟩)],
    sensors := [] }

/-- The pass after the fan has said again that it is on. -/
def spindleMissed : Pass :=
  { wiring := slowMill, now := seconds 8, decision := .allow,
    power := [(extraction, ⟨"mill", "fan", true, 10000, none⟩)], sensors := [] }

/-- The fan has said again that it is on, and the spindle that runs is passed over. -/
theorem spindle_loses_grant :
    ¬ EveryTurn Turn.StagesHold
      (slowMillRuns ++ [.noteRelayState "fan" true (seconds 7)] ++ [tickAt (seconds 8)]) := by
  intro every
  have log : tickLog (slowMillRuns ++ [.noteRelayState "fan" true (seconds 7)]) ++ [.tick ["mill"]] =
      tickLog slowMillRuns.dropLast ++ [.tick ["mill"]] ++
        .pass spindleStarts :: [.report "fan" true (seconds 7), .tick ["mill"]] := by
    decide
  have turns := toolTurns_single
    (by decide : (engine.run (slowMillRuns ++ [.noteRelayState "fan" true (seconds 7)])).tools = ["mill"])
    (tickLog (slowMillRuns ++ [.noteRelayState "fan" true (seconds 7)])) (seconds 8) (seconds 10) (seconds 30)
  have holds := every _ (tickAt (seconds 8)) [] rfl _ (turns ▸ List.mem_singleton.mpr rfl)
  have on_ : CarriesOn "mill" (.report "fan" true (seconds 7)) ∧
      ∀ earlier ∈ stagesBefore slowMill slowSpindle, KeepsOn 0 earlier.deviceId (.report "fan" true (seconds 7)) := by
    refine ⟨⟨nofun, nofun⟩, fun earlier _ relayOn at_ same => ?_⟩
    obtain ⟨-, rfl, rfl⟩ := TickNote.report.inj same
    exact ⟨rfl, by decide⟩
  have listed : CarriesOn "mill" (.tick ["mill"]) ∧
      ∀ earlier ∈ stagesBefore slowMill slowSpindle, KeepsOn 0 earlier.deviceId (.tick ["mill"]) := by
    refine ⟨⟨fun tools same => ?_, nofun⟩, fun _ _ => nofun⟩
    obtain rfl := TickNote.tick.inj same
    exact List.mem_singleton.mpr rfl
  have granted : GrantedBefore
    (tickLog (slowMillRuns ++ [.noteRelayState "fan" true (seconds 7)]) ++ [.tick ["mill"]]) "mill" 0
      (seconds 8) slowMill slowSpindle :=
    ⟨_, _, _, log, ⟨spindleStarts, rfl, rfl, rfl, by decide, by decide, fun _ there => there⟩, by
      simpa only [List.forall_mem_cons, List.not_mem_nil, false_imp_iff, implies_true, and_true] using ⟨on_, listed⟩⟩
  have grants := holds.kept spindleMissed (by decide) rfl 0 (by decide) slowSpindle (by decide) granted
  exact absurd grants (by decide)

end CoopSpaces
