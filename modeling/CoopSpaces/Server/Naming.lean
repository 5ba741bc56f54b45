import CoopSpaces.Server.Sync

namespace CoopSpaces

section Lookup
variable {Uuid : Type} [DecidableEq Uuid] [IdText Uuid] (tools : List (Tool Uuid))

def getToolByExternalId (externalId : String) : Option (Tool Uuid) :=
  tools.find? fun t => t.externalId = some externalId

def getToolById (id : Uuid) : Option (Tool Uuid) := tools.find? fun t => t.id = id

/-- Try the external id first; fall back to the UUID if the value parses as one. -/
def findToolByToolguardId (toolguardId : String) : Option (Tool Uuid) :=
  match getToolByExternalId tools toolguardId with
  | some tool => some tool
  | none => (IdText.parseStr toolguardId).bind (getToolById tools)

variable {tools}

omit [DecidableEq Uuid] [IdText Uuid] in
theorem getToolByExternalId_some {externalId : String} {tool : Tool Uuid}
    (found : getToolByExternalId tools externalId = some tool) :
    tool ∈ tools ∧ tool.externalId = some externalId := by
  unfold getToolByExternalId at found
  have fits := List.find?_some found
  exact ⟨List.mem_of_find?_eq_some found, of_decide_eq_true fits⟩

omit [IdText Uuid] in
theorem getToolById_some {id : Uuid} {tool : Tool Uuid} (found : getToolById tools id = some tool) :
    tool ∈ tools ∧ tool.id = id := by
  unfold getToolById at found
  have fits := List.find?_some found
  exact ⟨List.mem_of_find?_eq_some found, of_decide_eq_true fits⟩

end Lookup

/-- A resource as its names know it. -/
structure NamedResource (Uuid : Type) where
  id : Uuid
  externalId : Option String

/-- The four places a name is looked up: the server's tools, and the edge's policy,
power snapshot and wiring snapshot. -/
structure Directory (Uuid : Type) where
  tools : List (Tool Uuid)
  policy : Policy Uuid
  power : PowerStatePayload
  wiring : ToolModuleStatePayload

section Naming
variable {Uuid : Type} [IdText Uuid]

/-- Ids are a primary key, and external ids are unique where there is one. -/
structure NamedResource.Keyed (resources : Set (NamedResource Uuid)) : Prop where
  ids : ∀ a ∈ resources, ∀ b ∈ resources, a.id = b.id → a = b
  externalIds : ∀ a ∈ resources, ∀ b ∈ resources, ∀ name, a.externalId = some name → b.externalId = some name → a = b

def NamedResource.Named (a : NamedResource Uuid) (name : String) : Prop :=
  a.externalId = some name ∨ IdText.toText a.id = name

namespace Directory

/-- Each of the four holds these resources, in whatever order. -/
structure Holds (d : Directory Uuid) (resources : Set (NamedResource Uuid)) : Prop where
  tools : ∀ a, (∃ t ∈ d.tools, t.id = a.id ∧ t.externalId = a.externalId) ↔ a ∈ resources
  policy : ∀ a, (∃ e ∈ d.policy.entries, e.id = a.id ∧ e.externalId = a.externalId) ↔ a ∈ resources
  power : ∀ text externalId, (∃ t ∈ d.power.tools, t.id = text ∧ t.externalId = externalId) ↔
    ∃ a ∈ resources, IdText.toText a.id = text ∧ a.externalId = externalId
  wiring : ∀ text externalId, (∃ t ∈ d.wiring.tools, t.toolId = text ∧ t.externalId = externalId) ↔
    ∃ a ∈ resources, IdText.toText a.id = text ∧ a.externalId = externalId

variable (d : Directory Uuid) (name : String)

/-- Each answer to a name as the UUID's text: the edge's three, and the server's. -/
def policyPick : Option String := (d.policy.find name).map fun e => IdText.toText e.id

def powerPick : Option String := (PowerState.resolve d.power name).map (·.id)

def wiringPick : Option String := (ModuleState.resolve d.wiring name).map (·.toolId)

def serverPick [DecidableEq Uuid] : Option String :=
  (findToolByToolguardId d.tools name).map fun t => IdText.toText t.id

structure Agrees [DecidableEq Uuid] : Prop where
  policy : d.policyPick name = d.serverPick name
  power : d.powerPick name = d.serverPick name
  wiring : d.wiringPick name = d.serverPick name

end Directory

/-- The name is not one resource's external id and another's UUID, and where it is
nobody's external id it reads only as the UUID it spells. -/
structure Unambiguous (resources : Set (NamedResource Uuid)) (name : String) : Prop where
  apart : ∀ a ∈ resources, ∀ b ∈ resources, a.externalId = some name → IdText.toText b.id = name → a = b
  canonical : (∀ a ∈ resources, a.externalId ≠ some name) →
    ∀ b ∈ resources, IdText.parseStr name = some b.id → IdText.toText b.id = name

/-- An answer that is some resource of that name, or none when there is none. -/
structure Picks (resources : Set (NamedResource Uuid)) (name : String) (answer : Option String) : Prop where
  found : ∀ text, answer = some text → ∃ a ∈ resources, IdText.toText a.id = text ∧ a.Named name
  missed : answer = none → ∀ a ∈ resources, ¬ a.Named name

variable {d : Directory Uuid} {resources : Set (NamedResource Uuid)} {name : String}

theorem Picks.eq {one other : Option String} (first : Picks resources name one) (second : Picks resources name other)
    (unique : ∀ a ∈ resources, ∀ b ∈ resources, a.Named name → b.Named name → a = b) : one = other := by
  rcases one with _ | text
  · rcases other with _ | text
    · rfl
    · obtain ⟨a, member, -, named⟩ := second.found text rfl
      exact absurd named (first.missed rfl a member)
  · obtain ⟨a, member, rfl, named⟩ := first.found text rfl
    rcases other with _ | text
    · exact absurd named (second.missed rfl a member)
    · obtain ⟨b, also, rfl, again⟩ := second.found text rfl
      rw [unique a member b also named again]

theorem Unambiguous.unique (clear : Unambiguous resources name) (keyed : NamedResource.Keyed resources) :
    ∀ a ∈ resources, ∀ b ∈ resources, a.Named name → b.Named name → a = b := by
  rintro a inA b inB (external | text) (again | other)
  · exact keyed.externalIds a inA b inB name external again
  · exact clear.apart a inA b inB external other
  · exact (clear.apart b inB a inA again text).symm
  · exact keyed.ids a inA b inB (IdText.toText_injective (text.trans other.symm))

namespace Directory.Holds

theorem policy_picks (holds : d.Holds resources) : Picks resources name (d.policyPick name) where
  found text found := by
    obtain ⟨e, search, rfl⟩ := Option.map_eq_some_iff.mp found
    have fits := List.find?_some search
    simp only [Entry.named, Bool.or_eq_true, beq_iff_eq] at fits
    exact ⟨⟨e.id, e.externalId⟩, (holds.policy _).mp ⟨e, List.mem_of_find?_eq_some search, rfl, rfl⟩, rfl, fits⟩
  missed none_ a member named := by
    obtain ⟨e, listed, sameId, sameExternal⟩ := (holds.policy a).mpr member
    have passed := List.find?_eq_none.mp (Option.map_eq_none_iff.mp none_) e listed
    simp only [Entry.named, Bool.or_eq_true, beq_iff_eq, sameId, sameExternal] at passed
    exact passed named

theorem power_picks (holds : d.Holds resources) : Picks resources name (d.powerPick name) where
  found text found := by
    obtain ⟨t, search, rfl⟩ := Option.map_eq_some_iff.mp found
    have fits := List.find?_some search
    simp only [Bool.or_eq_true, beq_iff_eq] at fits
    obtain ⟨a, member, sameId, sameExternal⟩ :=
      (holds.power _ _).mp ⟨t, List.mem_of_find?_eq_some search, rfl, rfl⟩
    exact ⟨a, member, sameId, by rwa [NamedResource.Named, sameId, sameExternal]⟩
  missed none_ a member named := by
    obtain ⟨t, listed, sameId, sameExternal⟩ := (holds.power _ _).mpr ⟨a, member, rfl, rfl⟩
    have passed := List.find?_eq_none.mp (Option.map_eq_none_iff.mp none_) t listed
    simp only [Bool.or_eq_true, beq_iff_eq, sameId, sameExternal] at passed
    exact passed named

theorem wiring_of_text (holds : d.Holds resources) {a : NamedResource Uuid} (member : a ∈ resources)
    (text : IdText.toText a.id = name) : d.wiringPick name = some name := by
  obtain ⟨t, listed, sameId, -⟩ := (holds.wiring _ _).mpr ⟨a, member, rfl, rfl⟩
  obtain ⟨found, resolved, same⟩ := ModuleState.resolve_of_id listed
  rw [sameId, text] at resolved same
  rw [wiringPick, resolved, Option.map_some, same]

theorem wiring_picks (holds : d.Holds resources) : Picks resources name (d.wiringPick name) where
  found text found := by
    obtain ⟨t, resolved, rfl⟩ := Option.map_eq_some_iff.mp found
    obtain ⟨a, member, sameId, sameExternal⟩ := (holds.wiring _ _).mp ⟨t, ModuleState.resolve_mem resolved, rfl, rfl⟩
    refine ⟨a, member, sameId, ?_⟩
    rcases Option.or_eq_some_iff.mp resolved with byId | ⟨-, byExternal⟩
    · have same := List.find?_some byId
      exact .inr (sameId.trans (beq_iff_eq.mp same))
    · have same := List.find?_some byExternal
      exact .inl (sameExternal.trans (beq_iff_eq.mp same))
  missed none_ a member named := by
    obtain ⟨byId, byExternal⟩ := Option.or_eq_none_iff.mp (Option.map_eq_none_iff.mp none_)
    obtain ⟨t, listed, sameId, sameExternal⟩ := (holds.wiring _ _).mpr ⟨a, member, rfl, rfl⟩
    rcases named with external | text
    · have passed := List.find?_eq_none.mp byExternal t listed
      simp only [beq_iff_eq, sameExternal] at passed
      exact passed external
    · have passed := List.find?_eq_none.mp byId t listed
      simp only [beq_iff_eq, sameId] at passed
      exact passed text

variable [DecidableEq Uuid]

theorem server_of_external (holds : d.Holds resources) (keyed : NamedResource.Keyed resources)
    {a : NamedResource Uuid}
    (member : a ∈ resources) (external : a.externalId = some name) :
    d.serverPick name = some (IdText.toText a.id) := by
  obtain ⟨t, listed, sameId, sameExternal⟩ := (holds.tools a).mpr member
  rcases search : getToolByExternalId d.tools name with _ | tool
  · have passed := List.find?_eq_none.mp search t listed
    exact absurd (decide_eq_true (sameExternal.trans external)) passed
  · obtain ⟨inTools, fits⟩ := getToolByExternalId_some search
    have also := (holds.tools ⟨tool.id, tool.externalId⟩).mp ⟨tool, inTools, rfl, rfl⟩
    have same := keyed.externalIds _ also a member name fits external
    rw [serverPick, findToolByToolguardId, search, ← same, Option.map_some]

theorem server_of_no_external (holds : d.Holds resources) (nobody : ∀ a ∈ resources, a.externalId ≠ some name)
    {text : String} : d.serverPick name = some text ↔
      ∃ a ∈ resources, IdText.parseStr name = some a.id ∧ IdText.toText a.id = text := by
  have missed : getToolByExternalId d.tools name = none := by
    rw [getToolByExternalId, List.find?_eq_none]
    intro t listed fits
    exact nobody _ ((holds.tools ⟨t.id, t.externalId⟩).mp ⟨t, listed, rfl, rfl⟩) (of_decide_eq_true fits)
  have unfolded := findToolByToolguardId.eq_def d.tools name
  simp only [missed] at unfolded
  rw [serverPick, unfolded, Option.map_eq_some_iff]
  constructor
  · rintro ⟨tool, found, rfl⟩
    obtain ⟨id, reads, search⟩ := Option.bind_eq_some_iff.mp found
    obtain ⟨inTools, same⟩ := getToolById_some search
    have also := (holds.tools ⟨tool.id, tool.externalId⟩).mp ⟨tool, inTools, rfl, rfl⟩
    exact ⟨_, also, same ▸ reads, rfl⟩
  · rintro ⟨a, member, reads, rfl⟩
    obtain ⟨t, listed, sameId, -⟩ := (holds.tools a).mpr member
    have present : (getToolById d.tools a.id).isSome := by
      rw [getToolById, List.find?_isSome]
      exact ⟨t, listed, decide_eq_true sameId⟩
    obtain ⟨tool, search⟩ := Option.isSome_iff_exists.mp present
    obtain ⟨-, same⟩ := getToolById_some search
    exact ⟨tool, by rw [reads, Option.bind_some, search], by rw [same]⟩

theorem server_picks (holds : d.Holds resources) (keyed : NamedResource.Keyed resources)
    (clear : Unambiguous resources name) : Picks resources name (d.serverPick name) := by
  by_cases somebody : ∃ a ∈ resources, a.externalId = some name
  · obtain ⟨a, member, external⟩ := somebody
    rw [holds.server_of_external keyed member external]
    refine ⟨?_, fun none_ => by cases none_⟩
    intro text same
    exact ⟨a, member, Option.some.inj same, .inl external⟩
  · push Not at somebody
    refine ⟨?_, ?_⟩
    · intro text found
      obtain ⟨a, member, reads, rfl⟩ := (holds.server_of_no_external somebody).mp found
      exact ⟨a, member, rfl, .inr (clear.canonical somebody a member reads)⟩
    · rintro none_ a member (external | rfl)
      · exact somebody a member external
      · have found := (holds.server_of_no_external somebody).mpr ⟨a, member, IdText.parseStr_toText a.id, rfl⟩
        rw [none_] at found
        cases found

end Directory.Holds

/-- The four lookups agree on a name exactly when it is unambiguous. -/
theorem lookups_agree_iff [DecidableEq Uuid] (d : Directory Uuid) (resources : Set (NamedResource Uuid))
    (name : String)
    (holds : d.Holds resources) (keyed : NamedResource.Keyed resources) :
    d.Agrees name ↔ Unambiguous resources name := by
  constructor
  · intro agrees
    refine ⟨?_, ?_⟩
    · intro a inA b inB external text
      have server := holds.server_of_external keyed inA external
      have wiring := holds.wiring_of_text inB text
      have same : some name = some (IdText.toText a.id) := wiring.symm.trans (agrees.wiring.trans server)
      exact keyed.ids a inA b inB (IdText.toText_injective ((Option.some.inj same).symm.trans text.symm))
    · intro nobody b inB reads
      have server := (holds.server_of_no_external nobody).mpr ⟨b, inB, reads, rfl⟩
      obtain ⟨a, inA, sameText, named⟩ := holds.policy_picks.found _ (agrees.policy.trans server)
      have text := named.resolve_left (nobody a inA)
      exact sameText.symm.trans text
  · intro clear
    have unique := clear.unique keyed
    have server := holds.server_picks keyed clear
    exact ⟨holds.policy_picks.eq server unique, holds.power_picks.eq server unique,
      holds.wiring_picks.eq server unique⟩

/-- A site where every place holds one list of resources, tools all of them. -/
def siteOf (resources : List (NamedResource Uuid)) : Directory Uuid where
  tools := resources.map fun a => ⟨a.id, a.externalId, "", .idle, false, none⟩
  policy := ⟨resources.map fun a => .fromSyncTool ⟨a.id, a.externalId, "", .idle, false⟩, .empty, [], none⟩
  power := ⟨[], [], resources.map fun a => ⟨IdText.toText a.id, a.externalId, none⟩⟩
  wiring := ⟨resources.map fun a => ⟨IdText.toText a.id, a.externalId, "tool", "until_stopped", false, [], []⟩⟩

theorem siteOf_holds (resources : List (NamedResource Uuid)) : (siteOf resources).Holds {a | a ∈ resources} where
  tools a := by
    simp only [siteOf, List.mem_map, exists_exists_and_eq_and, Set.mem_ofPred_eq]
    exact ⟨fun ⟨b, member, sameId, sameExternal⟩ =>
      by cases a; cases b; cases sameId; cases sameExternal; exact member, fun member => ⟨a, member, rfl, rfl⟩⟩
  policy a := by
    simp only [siteOf, List.mem_map, exists_exists_and_eq_and, Set.mem_ofPred_eq, Entry.fromSyncTool]
    exact ⟨fun ⟨b, member, sameId, sameExternal⟩ =>
      by cases a; cases b; cases sameId; cases sameExternal; exact member, fun member => ⟨a, member, rfl, rfl⟩⟩
  power text externalId := by simp only [siteOf, List.mem_map, exists_exists_and_eq_and, Set.mem_ofPred_eq]
  wiring text externalId := by simp only [siteOf, List.mem_map, exists_exists_and_eq_and, Set.mem_ofPred_eq]

end Naming

def latheId : HexId := .repeating 10

def drillId : HexId := .repeating 11

/-- Two tools; the drill's external id may be anything. -/
def workshop (external : String) : List (NamedResource HexId) := [⟨latheId, none⟩, ⟨drillId, some external⟩]

theorem workshop_keyed (external : String) : NamedResource.Keyed {a | a ∈ workshop external} := by
  have distinct : latheId ≠ drillId := by decide
  refine ⟨?_, ?_⟩
  · intro a inA b inB same
    simp only [workshop, Set.mem_ofPred_eq, List.mem_cons, List.not_mem_nil, or_false] at inA inB
    rcases inA with rfl | rfl <;> rcases inB with rfl | rfl
    · rfl
    · exact absurd same distinct
    · exact absurd same.symm distinct
    · rfl
  · intro a inA b inB name one other
    simp only [workshop, Set.mem_ofPred_eq, List.mem_cons, List.not_mem_nil, or_false] at inA inB
    rcases inA with rfl | rfl
    · cases one
    · rcases inB with rfl | rfl
      · cases other
      · rfl

/-- The drill's external id spells the lathe's UUID: by that name the server finds
the drill, and the wiring the lathe. -/
theorem lookups_disagree :
    (siteOf (workshop (IdText.toText latheId))).Holds {a | a ∈ workshop (IdText.toText latheId)} ∧
      NamedResource.Keyed {a | a ∈ workshop (IdText.toText latheId)} ∧
        ¬ (siteOf (workshop (IdText.toText latheId))).Agrees (IdText.toText latheId) := by
  have holds := siteOf_holds (workshop (IdText.toText latheId))
  have keyed := workshop_keyed (IdText.toText latheId)
  refine ⟨holds, keyed, ?_⟩
  intro agrees
  have server := holds.server_of_external keyed (a := ⟨drillId, some (IdText.toText latheId)⟩)
    (by simp [workshop]) rfl
  have wiring := holds.wiring_of_text (a := ⟨latheId, none⟩) (by simp [workshop]) rfl
  have same := wiring.symm.trans (agrees.wiring.trans server)
  exact absurd (IdText.toText_injective (Option.some.inj same)) (by decide)

theorem lookups_agree_iff_drill : (siteOf (workshop "drill")).Agrees "drill" := by
  refine (lookups_agree_iff _ {a | a ∈ workshop "drill"} "drill" (siteOf_holds _) (workshop_keyed _)).mpr ⟨?_, ?_⟩
  · intro a _ b _ _ text
    have long : (IdText.toText b.id).length = 36 := HexId.length_toText b.id
    rw [text] at long
    exact absurd long (by decide)
  · intro nobody
    exact absurd rfl (nobody ⟨drillId, some "drill"⟩ (by simp [workshop]))

end CoopSpaces
