import CoopSpaces.Server.Handler

namespace CoopSpaces

/-- A place, under its id. -/
structure Place (Uuid : Type) where
  parentId : Option Uuid
  placeType : String
  name : String
  description : Option String
  externalId : Option String
  isSpecial : Bool
  deriving DecidableEq

/-- Whether places are served, and the names of their types, from the most containing to the least. -/
structure PlaceConfig where
  enabled : Bool
  types : List String

/-- What the table of places answers to a statement it refuses, or to a walk that is too long. -/
inductive PlaceDbError
  | diesel (error : DbError)
  | valueTooLong
  | other (message : String)
  deriving DecidableEq

/-- The places there are. A parent that is named is there. -/
structure Places (Uuid : Type) [DecidableEq Uuid] where
  rows : AList fun _ : Uuid => Place Uuid
  references : ∀ id row parent, rows.lookup id = some row → row.parentId = some parent →
    (rows.lookup parent).isSome = true

structure CreatePlaceRequest (Uuid : Type) where
  name : String
  placeType : String
  parentId : Option Uuid
  description : Option String
  externalId : Option String
  isSpecial : Bool
  deriving DecidableEq

/-- A field left out is `none`; a parent of `some none` makes a root. -/
structure UpdatePlaceRequest (Uuid : Type) where
  name : Option String
  placeType : Option String
  parentId : Option (Option Uuid)
  description : Option (Option String)
  externalId : Option (Option String)
  isSpecial : Option Bool
  deriving DecidableEq

namespace PlaceDbError

def toApi : PlaceDbError → ApiError
  | .diesel e => .ofDb e
  | .valueTooLong => .badRequest "A field value exceeded the maximum length for its column"
  | .other message => .internalServerError ("Database error: " ++ message)

def mapDieselConflict : PlaceDbError → ApiError
  | .diesel .uniqueViolation => .conflict "A sibling place with that name already exists"
  | .diesel .foreignKeyViolation => .conflict "This place still has child places; move or delete them first"
  | e => e.toApi

end PlaceDbError

namespace PlaceConfig
variable (cfg : PlaceConfig)

/-- The depth of a type. -/
def indexOf (placeType : String) : Option Nat := cfg.types.findIdx? fun t => t = placeType

def validateParentChild (parentType childType : String) : Except String Unit :=
  match cfg.indexOf parentType with
  | none => .error ("Unknown parent place_type '" ++ parentType ++ "'")
  | some parentIdx =>
    match cfg.indexOf childType with
    | none => .error ("Unknown place_type '" ++ childType ++ "'")
    | some childIdx =>
      if childIdx ≤ parentIdx then
        .error ("Child place_type '" ++ childType ++ "' must be deeper than parent '" ++ parentType ++ "'")
      else .ok ()

/-- The inner type is configured strictly deeper than the outer one. -/
def Deeper (outer inner : String) : Prop := ∃ i j, cfg.indexOf outer = some i ∧ cfg.indexOf inner = some j ∧ i < j

variable {cfg}

theorem validateParentChild_eq_ok {outer inner : String} :
    cfg.validateParentChild outer inner = .ok () ↔ cfg.Deeper outer inner := by
  unfold validateParentChild Deeper
  rcases cfg.indexOf outer with _ | i
  · simp
  · rcases cfg.indexOf inner with _ | j
    · simp
    · by_cases deep : j ≤ i
      · simp [deep]
      · simp [deep, not_le.mp deep]

end PlaceConfig

namespace Places
variable {Uuid : Type} [DecidableEq Uuid] (s : Places Uuid)

def getPlace (id : Uuid) : Except PlaceDbError (Place Uuid) :=
  match s.rows.lookup id with
  | none => .error (.diesel .notFound)
  | some row => .ok row

/-- The walk up from a place, with as many steps left as its bound allows. -/
def walk : Nat → Option Uuid → List (Uuid × Place Uuid) → Except PlaceDbError (List (Uuid × Place Uuid))
  | _, none, acc => .ok acc
  | 0, some _, _ => .error (.other "place ancestor chain exceeded 32 levels")
  | steps + 1, some parent, acc =>
    match s.getPlace parent with
    | .error e => .error e
    | .ok row => walk steps row.parentId ((parent, row) :: acc)

/-- From the root down, without the place itself. -/
def placeAncestors (id : Uuid) : Except PlaceDbError (List (Uuid × Place Uuid)) :=
  match s.getPlace id with
  | .error e => .error e
  | .ok row => s.walk 32 row.parentId []

/-- Siblings do not share a name, nor any two places an external id. -/
def taken (id : Uuid) (row : Place Uuid) : Bool :=
  s.rows.entries.any fun other => decide (other.1 ≠ id) &&
    (decide (other.2.parentId = row.parentId ∧ other.2.name = row.name) ||
      row.externalId.isSome && decide (other.2.externalId = row.externalId))

/-- Why the table does not take a row. -/
def refusal (id : Uuid) (row : Place Uuid) : Option PlaceDbError :=
  if 120 < row.name.length || row.externalId.any fun text => decide (255 < text.length) then some .valueTooLong
  else if s.taken id row then some (.diesel .uniqueViolation)
  else if row.parentId.any fun parent => (s.rows.lookup parent).isNone then some (.diesel .foreignKeyViolation)
  else none

variable {s}

theorem parent_of_refusal {id parent : Uuid} {row : Place Uuid} (accepted : s.refusal id row = none)
    (named : row.parentId = some parent) : (s.rows.lookup parent).isSome = true := by
  unfold refusal at accepted
  rw [named] at accepted
  split at accepted
  · cases accepted
  · split at accepted
    · cases accepted
    · split at accepted
      · cases accepted
      · rename_i there
        rw [Option.any_some, Option.isNone_iff_eq_none] at there
        exact Option.isSome_iff_ne_none.mpr there

theorem references_insert {id : Uuid} {row : Place Uuid} (accepted : s.refusal id row = none) :
    ∀ other found parent, (s.rows.insert id row).lookup other = some found → found.parentId = some parent →
      ((s.rows.insert id row).lookup parent).isSome = true := by
  intro other found parent there named
  have old : (s.rows.lookup parent).isSome = true := by
    by_cases same : other = id
    · subst same
      rw [AList.lookup_insert] at there
      obtain rfl := Option.some.inj there
      exact parent_of_refusal accepted named
    · rw [AList.lookup_insert_ne same] at there
      exact s.references other found parent there named
  by_cases same : parent = id
  · subst same
    rw [AList.lookup_insert]
    rfl
  · rw [AList.lookup_insert_ne same]
    exact old

variable (s)

def write (id : Uuid) (row : Place Uuid) : Except PlaceDbError (Places Uuid) :=
  match accepted : s.refusal id row with
  | some e => .error e
  | none => .ok ⟨s.rows.insert id row, references_insert accepted⟩

/-- An id that is generated is new. -/
def createPlace (id : Uuid) (row : Place Uuid) : Except PlaceDbError (Places Uuid) :=
  if (s.rows.lookup id).isSome then .error (.diesel .uniqueViolation) else s.write id row

def updatePlace (id : Uuid) (change : Place Uuid → Place Uuid) : Except PlaceDbError (Places Uuid) :=
  match s.rows.lookup id with
  | none => .error (.diesel .notFound)
  | some row => s.write id (change row)

end Places

section Handlers
variable {Uuid : Type} [DecidableEq Uuid] (cfg : PlaceConfig) (debugText : List String → String) (s : Places Uuid)

def PlaceConfig.requireEnabled : Except ApiError Unit :=
  if cfg.enabled then .ok () else .error (.forbidden "Places module is disabled in server configuration")

/-- A type is a configured one, strictly deeper than the parent's. Special places skip both checks, and are roots. -/
def validatePlacePayload (placeType : String) (parentId : Option Uuid) (isSpecial : Bool) : Except ApiError Unit :=
  if isSpecial then
    if parentId.isSome then .error (.badRequest "Special places cannot have a parent")
    else if trim placeType = "" then .error (.badRequest "place_type is required (use any label, e.g. \"Outside\")")
    else .ok ()
  else if (cfg.indexOf placeType).isNone then
    .error (.badRequest ("Unknown place_type '" ++ placeType ++ "'; configured types: " ++ debugText cfg.types))
  else
    match parentId with
    | none => .ok ()
    | some parentId =>
      match s.getPlace parentId with
      | .error e => .error e.toApi
      | .ok parent =>
        -- Below a special place the hierarchy begins anew.
        if parent.isSpecial then .ok ()
        else (cfg.validateParentChild parent.placeType placeType).mapError .badRequest

namespace CreatePlaceRequest

def check (req : CreatePlaceRequest Uuid) : Except ApiError Unit :=
  match cfg.requireEnabled with
  | .error e => .error e
  | .ok () =>
    if trim req.name = "" then .error (.badRequest "name is required")
    else validatePlacePayload cfg debugText s req.placeType req.parentId req.isSpecial

def row (req : CreatePlaceRequest Uuid) : Place Uuid :=
  ⟨req.parentId, req.placeType, trim req.name, req.description, req.externalId, req.isSpecial⟩

end CreatePlaceRequest

namespace UpdatePlaceRequest
variable (req : UpdatePlaceRequest Uuid)

/-- The place as the request would have it. -/
def row (before : Place Uuid) : Place Uuid where
  parentId := req.parentId.getD before.parentId
  placeType := req.placeType.getD before.placeType
  name := (req.name.map trim).getD before.name
  description := req.description.getD before.description
  externalId := req.externalId.getD before.externalId
  isSpecial := req.isSpecial.getD before.isSpecial

/-- Neither the place itself nor one below it becomes its parent. -/
def checkParent (id : Uuid) : Option Uuid → Except ApiError Unit
  | none => .ok ()
  | some parent =>
    if parent = id then .error (.badRequest "A place can't be its own parent")
    else
      match s.placeAncestors parent with
      | .error e => .error e.toApi
      | .ok chain =>
        if chain.any fun p => decide (p.1 = id)
          then .error (.badRequest "Move would create a cycle in the place hierarchy")
        else .ok ()

/-- What is asked of a request before the place is changed. -/
def check (id : Uuid) (before : Place Uuid) : Except ApiError Unit :=
  let after := req.row before
  match checkParent s id after.parentId with
  | .error e => .error e
  | .ok () => validatePlacePayload cfg debugText s after.placeType after.parentId after.isSpecial

end UpdatePlaceRequest

/-- The requests that make and change places. A place made gets a generated id. -/
inductive PlaceRequest (Uuid : Type)
  | createPlace (id : Uuid) (req : CreatePlaceRequest Uuid)
  | updatePlace (id : Uuid) (req : UpdatePlaceRequest Uuid)
  deriving DecidableEq

/-- The places with what a statement made of them; a refused one leaves them as they are. -/
def Places.finish (s : Places Uuid) : Except PlaceDbError (Places Uuid) → Places Uuid × Except ApiError Unit
  | .ok s' => (s', .ok ())
  | .error e => (s, .error e.mapDieselConflict)

def PlaceRequest.perform : PlaceRequest Uuid → Places Uuid × Except ApiError Unit
  | .createPlace id req =>
    match req.check cfg debugText s with
    | .error e => (s, .error e)
    | .ok () => s.finish (s.createPlace id req.row)
  | .updatePlace id req =>
    match cfg.requireEnabled with
    | .error e => (s, .error e)
    | .ok () =>
      match s.getPlace id with
      | .error e => (s, .error e.toApi)
      | .ok before =>
        match req.check cfg debugText s id before with
        | .error e => (s, .error e)
        | .ok () => s.finish (s.updatePlace id req.row)

end Handlers

namespace Places
variable {Uuid : Type} [DecidableEq Uuid] {s : Places Uuid} {cfg : PlaceConfig} {debugText : List String → String}

/-- The first place stands right below the second. -/
def Under (s : Places Uuid) (inner outer : Uuid) : Prop :=
  ∃ row, s.rows.lookup inner = some row ∧ row.parentId = some outer

/-- No place is above itself, and whatever is not special is configured deeper than what is right above it. -/
structure Ordered (cfg : PlaceConfig) (s : Places Uuid) : Prop where
  acyclic : ∀ id, ¬ Relation.TransGen s.Under id id
  deeper : ∀ id row parent outer, s.rows.lookup id = some row → row.parentId = some parent →
    s.rows.lookup parent = some outer → row.isSpecial = false → outer.isSpecial = false →
      cfg.Deeper outer.placeType row.placeType

theorem getPlace_eq_ok {id : Uuid} {row : Place Uuid} : s.getPlace id = .ok row ↔ s.rows.lookup id = some row := by
  unfold getPlace
  rcases s.rows.lookup id with _ | found
  · simp
  · simp

/-- A walk that comes to its end has met every place above where it began. -/
theorem mem_of_walk {steps : Nat} {current : Option Uuid} {acc chain : List (Uuid × Place Uuid)}
    (walked : s.walk steps current acc = .ok chain) : (∀ p ∈ acc, p ∈ chain) ∧
      ∀ first above, current = some first → Relation.ReflTransGen s.Under first above → ∃ p ∈ chain, p.1 = above := by
  induction steps generalizing current acc with
  | zero =>
    rcases current with _ | first
    · obtain rfl := Except.ok.inj walked
      exact ⟨fun p member => member, nofun⟩
    · cases walked
  | succ steps ih =>
    rcases current with _ | parent
    · obtain rfl := Except.ok.inj walked
      exact ⟨fun p member => member, nofun⟩
    · rw [walk] at walked
      rcases found : s.getPlace parent with e | row
      · rw [found] at walked
        cases walked
      · rw [found] at walked
        obtain ⟨kept, met⟩ := ih walked
        refine ⟨fun p member => kept p (List.mem_cons_of_mem _ member), ?_⟩
        rintro first above here path
        obtain rfl := Option.some.inj here
        rcases path.cases_head with same | ⟨next, ⟨row', there, named⟩, rest⟩
        · exact ⟨(parent, row), kept _ (List.mem_cons_self ..), same⟩
        · rw [getPlace_eq_ok.mp found] at there
          obtain rfl := Option.some.inj there
          exact met next above named rest

/-- What the check of a new parent lets through has nothing above it that is the place. -/
theorem not_above_of_checkParent {id parent : Uuid}
    (checked : UpdatePlaceRequest.checkParent s id (some parent) = .ok ()) :
    ¬ Relation.ReflTransGen s.Under parent id := by
  simp only [UpdatePlaceRequest.checkParent] at checked
  split at checked
  · cases checked
  · rename_i other
    split at checked
    · cases checked
    · rename_i chain walked
      split at checked
      · cases checked
      · rename_i clear
        intro path
        rcases path.cases_head with same | ⟨next, ⟨row, there, named⟩, rest⟩
        · exact other same
        · unfold placeAncestors at walked
          rw [getPlace_eq_ok.mpr there] at walked
          obtain ⟨p, member, same⟩ := (mem_of_walk walked).2 next id named rest
          exact clear (List.any_eq_true.mpr ⟨p, member, decide_eq_true same⟩)

theorem under_insert {id inner outer : Uuid} {row : Place Uuid} {t : Places Uuid}
    (written : t.rows = s.rows.insert id row) :
    t.Under inner outer ↔ (inner = id ∧ row.parentId = some outer) ∨ (inner ≠ id ∧ s.Under inner outer) := by
  unfold Under
  rw [written]
  by_cases same : inner = id
  · subst same
    rw [AList.lookup_insert]
    simp
  · rw [AList.lookup_insert_ne same]
    simp [same]

/-- A place moved to where it is not above itself makes no cycle. -/
theorem acyclic_insert {id : Uuid} {row : Place Uuid} {t : Places Uuid} (written : t.rows = s.rows.insert id row)
    (acyclic : ∀ x, ¬ Relation.TransGen s.Under x x)
    (clear : ∀ parent, row.parentId = some parent → ¬ Relation.ReflTransGen s.Under parent id) :
    ∀ x, ¬ Relation.TransGen t.Under x x := by
  -- A way up goes by the old parents, or by the new one once.
  have ways : ∀ x y, Relation.TransGen t.Under x y → Relation.TransGen s.Under x y ∨
      ∃ parent, row.parentId = some parent ∧ Relation.ReflTransGen s.Under x id ∧
        Relation.ReflTransGen s.Under parent y := by
    intro x y path
    induction path with
    | single edge =>
      rcases (under_insert written).mp edge with ⟨rfl, named⟩ | ⟨-, old⟩
      · exact .inr ⟨_, named, .refl, .refl⟩
      · exact .inl (.single old)
    | tail path edge ih =>
      rcases (under_insert written).mp edge with ⟨rfl, named⟩ | ⟨-, old⟩
      · rcases ih with old | ⟨parent, named', -, back⟩
        · exact .inr ⟨_, named, old.to_reflTransGen, .refl⟩
        · exact absurd back (clear parent named')
      · rcases ih with before | ⟨parent, named, up, on⟩
        · exact .inl (before.tail old)
        · exact .inr ⟨parent, named, up, on.tail old⟩
  intro x cycle
  rcases ways x x cycle with old | ⟨parent, named, up, on⟩
  · exact acyclic x old
  · exact clear parent named (on.trans up)

/-- A payload that is let through is a special root, or deeper than a parent that is not special. -/
theorem validatePlacePayload_spec {placeType : String} {parentId : Option Uuid} {isSpecial : Bool}
    (valid : validatePlacePayload cfg debugText s placeType parentId isSpecial = .ok ()) :
    ∀ parent outer, parentId = some parent →
      s.rows.lookup parent = some outer → isSpecial = false ∧
        (outer.isSpecial = false → cfg.Deeper outer.placeType placeType) := by
  rintro parent outer rfl there
  unfold validatePlacePayload at valid
  cases isSpecial with
  | true => cases valid
  | false =>
    refine ⟨rfl, fun ordinary => ?_⟩
    simp only [Bool.false_eq_true, if_false, getPlace_eq_ok.mpr there, ordinary] at valid
    split at valid
    · cases valid
    · rw [← PlaceConfig.validateParentChild_eq_ok]
      rcases judged : cfg.validateParentChild outer.placeType placeType with e | ⟨⟩
      · rw [judged] at valid
        cases valid
      · rfl

theorem write_spec {id : Uuid} {row : Place Uuid} : (∃ e, s.refusal id row = some e ∧ s.write id row = .error e) ∨
    s.refusal id row = none ∧ ∃ t : Places Uuid, s.write id row = .ok t ∧ t.rows = s.rows.insert id row := by
  unfold write
  split
  · rename_i e refused
    exact .inl ⟨e, refused, rfl⟩
  · rename_i accepted
    exact .inr ⟨accepted, _, rfl, rfl⟩

/-- Written where the checks let it, a place keeps the order just when what is right below it is deeper still. -/
theorem ordered_insert_iff {id : Uuid} {row : Place Uuid} {t : Places Uuid} (written : t.rows = s.rows.insert id row)
    (ordered : s.Ordered cfg) (clear : ∀ parent, row.parentId = some parent →
      ¬ Relation.ReflTransGen s.Under parent id)
    (below : ∀ parent outer, row.parentId = some parent → s.rows.lookup parent = some outer → row.isSpecial = false →
      outer.isSpecial = false → cfg.Deeper outer.placeType row.placeType) :
    t.Ordered cfg ↔ (row.isSpecial = true ∨ ∀ child inner, s.rows.lookup child = some inner →
      inner.parentId = some id →
      inner.isSpecial = false → cfg.Deeper row.placeType inner.placeType) := by
  have here : t.rows.lookup id = some row := by rw [written, AList.lookup_insert]
  have there : ∀ other, other ≠ id → t.rows.lookup other = s.rows.lookup other := by
    intro other different
    rw [written, AList.lookup_insert_ne different]
  constructor
  · intro after
    rw [or_iff_not_imp_left, Bool.not_eq_true]
    intro ordinary child inner found named innerOrdinary
    have different : child ≠ id := by
      rintro rfl
      exact ordered.acyclic child (.single ⟨inner, found, named⟩)
    exact after.deeper child inner id row ((there child different).trans found) named here innerOrdinary ordinary
  · intro spared
    refine ⟨acyclic_insert written ordered.acyclic clear, ?_⟩
    intro inner found parent outer foundInner named foundOuter innerOrdinary outerOrdinary
    by_cases mine : inner = id
    · subst mine
      obtain rfl := Option.some.inj (here.symm.trans foundInner)
      have apart : parent ≠ inner := fun same => clear parent named (same ▸ .refl)
      exact below parent outer named ((there parent apart).symm.trans foundOuter) innerOrdinary outerOrdinary
    · rw [there inner mine] at foundInner
      by_cases above : parent = id
      · subst above
        obtain rfl := Option.some.inj (here.symm.trans foundOuter)
        rcases spared with special | deeper
        · rw [special] at outerOrdinary
          cases outerOrdinary
        · exact deeper inner found foundInner named innerOrdinary
      · rw [there parent above] at foundOuter
        exact ordered.deeper inner found parent outer foundInner named foundOuter innerOrdinary outerOrdinary

end Places

section Runs
variable {Uuid : Type} [DecidableEq Uuid] (cfg : PlaceConfig) (debugText : List String → String)

/-- A change of a place that nothing refuses leaves what is right below it deeper, or makes the place special. -/
def PlaceRequest.SparesChildren (s : Places Uuid) : PlaceRequest Uuid → Prop
  | .createPlace .. => True
  | .updatePlace id req => ∀ before, s.rows.lookup id = some before → cfg.requireEnabled = .ok () →
    req.check cfg debugText s id before = .ok () → s.refusal id (req.row before) = none →
      (req.row before).isSpecial = true ∨ ∀ child inner, s.rows.lookup child = some inner → inner.parentId = some id →
        inner.isSpecial = false → cfg.Deeper (req.row before).placeType inner.placeType

variable {cfg debugText} {s : Places Uuid}

theorem Places.ordered_createPlace {id : Uuid} {req : CreatePlaceRequest Uuid} (ordered : s.Ordered cfg) :
    (PlaceRequest.perform cfg debugText s (.createPlace id req)).1.Ordered cfg := by
  unfold PlaceRequest.perform
  dsimp only
  split
  · exact ordered
  · rename_i checked
    have valid : validatePlacePayload cfg debugText s req.placeType req.parentId req.isSpecial = .ok () := by
      unfold CreatePlaceRequest.check at checked
      split at checked
      · cases checked
      · split at checked
        · cases checked
        · exact checked
    unfold Places.createPlace
    split
    · exact ordered
    · rename_i fresh
      rw [Bool.not_eq_true, Option.isSome_eq_false_iff, Option.isNone_iff_eq_none] at fresh
      rcases @Places.write_spec Uuid _ s id req.row with ⟨e, -, refused⟩ | ⟨accepted, t, made, written⟩
      · rw [refused]
        exact ordered
      · rw [made]
        -- Nothing is below a place that is not there yet.
        have nothing : ∀ child inner, s.rows.lookup child = some inner → inner.parentId ≠ some id := by
          intro child inner found named
          have there := s.references child inner id found named
          rw [fresh] at there
          cases there
        refine (Places.ordered_insert_iff written ordered ?_ ?_).mpr
          (.inr fun child inner found named => absurd named (nothing child inner found))
        · intro parent named path
          rcases path.cases_tail with same | ⟨last, -, ⟨inner, found, named'⟩⟩
          · have there := Places.parent_of_refusal accepted named
            rw [← same, fresh] at there
            cases there
          · exact nothing last inner found named'
        · intro parent outer named found _ outerOrdinary
          exact (Places.validatePlacePayload_spec valid parent outer named found).2 outerOrdinary

/-- A change goes through where nothing refuses it, and otherwise leaves everything as it is. -/
theorem perform_updatePlace_cases (id : Uuid) (req : UpdatePlaceRequest Uuid) :
    let done := (PlaceRequest.perform cfg debugText s (.updatePlace id req)).1
    (done = s ∧ ∀ before, s.rows.lookup id = some before → cfg.requireEnabled = .ok () →
      req.check cfg debugText s id before = .ok () → s.refusal id (req.row before) ≠ none) ∨
      ∃ before, s.rows.lookup id = some before ∧ cfg.requireEnabled = .ok () ∧
        req.check cfg debugText s id before = .ok () ∧
        s.refusal id (req.row before) = none ∧ done.rows = s.rows.insert id (req.row before) := by
  simp only [PlaceRequest.perform]
  rcases enabled : cfg.requireEnabled with e | ⟨⟩
  · exact .inl ⟨rfl, fun _ _ on => nomatch on⟩
  · dsimp only
    rcases there : s.rows.lookup id with _ | before
    · have absent : s.getPlace id = .error (.diesel .notFound) := by rw [Places.getPlace, there]
      rw [absent]
      exact .inl ⟨rfl, fun _ found => nomatch found⟩
    · rw [Places.getPlace_eq_ok.mpr there]
      dsimp only
      rcases checked : req.check cfg debugText s id before with e | ⟨⟩
      · refine .inl ⟨rfl, fun row found _ on => ?_⟩
        rw [← Option.some.inj found, checked] at on
        cases on
      · dsimp only
        rw [Places.updatePlace, there]
        dsimp only
        rcases @Places.write_spec Uuid _ s id (req.row before)
          with ⟨e, refused, failed⟩ | ⟨accepted, t, made, written⟩
        · rw [failed]
          refine .inl ⟨rfl, fun row found _ _ => ?_⟩
          rw [← Option.some.inj found, refused]
          exact Option.some_ne_none e
        · rw [made]
          exact .inr ⟨before, rfl, rfl, checked, accepted, written⟩

theorem Places.ordered_updatePlace_iff {id : Uuid} {req : UpdatePlaceRequest Uuid} (ordered : s.Ordered cfg) :
    (PlaceRequest.perform cfg debugText s (.updatePlace id req)).1.Ordered cfg ↔
      PlaceRequest.SparesChildren cfg debugText s (.updatePlace id req) := by
  rcases @perform_updatePlace_cases Uuid _ cfg debugText s id req with
    ⟨same, stopped⟩ | ⟨before, there, enabled, checked, accepted, written⟩
  · rw [same]
    exact iff_of_true ordered fun before there enabled checked accepted =>
      absurd accepted (stopped before there enabled checked)
  · have parts : UpdatePlaceRequest.checkParent s id (req.row before).parentId = .ok () ∧
        validatePlacePayload cfg debugText s (req.row before).placeType (req.row before).parentId
          (req.row before).isSpecial =
          .ok () := by
      unfold UpdatePlaceRequest.check at checked
      dsimp only at checked
      split at checked
      · cases checked
      · rename_i parent_
        exact ⟨parent_, checked⟩
    refine (Places.ordered_insert_iff written ordered ?_ ?_).trans
      ⟨?_, fun spares => spares before there enabled checked accepted⟩
    · intro parent named
      rw [named] at parts
      exact not_above_of_checkParent parts.1
    · intro parent outer named found _ outerOrdinary
      exact (validatePlacePayload_spec parts.2 parent outer named found).2 outerOrdinary
    · intro spared before' there' _ _ _
      rwa [Option.some.inj (there'.symm.trans there)]

theorem Places.ordered_perform_iff (ordered : s.Ordered cfg) (request : PlaceRequest Uuid) :
    (request.perform cfg debugText s).1.Ordered cfg ↔ request.SparesChildren cfg debugText s := by
  cases request with
  | createPlace id req => exact iff_of_true (ordered_createPlace ordered) trivial
  | updatePlace id req => exact ordered_updatePlace_iff ordered

/-- The tables of places, a request after another. -/
def placeMachine (cfg : PlaceConfig) (debugText : List String → String) (start : Places Uuid) :
    Machine (Places Uuid) (PlaceRequest Uuid) (Except ApiError Unit) where
  start := start
  step s request := request.perform cfg debugText s

/-- The tree of places keeps its order exactly as long as each change of a place spares what is right below it. -/
theorem places_keep_order_iff (cfg : PlaceConfig) (debugText : List String → String) (start : Places Uuid)
    (ordered : start.Ordered cfg) (requests : List (PlaceRequest Uuid)) :
    (∀ past, past <+: requests → ((placeMachine cfg debugText start).run past).Ordered cfg) ↔
      EveryStep (fun past request => request.SparesChildren cfg debugText
        ((placeMachine cfg debugText start).run past)) requests :=
  (placeMachine cfg debugText start).run_always_iff (fun s => s.Ordered cfg)
    (fun s request => request.SparesChildren cfg debugText s)
    ordered (fun _ request before => Places.ordered_perform_iff before request) requests

end Runs

/-- No places yet. -/
def noPlaces : Places Nat := ⟨∅, fun _ _ _ found => nomatch found⟩

def roomsAndSpots : PlaceConfig := ⟨true, ["Room", "Spot"]⟩

/-- A room, and a spot in it. -/
def benchInWorkshop : List (PlaceRequest Nat) :=
  [.createPlace 1 ⟨"Workshop", "Room", none, none, none, false⟩,
    .createPlace 2 ⟨"Bench", "Spot", some 1, none, none, false⟩]

theorem noPlaces_ordered : noPlaces.Ordered roomsAndSpots := by
  refine ⟨fun id cycle => ?_, fun _ _ _ _ found => nomatch found⟩
  obtain ⟨_, ⟨_, found, _⟩, _⟩ := Relation.TransGen.head'_iff.mp cycle
  cases found

theorem places_keep_order_iff_bench :
    (∀ past, past <+: benchInWorkshop →
      ((placeMachine roomsAndSpots (fun _ => "") noPlaces).run past).Ordered roomsAndSpots) ↔
      EveryStep (fun past request => request.SparesChildren roomsAndSpots (fun _ => "")
        ((placeMachine roomsAndSpots (fun _ => "") noPlaces).run past)) benchInWorkshop :=
  places_keep_order_iff roomsAndSpots (fun _ => "") noPlaces noPlaces_ordered benchInWorkshop

/-- The room is made a spot, and nobody asks about the spot in it. -/
theorem workshop_becomes_spot :
    ¬ ((placeMachine roomsAndSpots (fun _ => "") noPlaces).run
      (benchInWorkshop ++ [.updatePlace 1 ⟨none, some "Spot", none, none, none, none⟩])).Ordered roomsAndSpots := by
  intro ordered
  obtain ⟨i, j, outer, inner, less⟩ := ordered.deeper 2 ⟨some 1, "Spot", "Bench", none, none, false⟩ 1
    ⟨none, "Spot", "Workshop", none, none, false⟩ (by decide +kernel) rfl (by decide +kernel) rfl rfl
  rw [outer] at inner
  exact absurd (Option.some.inj inner) less.ne

end CoopSpaces
