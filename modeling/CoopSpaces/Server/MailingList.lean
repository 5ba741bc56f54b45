import CoopSpaces.Lib.Text
import Mathlib.Data.List.Dedup
import Mathlib.Data.List.Sort
import Mathlib.Data.String.Basic

namespace CoopSpaces

/-- An address as it is compared: trimmed, and its ASCII letters lowercased. -/
def normalizeEmail (email : String) : String := (trim email).map Char.toLower

/-- Whether a member should be on the mailing list. -/
def intendedSubscribed (isActive emailVerified optedOut : Bool) : Bool := isActive && emailVerified && !optedOut

/-- What a pass should do: add those who are missing, remove strangers, and opt out those who left. -/
@[ext]
structure ReconcilePlan where
  toAdd : List String
  toRemove : List String
  toOptOut : List String
deriving DecidableEq

/-- The set of some addresses, each once and in order. -/
def addressSet (emails : List String) : List String := (emails.map normalizeEmail).dedup.insertionSort (· ≤ ·)

def reconcilePlan (intended current past protected_ : List String) : ReconcilePlan :=
  let intended := addressSet intended
  let current := addressSet current
  let past := addressSet past
  let protected_ := addressSet protected_
  { toAdd := intended.filter fun e => e ∉ current ∧ e ∉ past
    toRemove := current.filter fun e => e ∉ intended ∧ e ∉ protected_
    toOptOut := intended.filter fun e => e ∈ past ∧ e ∉ current }

/-- What the group and the roster list once a plan has been carried out. -/
structure Rosters where
  intended : List String
  current : List String
  past : List String

def ReconcilePlan.apply (plan : ReconcilePlan) (r : Rosters) : Rosters where
  intended := r.intended.filter fun e => normalizeEmail e ∉ plan.toOptOut
  current := (r.current.filter fun e => normalizeEmail e ∉ plan.toRemove) ++ plan.toAdd
  past := r.past ++ plan.toRemove

section Plan
variable {intended current past protected_ : List String} {e : String}

theorem normalizeEmail_idem (email : String) : normalizeEmail (normalizeEmail email) = normalizeEmail email := by
  unfold normalizeEmail
  rw [trim_map isWhiteSpace_toLower]
  refine String.toList_inj.mp ?_
  rw [String.toList_map, String.toList_map, List.map_map]
  exact List.map_congr_left fun c _ => toLower_toLower c

theorem mem_addressSet {emails : List String} : e ∈ addressSet emails ↔
    ∃ email ∈ emails, normalizeEmail email = e := by
  rw [addressSet, (List.perm_insertionSort _ _).mem_iff, List.mem_dedup, List.mem_map]

theorem nodup_addressSet (emails : List String) : (addressSet emails).Nodup :=
  (List.perm_insertionSort _ _).nodup_iff.mpr (List.nodup_dedup _)

theorem mem_toAdd : e ∈ (reconcilePlan intended current past protected_).toAdd ↔
    e ∈ addressSet intended ∧ e ∉ addressSet current ∧ e ∉ addressSet past := by
  rw [reconcilePlan, List.mem_filter, decide_eq_true_iff]

theorem mem_toRemove : e ∈ (reconcilePlan intended current past protected_).toRemove ↔
    e ∈ addressSet current ∧ e ∉ addressSet intended ∧ e ∉ addressSet protected_ := by
  rw [reconcilePlan, List.mem_filter, decide_eq_true_iff]

theorem mem_toOptOut : e ∈ (reconcilePlan intended current past protected_).toOptOut ↔
    e ∈ addressSet intended ∧ e ∈ addressSet past ∧ e ∉ addressSet current := by
  rw [reconcilePlan, List.mem_filter, decide_eq_true_iff]

theorem normalizeEmail_of_mem {emails : List String} (there : e ∈ addressSet emails) : normalizeEmail e = e := by
  obtain ⟨email, -, rfl⟩ := mem_addressSet.mp there
  exact normalizeEmail_idem email

theorem mem_addressSet_append {emails others : List String} :
    e ∈ addressSet (emails ++ others) ↔ e ∈ addressSet emails ∨ e ∈ addressSet others := by
  simp only [mem_addressSet, List.mem_append, or_and_right, exists_or]

theorem mem_addressSet_filter {emails kept : List String} :
    e ∈ addressSet (emails.filter fun e => normalizeEmail e ∉ kept) ↔ e ∈ addressSet emails ∧ e ∉ kept := by
  simp only [mem_addressSet, List.mem_filter, decide_eq_true_iff]
  constructor
  · rintro ⟨email, ⟨there, free⟩, rfl⟩
    exact ⟨⟨email, there, rfl⟩, free⟩
  · rintro ⟨⟨email, there, rfl⟩, free⟩
    exact ⟨email, ⟨there, free⟩, rfl⟩

/-- The parts of a plan: no address twice, none in two of them, and nothing to do once it is carried out. -/
structure ReconcilePlan.Sound (plan : ReconcilePlan) (r : Rosters) (protected_ : List String) : Prop where
  nodup : plan.toAdd.Nodup ∧ plan.toRemove.Nodup ∧ plan.toOptOut.Nodup
  disjoint : plan.toAdd.Disjoint plan.toRemove ∧ plan.toAdd.Disjoint plan.toOptOut ∧
    plan.toRemove.Disjoint plan.toOptOut
  settles : reconcilePlan (plan.apply r).intended (plan.apply r).current (plan.apply r).past protected_ = ⟨[], [], []⟩

theorem reconcilePlan_disjoint :
    let plan := reconcilePlan intended current past protected_
    plan.toAdd.Disjoint plan.toRemove ∧ plan.toAdd.Disjoint plan.toOptOut ∧ plan.toRemove.Disjoint plan.toOptOut := by
  refine ⟨fun e add remove => ?_, fun e add leave => ?_, fun e remove leave => ?_⟩
  · exact (mem_toAdd.mp add).2.1 (mem_toRemove.mp remove).1
  · exact (mem_toAdd.mp add).2.2 (mem_toOptOut.mp leave).2.1
  · exact (mem_toRemove.mp remove).2.1 (mem_toOptOut.mp leave).1

theorem current_of_intended (r : Rosters)
    (still : e ∈ addressSet ((reconcilePlan r.intended r.current r.past protected_).apply r).intended) :
    e ∈ addressSet ((reconcilePlan r.intended r.current r.past protected_).apply r).current := by
  obtain ⟨intended, stays⟩ := mem_addressSet_filter.mp still
  refine mem_addressSet_append.mpr ?_
  by_cases listed : e ∈ addressSet r.current
  · exact .inl (mem_addressSet_filter.mpr ⟨listed, fun removed => (mem_toRemove.mp removed).2.1 intended⟩)
  · have fresh : e ∉ addressSet r.past := fun left => stays (mem_toOptOut.mpr ⟨intended, left, listed⟩)
    exact .inr (mem_addressSet.mpr ⟨e, mem_toAdd.mpr ⟨intended, listed, fresh⟩, normalizeEmail_of_mem intended⟩)

theorem intended_or_protected_of_current (r : Rosters)
    (listed : e ∈ addressSet ((reconcilePlan r.intended r.current r.past protected_).apply r).current) :
    e ∈ addressSet ((reconcilePlan r.intended r.current r.past protected_).apply r).intended ∨
      e ∈ addressSet protected_ := by
  by_contra other
  obtain ⟨notIntended, notProtected⟩ := not_or.mp other
  rcases mem_addressSet_append.mp listed with kept | added
  · obtain ⟨before, notRemoved⟩ := mem_addressSet_filter.mp kept
    refine notRemoved (mem_toRemove.mpr ⟨before, fun intended => notIntended ?_, notProtected⟩)
    exact mem_addressSet_filter.mpr ⟨intended, fun leaves => (mem_toOptOut.mp leaves).2.2 before⟩
  · obtain ⟨email, add, rfl⟩ := mem_addressSet.mp added
    rw [normalizeEmail_of_mem (mem_toAdd.mp add).1] at notIntended
    refine notIntended (mem_addressSet_filter.mpr ⟨(mem_toAdd.mp add).1, fun leaves => ?_⟩)
    exact (mem_toAdd.mp add).2.2 (mem_toOptOut.mp leaves).2.1

theorem reconcilePlan_eq_nil (all : ∀ e ∈ addressSet intended, e ∈ addressSet current)
    (only : ∀ e ∈ addressSet current, e ∈ addressSet intended ∨ e ∈ addressSet protected_) :
    reconcilePlan intended current past protected_ = ⟨[], [], []⟩ := by
  have toAdd : (reconcilePlan intended current past protected_).toAdd = [] :=
    List.eq_nil_iff_forall_not_mem.mpr fun e add => (mem_toAdd.mp add).2.1 (all e (mem_toAdd.mp add).1)
  have toRemove : (reconcilePlan intended current past protected_).toRemove = [] :=
    List.eq_nil_iff_forall_not_mem.mpr fun e remove =>
      (only e (mem_toRemove.mp remove).1).elim (mem_toRemove.mp remove).2.1 (mem_toRemove.mp remove).2.2
  have toOptOut : (reconcilePlan intended current past protected_).toOptOut = [] :=
    List.eq_nil_iff_forall_not_mem.mpr fun e leaves => (mem_toOptOut.mp leaves).2.2 (all e (mem_toOptOut.mp leaves).1)
  exact ReconcilePlan.ext toAdd toRemove toOptOut

theorem reconcilePlan_sound (r : Rosters) (protected_ : List String) :
    (reconcilePlan r.intended r.current r.past protected_).Sound r protected_ where
  nodup := ⟨(nodup_addressSet _).filter _, (nodup_addressSet _).filter _, (nodup_addressSet _).filter _⟩
  disjoint := reconcilePlan_disjoint
  settles := reconcilePlan_eq_nil (fun _ still => current_of_intended r still) fun _ listed =>
    intended_or_protected_of_current r listed

end Plan

end CoopSpaces
