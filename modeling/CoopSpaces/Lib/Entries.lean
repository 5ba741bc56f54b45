import Mathlib.Data.List.Nodup
import Mathlib.Order.Lattice

/-! A map as the list of its entries in the order of their keys. -/
namespace Entries
variable {K V : Type} [LinearOrder K]

def get (key : K) : List (K × V) → Option V
  | [] => none
  | (k, v) :: rest => if k = key then some v else get key rest

/-- Change the value of a key, or make one where it has none. -/
def upsert (key : K) (f : Option V → V) : List (K × V) → List (K × V)
  | [] => [(key, f none)]
  | (k, v) :: rest =>
    if key < k then (key, f none) :: (k, v) :: rest
    else if key = k then (k, f (some v)) :: rest
    else (k, v) :: upsert key f rest

-- the equations that the proofs below rewrite with
attribute [local simp] get upsert

def Sorted (entries : List (K × V)) : Prop := entries.Pairwise fun a b => a.1 < b.1

variable {key other : K} {f g : Option V → V} {entries rest : List (K × V)}

theorem mem_of_get {v : V} (found : get key entries = some v) : (key, v) ∈ entries := by
  induction entries with
  | nil => cases found
  | cons entry rest ih =>
    simp only [get] at found
    split at found
    · rename_i same
      cases found
      exact List.mem_cons.mpr (.inl (Prod.ext same.symm rfl))
    · exact List.mem_cons_of_mem _ (ih found)

theorem Sorted.tail {entry : K × V} (sorted : Sorted (entry :: rest)) : Sorted rest :=
  (List.pairwise_cons.mp sorted).2

theorem Sorted.head_lt {entry : K × V} (sorted : Sorted (entry :: rest)) : ∀ later ∈ rest, entry.1 < later.1 :=
  (List.pairwise_cons.mp sorted).1

theorem get_of_mem (sorted : Sorted entries) {v : V} (there : (key, v) ∈ entries) : get key entries = some v := by
  induction entries with
  | nil => cases there
  | cons entry rest ih =>
    simp only [get]
    rcases List.mem_cons.mp there with rfl | later
    · rw [if_pos rfl]
    · rw [if_neg (sorted.head_lt _ later).ne]
      exact ih sorted.tail later

/-- Where a key that is there stands. -/
theorem exists_split_of_get (sorted : Sorted entries) {v : V} (found : get key entries = some v) :
    ∃ front back, entries = front ++ (key, v) :: back ∧ (∀ entry ∈ front ++ back, entry.1 ≠ key) ∧
      ∀ f, upsert key f entries = front ++ (key, f (some v)) :: back := by
  induction entries with
  | nil => cases found
  | cons entry rest ih =>
    obtain ⟨k, u⟩ := entry
    simp only [get] at found
    split at found
    · rename_i same
      subst same
      cases found
      refine ⟨[], rest, rfl, fun entry member => (sorted.head_lt entry member).ne', fun f => ?_⟩
      simp only [upsert, lt_irrefl, if_false, if_true, List.nil_append]
    · rename_i apart
      obtain ⟨front, back, split, others, upserts⟩ := ih sorted.tail found
      have later : k < key := sorted.head_lt _ (mem_of_get found)
      refine ⟨(k, u) :: front, back,
        by rw [split, List.cons_append], List.forall_mem_cons.mpr ⟨apart, others⟩, fun f => ?_⟩
      simp only [upsert, if_neg later.not_gt, if_neg (Ne.symm apart), upserts, List.cons_append]

/-- Where a key that is not there is put. -/
theorem exists_split_of_none (missing : get key entries = none) :
    ∃ front back, entries = front ++ back ∧ ∀ f, upsert key f entries = front ++ (key, f none) :: back := by
  induction entries with
  | nil => exact ⟨[], [], rfl, fun f => rfl⟩
  | cons entry rest ih =>
    obtain ⟨k, u⟩ := entry
    simp only [get] at missing
    split at missing
    · cases missing
    · rename_i apart
      by_cases before : key < k
      · exact ⟨[], (k, u) :: rest, rfl, fun f => by simp only [upsert, if_pos before, List.nil_append]⟩
      · obtain ⟨front, back, split, upserts⟩ := ih missing
        refine ⟨(k, u) :: front, back, by rw [split, List.cons_append], fun f => ?_⟩
        simp only [upsert, if_neg before, if_neg (Ne.symm apart), upserts, List.cons_append]

theorem mem_upsert_key {entry : K × V} (there : entry ∈ upsert key f entries) : entry.1 = key ∨ entry ∈ entries := by
  induction entries with
  | nil => exact .inl (congrArg Prod.fst (List.mem_singleton.mp there))
  | cons first rest ih =>
    obtain ⟨k, u⟩ := first
    simp only [upsert] at there
    split at there
    · rcases List.mem_cons.mp there with rfl | later
      · exact .inl rfl
      · exact .inr later
    · split at there
      · rename_i same
        rcases List.mem_cons.mp there with rfl | later
        · exact .inl same.symm
        · exact .inr (List.mem_cons_of_mem _ later)
      · rcases List.mem_cons.mp there with rfl | later
        · exact .inr List.mem_cons_self
        · exact (ih later).imp_right (List.mem_cons_of_mem _)

theorem Sorted.upsert (sorted : Sorted entries) : Sorted (upsert key f entries) := by
  induction entries with
  | nil => exact List.pairwise_singleton _ _
  | cons first rest ih =>
    obtain ⟨k, u⟩ := first
    simp only [Entries.upsert]
    split
    · rename_i before
      refine List.pairwise_cons.mpr ⟨fun entry member => ?_, sorted⟩
      rcases List.mem_cons.mp member with rfl | later
      · exact before
      · exact before.trans (sorted.head_lt _ later)
    · split
      · exact List.pairwise_cons.mpr ⟨sorted.head_lt, sorted.tail⟩
      · rename_i after apart
        refine List.pairwise_cons.mpr ⟨fun entry member => ?_, ih sorted.tail⟩
        rcases mem_upsert_key member with same | later
        · exact same ▸ lt_of_le_of_ne (not_lt.mp after) (Ne.symm apart)
        · exact sorted.head_lt _ later

theorem get_upsert_self (sorted : Sorted entries) : get key (upsert key f entries) = some (f (get key entries)) := by
  rcases found : get key entries with _ | v
  · obtain ⟨front, back, -, upserts⟩ := exists_split_of_none found
    refine get_of_mem sorted.upsert ?_
    rw [upserts]
    exact List.mem_append_right _ List.mem_cons_self
  · obtain ⟨front, back, -, -, upserts⟩ := exists_split_of_get sorted found
    refine get_of_mem sorted.upsert ?_
    rw [upserts]
    exact List.mem_append_right _ List.mem_cons_self

theorem get_upsert_of_ne (apart : other ≠ key) : get other (upsert key f entries) = get other entries := by
  induction entries with
  | nil => simp only [upsert, get, if_neg (Ne.symm apart)]
  | cons first rest ih =>
    obtain ⟨k, u⟩ := first
    simp only [upsert]
    split
    · simp only [get, if_neg (Ne.symm apart)]
    · split
      · rename_i same
        subst same
        simp only [get, if_neg (Ne.symm apart)]
      · simp only [get, ih]

theorem upsert_upsert : upsert key f (upsert key g entries) = upsert key (fun old => f (some (g old))) entries := by
  induction entries with
  | nil => simp only [upsert, lt_irrefl, if_false, if_true]
  | cons first rest ih =>
    obtain ⟨k, u⟩ := first
    by_cases before : key < k
    · simp only [upsert, if_pos before, lt_irrefl, if_false, if_true]
    · by_cases same : key = k
      · simp only [upsert, if_neg before, if_pos same]
      · simp only [upsert, if_neg before, if_neg same, ih]

/-- Changes of two keys may be made in either order. -/
theorem upsert_comm (apart : key ≠ other) :
    upsert key f (upsert other g entries) = upsert other g (upsert key f entries) := by
  induction entries with
  | nil =>
    rcases lt_or_gt_of_ne apart with less | more
    · simp only [upsert, if_pos less, if_neg less.not_gt, if_neg (Ne.symm apart)]
    · simp only [upsert, if_pos more, if_neg more.not_gt, if_neg apart]
  | cons first rest ih =>
    obtain ⟨k, u⟩ := first
    rcases lt_trichotomy key k with before | rfl | after
    · rcases lt_trichotomy other k with before' | rfl | after'
      · rcases lt_or_gt_of_ne apart with less | more
        · simp only [upsert, if_pos before, if_pos before', if_pos less, if_neg less.not_gt, if_neg (Ne.symm apart)]
        · simp only [upsert, if_pos before, if_pos before', if_pos more, if_neg more.not_gt, if_neg apart]
      · simp only [upsert, if_pos before, lt_irrefl, if_false, if_true, if_neg before.not_gt, if_neg (Ne.symm apart)]
      · have less := before.trans after'
        simp only [upsert, if_pos before, if_neg after'.not_gt, if_neg after'.ne', if_neg less.not_gt,
          if_neg less.ne']
    · rcases lt_trichotomy other key with before' | same | after'
      · simp only [upsert, if_pos before', lt_irrefl, if_false, if_true, if_neg before'.not_gt, if_neg apart]
      · exact absurd same.symm apart
      · simp only [upsert, lt_irrefl, if_false, if_true, if_neg after'.not_gt, if_neg after'.ne']
    · rcases lt_trichotomy other k with before' | rfl | after'
      · have less := before'.trans after
        simp only [upsert, if_pos before', if_neg after.not_gt, if_neg after.ne', if_neg less.not_gt, if_neg less.ne']
      · simp only [upsert, lt_irrefl, if_false, if_true, if_neg after.not_gt, if_neg after.ne']
      · simp only [upsert, if_neg after.not_gt, if_neg after.ne', if_neg after'.not_gt, if_neg after'.ne', ih]

end Entries
