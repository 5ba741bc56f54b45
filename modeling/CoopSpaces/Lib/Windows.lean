import Mathlib.Data.List.Induction

/-- What a count over a log is made of: something counted at an instant, or everything so far cleared. -/
inductive TallyMark
  | counted (instant : Nat)
  | cleared
  deriving DecidableEq

namespace TallyMark

def instant : TallyMark → Option Nat
  | .counted instant => some instant
  | .cleared => none

/-- The instants counted since everything was last cleared. -/
def sinceCleared (log : List TallyMark) : List Nat :=
  log.foldl (fun instants mark => match mark with
    | .counted instant => instants ++ [instant]
    | .cleared => []) []

@[simp] theorem sinceCleared_counted (log : List TallyMark) (instant : Nat) :
    sinceCleared (log ++ [.counted instant]) = sinceCleared log ++ [instant] := by
  simp only [sinceCleared, List.foldl_append, List.foldl_cons, List.foldl_nil]

@[simp] theorem sinceCleared_cleared (log : List TallyMark) : sinceCleared (log ++ [.cleared]) = [] := by
  simp only [sinceCleared, List.foldl_append, List.foldl_cons, List.foldl_nil]

theorem sinceCleared_append {front back : List TallyMark} (uncleared : .cleared ∉ back) :
    sinceCleared (front ++ back) = sinceCleared front ++ back.filterMap instant := by
  induction back using List.reverseRecOn with
  | nil => simp only [List.append_nil, List.filterMap_nil]
  | append_singleton back mark ih =>
    rw [List.mem_append, not_or, List.mem_singleton] at uncleared
    cases mark with
    | counted instant_ =>
      rw [← List.append_assoc, sinceCleared_counted, ih uncleared.1, List.filterMap_append, List.append_assoc]
      rfl
    | cleared => exact absurd rfl uncleared.2

end TallyMark

/-- How many of the instants lie less than a width before now. -/
def recent (width now : Nat) (instants : List Nat) : Nat := instants.countP fun instant => now < instant + width

section Recent
variable {width now later : Nat} {instants : List Nat}

theorem recent_mono (past : now ≤ later) : recent width later instants ≤ recent width now instants := by
  refine List.countP_mono_left fun instant _ still => ?_
  simp only [decide_eq_true_eq] at still ⊢
  omega

theorem recent_eq_zero (old : ∀ instant ∈ instants, instant + width ≤ now) : recent width now instants = 0 := by
  refine List.countP_eq_zero.mpr fun instant member => ?_
  have passed := old instant member
  simp only [decide_eq_true_eq]
  omega

theorem recent_snoc_le (instant : Nat) :
    recent width now (instants ++ [instant]) ≤ recent width now instants + 1 := by
  have one : [instant].countP (fun instant => decide (now < instant + width)) ≤ 1 := List.countP_le_length
  rw [recent, List.countP_append]
  exact Nat.add_le_add_left one _

end Recent

/-- No window of the width, with nothing cleared in between, holds more counted instants than the limit. -/
def AtMost (limit width : Nat) (log : List TallyMark) : Prop :=
  ∀ before middle after, log = before ++ middle ++ after → .cleared ∉ middle → ∀ start,
    (middle.filterMap TallyMark.instant).countP (fun instant => start ≤ instant ∧ instant < start + width) ≤ limit

namespace AtMost
variable {limit width : Nat} {log : List TallyMark}

theorem nil : AtMost limit width [] := by
  intro before middle after split _ start
  obtain ⟨both, -⟩ := List.append_eq_nil_iff.mp split.symm
  obtain ⟨-, rfl⟩ := List.append_eq_nil_iff.mp both
  exact Nat.zero_le limit

/-- The windows that end before the last mark are those of the log without it. -/
theorem snoc_of_last (bounded : AtMost limit width log) {mark : TallyMark}
    (last : ∀ before middle, log = before ++ middle → .cleared ∉ middle ++ [mark] → ∀ start,
      ((middle ++ [mark]).filterMap TallyMark.instant).countP
        (fun instant => start ≤ instant ∧ instant < start + width) ≤ limit) :
    AtMost limit width (log ++ [mark]) := by
  intro before middle after split uncleared start
  rcases List.eq_nil_or_concat after with rfl | ⟨front, final, rfl⟩
  · rw [List.append_nil] at split
    rcases List.eq_nil_or_concat middle with rfl | ⟨front, final, rfl⟩
    · exact Nat.zero_le limit
    · rw [List.concat_eq_append] at split uncleared ⊢
      rw [← List.append_assoc] at split
      obtain ⟨same, ends⟩ := List.append_inj' split rfl
      obtain rfl := List.singleton_inj.mp ends
      exact last before front same uncleared start
  · rw [List.concat_eq_append, ← List.append_assoc] at split
    obtain ⟨same, -⟩ := List.append_inj' split rfl
    exact bounded before middle front same uncleared start

theorem snoc_cleared (bounded : AtMost limit width log) : AtMost limit width (log ++ [.cleared]) :=
  bounded.snoc_of_last fun _ _ _ uncleared => absurd (List.mem_append_right _ (List.mem_singleton_self _)) uncleared

/-- One more is counted while fewer than the limit are recent. -/
theorem snoc_counted (bounded : AtMost limit width log) {now : Nat}
    (room : recent width now (TallyMark.sinceCleared log) < limit) :
    AtMost limit width (log ++ [.counted now]) := by
  refine bounded.snoc_of_last fun before middle split uncleared start => ?_
  rw [List.mem_append, not_or] at uncleared
  rw [List.filterMap_append, List.countP_append]
  have only : [TallyMark.counted now].filterMap TallyMark.instant = [now] := rfl
  rw [only]
  by_cases inside : start ≤ now ∧ now < start + width
  · -- what the window holds besides is still recent now
    have held : (middle.filterMap TallyMark.instant).countP
      (fun instant => decide (start ≤ instant ∧ instant < start + width)) ≤
        recent width now (middle.filterMap TallyMark.instant) := by
      refine List.countP_mono_left fun instant _ within => ?_
      simp only [decide_eq_true_eq] at within ⊢
      omega
    have part : recent width now (middle.filterMap TallyMark.instant) ≤
        recent width now (TallyMark.sinceCleared log) := by
      rw [split, TallyMark.sinceCleared_append uncleared.1]
      exact (List.sublist_append_right _ _).countP_le
    have one : [now].countP (fun instant => decide (start ≤ instant ∧ instant < start + width)) ≤ 1 :=
      List.countP_le_length
    omega
  · have none_ : [now].countP (fun instant => decide (start ≤ instant ∧ instant < start + width)) = 0 := by
      rw [List.countP_singleton, if_neg (mt of_decide_eq_true inside)]
    have rest := bounded before middle [] (by rw [List.append_nil, split]) uncleared.1 start
    omega

end AtMost
