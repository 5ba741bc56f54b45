import CoopSpaces.Lib.OrderBy

/-- A list of two values in turn, the first first. -/
def Alternates {α : Type} (first second : α) (l : List α) : Prop :=
  ∀ i x, l[i]? = some x → x = if i % 2 = 0 then first else second

namespace Alternates
variable {α : Type} {first second : α} {l : List α}

theorem nil : Alternates first second [] := fun i x here => by simp at here

/-- It stands at its first value after an odd number of turns. -/
theorem getLast?_eq_first (apart : first ≠ second) (alternates : Alternates first second l) :
    l.getLast? = some first ↔ l.length % 2 = 1 := by
  rw [List.getLast?_eq_getElem?]
  constructor
  · intro last
    have turn := alternates _ _ last
    split at turn
    · have bound : l.length - 1 < l.length := (List.getElem?_eq_some_iff.mp last).1
      omega
    · exact absurd turn apart
  · intro odd
    have bound : l.length - 1 < l.length := by omega
    have here := List.getElem?_eq_getElem bound
    have turn := alternates _ _ here
    rw [if_pos (by omega)] at turn
    rw [here, turn]

theorem snoc_iff [DecidableEq α] (apart : first ≠ second) (alternates : Alternates first second l) {x : α} :
    Alternates first second (l ++ [x]) ↔ x = if l.getLast? = some first then second else first := by
  have turn : (if l.length % 2 = 0 then first else second) = if l.getLast? = some first then second else first := by
    by_cases odd : l.length % 2 = 1
    · rw [if_pos ((alternates.getLast?_eq_first apart).mpr odd), if_neg (by omega)]
    · rw [if_neg fun last => odd ((alternates.getLast?_eq_first apart).mp last), if_pos (by omega)]
  rw [← turn]
  constructor
  · exact fun all => all l.length x (by simp)
  · intro next i y here
    rcases lt_or_ge i l.length with before | after
    · rw [List.getElem?_append_left before] at here
      exact alternates i y here
    · have bound : i < (l ++ [x]).length := (List.getElem?_eq_some_iff.mp here).1
      rw [List.length_append, List.length_singleton] at bound
      obtain rfl : i = l.length := by omega
      rw [List.getElem?_append_right le_rfl, Nat.sub_self, List.getElem?_cons_zero] at here
      rw [← Option.some.inj here]
      exact next

end Alternates

/-- Of rows written one after another the latest is the last. -/
theorem head?_insertionSort_of_increasing {R K : Type} [LinearOrder K] {key : R → K} {rows : List R}
    (increasing : rows.Pairwise fun a b => key a < key b) :
    (rows.insertionSort fun a b => key b ≤ key a).head? = rows.getLast? := by
  have down : rows.reverse.Pairwise fun a b => OrderDual.toDual (key a) < OrderDual.toDual (key b) :=
    List.pairwise_reverse.mpr increasing
  have ordered := OrderedBy.insertionSort (fun row => OrderDual.toDual (key row)) rows
  have same := OrderedBy.eq_of_lt down ⟨ordered.perm.trans (List.reverse_perm rows).symm, ordered.sorted⟩
  rw [← List.head?_reverse]
  exact congrArg List.head? same

theorem filter_filterMap_eq_nil {α β : Type} {g : α → Option β} {about : β → Bool} {l : List α}
    (none_about : ∀ a ∈ l, ∀ b, g a = some b → ¬ about b = true) : (l.filterMap g).filter about = [] := by
  refine List.filter_eq_nil_iff.mpr fun b there => ?_
  obtain ⟨a, inList, made⟩ := List.mem_filterMap.mp there
  exact none_about a inList b made

/-- Where each item makes at most one row, about its own key, the rows about a key are the one its item makes. -/
theorem filter_filterMap_of_key {α β K : Type} {key : α → K} {g : α → Option β} {about : β → Bool} {l : List α}
    {a : α}
    (distinct : (l.map key).Nodup) (there : a ∈ l)
    (own : ∀ x ∈ l, ∀ y, g x = some y → (about y = true ↔ key x = key a)) :
    (l.filterMap g).filter about = (g a).toList := by
  obtain ⟨front, back, rfl⟩ := List.append_of_mem there
  rw [List.map_append, List.map_cons, List.nodup_middle, List.nodup_cons, List.mem_append, not_or] at distinct
  have before : (front.filterMap g).filter about = [] := filter_filterMap_eq_nil fun x inFront y made same =>
    distinct.1.1 ((own x (List.mem_append_left _ inFront) y made).mp same ▸ List.mem_map_of_mem inFront)
  have after : (back.filterMap g).filter about = [] := filter_filterMap_eq_nil fun x inBack y made same =>
    distinct.1.2 ((own x (List.mem_append_right _ (List.mem_cons_of_mem _ inBack)) y made).mp same ▸
      List.mem_map_of_mem inBack)
  rw [List.filterMap_append, List.filter_append, before, List.nil_append, List.filterMap_cons]
  rcases made : g a with _ | y
  · exact after
  · rw [List.filter_cons_of_pos ((own a there y made).mpr rfl), after]
    rfl
