import Mathlib.Algebra.Order.BigOperators.Group.List
import Mathlib.Data.List.AList
import Mathlib.Data.List.Sort
import Mathlib.Tactic.Abel

/-! Sums over the rows of a keyed list, and what a write of one row does to them. -/

namespace AList
variable {K V M : Type}

theorem mapVal_nodupKeys (g : K → V → V) (s : AList fun _ : K => V) :
    (s.entries.map fun e => (⟨e.1, g e.1 e.2⟩ : Sigma fun _ : K => V)).NodupKeys := by
  have keys : (s.entries.map fun e => (⟨e.1, g e.1 e.2⟩ : Sigma fun _ : K => V)).keys = s.entries.keys := by
    rw [List.keys, List.map_map]
    rfl
  rw [List.NodupKeys, keys]
  exact s.nodupKeys

/-- The same keys, each value changed by a function. -/
def mapVal (g : K → V → V) (s : AList fun _ : K => V) : AList fun _ : K => V where
  entries := s.entries.map fun e => ⟨e.1, g e.1 e.2⟩
  nodupKeys := mapVal_nodupKeys g s

theorem mem_entries_mapVal {g : K → V → V} {s : AList fun _ : K => V} {k : K} {w : V} :
    (⟨k, w⟩ : Sigma fun _ : K => V) ∈ (s.mapVal g).entries ↔ ∃ v, ⟨k, v⟩ ∈ s.entries ∧ g k v = w := by
  constructor
  · intro member
    obtain ⟨⟨k', v⟩, there, same⟩ := List.mem_map.mp member
    cases same
    exact ⟨v, there, rfl⟩
  · rintro ⟨v, there, rfl⟩
    exact List.mem_map.mpr ⟨⟨k, v⟩, there, rfl⟩

section Lookup
variable [DecidableEq K]

@[simp] theorem lookup_mapVal (g : K → V → V) (s : AList fun _ : K => V) (k : K) :
    (s.mapVal g).lookup k = (s.lookup k).map (g k) := by
  cases found : s.lookup k with
  | none =>
    rw [Option.map_none, lookup_eq_none]
    intro member
    obtain ⟨w, there⟩ := Option.isSome_iff_exists.mp (lookup_isSome.mpr member)
    obtain ⟨v, before, -⟩ := mem_entries_mapVal.mp (mem_lookup_iff.mp there)
    cases found.symm.trans (mem_lookup_iff.mpr before)
  | some v =>
    exact mem_lookup_iff.mpr (mem_entries_mapVal.mpr ⟨v, mem_lookup_iff.mp found, rfl⟩)

theorem lookup_foldl_insert (keys : List K) (v : V) (s : AList fun _ : K => V) (k : K) :
    (keys.foldl (fun s key => s.insert key v) s).lookup k = if k ∈ keys then some v else s.lookup k := by
  induction keys generalizing s with
  | nil => rfl
  | cons first rest ih =>
    rw [List.foldl_cons, ih]
    by_cases later : k ∈ rest
    · rw [if_pos later, if_pos (List.mem_cons_of_mem _ later)]
    · rw [if_neg later]
      by_cases same : k = first
      · rw [same, lookup_insert, if_pos (List.mem_cons_self ..)]
      · rw [lookup_insert_ne same, if_neg (List.not_mem_cons_of_ne_of_not_mem same later)]

end Lookup

section Total
variable [AddCommGroup M]

/-- The sum of a figure over all rows. -/
def total (f : K → V → M) (s : AList fun _ : K => V) : M := (s.entries.map fun e => f e.1 e.2).sum

theorem total_mapVal (f : K → V → M) (g : K → V → V) (s : AList fun _ : K => V) :
    (s.mapVal g).total f = s.total fun k v => f k (g k v) := by
  simp only [total, mapVal, List.map_map]
  rfl

variable [DecidableEq K]

theorem total_insert_of_none {s : AList fun _ : K => V} {k : K} (absent : s.lookup k = none) (f : K → V → M) (w : V) :
    (s.insert k w).total f = f k w + s.total f := by
  unfold total
  rw [entries_insert_of_notMem (lookup_eq_none.mp absent), List.map_cons, List.sum_cons]

/-- Writing over a row takes the old figure out and puts the new one in. -/
theorem total_insert_of_some {s : AList fun _ : K => V} {k : K} {v : V} (found : s.lookup k = some v) (f : K → V → M)
    (w : V) : (s.insert k w).total f = s.total f - f k v + f k w := by
  have member : k ∈ s.entries.keys := by
    have isKey : k ∈ s := lookup_isSome.mp (Option.isSome_of_eq_some found)
    exact isKey
  obtain ⟨v', front, back, -, split, erased⟩ := List.exists_of_kerase member
  have here : (⟨k, v'⟩ : Sigma fun _ : K => V) ∈ s.entries := by
    rw [split]
    exact List.mem_append_right _ (List.mem_cons_self ..)
  obtain rfl := Option.some.inj ((mem_lookup_iff.mpr here).symm.trans found)
  unfold total
  rw [entries_insert, erased, split]
  simp only [List.map_cons, List.map_append, List.sum_cons, List.sum_append]
  abel

end Total

theorem total_nonneg [AddCommGroup M] [PartialOrder M] [IsOrderedAddMonoid M] {f : K → V → M}
    {s : AList fun _ : K => V}
    (nonneg : ∀ e ∈ s.entries, 0 ≤ f e.1 e.2) : 0 ≤ s.total f := by
  refine List.sum_nonneg fun x member => ?_
  obtain ⟨e, there, rfl⟩ := List.mem_map.mp member
  exact nonneg e there

/-! Sums by key, collected from a list. -/

section Collected
variable [DecidableEq K] [AddCommMonoid M]

/-- Add to what stands under a key, or to nothing. -/
def addAt (s : AList fun _ : K => M) (item : K × M) : AList fun _ : K => M :=
  s.insert item.1 ((s.lookup item.1).getD 0 + item.2)

/-- What a list holds for a key, all together. -/
def sumAt (items : List (K × M)) (k : K) : M := (items.map fun item => if item.1 = k then item.2 else 0).sum

theorem sumAt_perm {items items' : List (K × M)} (same : items.Perm items') (k : K) :
    sumAt items k = sumAt items' k :=
  (same.map _).sum_eq

theorem sumAt_eq_zero {items : List (K × M)} {k : K} (absent : k ∉ items.map (·.1)) : sumAt items k = 0 := by
  refine List.sum_eq_zero fun x member => ?_
  obtain ⟨item, listed, rfl⟩ := List.mem_map.mp member
  refine if_neg fun key => absent ?_
  rw [← key]
  exact List.mem_map_of_mem listed

theorem lookup_foldl_addAt (items : List (K × M)) (s : AList fun _ : K => M) (k : K) :
    (items.foldl addAt s).lookup k =
      if k ∈ items.map (·.1) then some ((s.lookup k).getD 0 + sumAt items k) else s.lookup k := by
  induction items generalizing s with
  | nil => rfl
  | cons first rest ih =>
    rw [List.foldl_cons, ih]
    by_cases same : k = first.1
    · subst same
      have here : (addAt s first).lookup first.1 = some ((s.lookup first.1).getD 0 + first.2) := lookup_insert s
      have whole : sumAt (first :: rest) first.1 = first.2 + sumAt rest first.1 := by
        simp only [sumAt, List.map_cons, List.sum_cons, if_true]
      rw [here, List.map_cons, if_pos (List.mem_cons_self ..), whole, ← add_assoc]
      split
      · rfl
      · rename_i absent
        rw [sumAt_eq_zero absent, add_zero]
    · have there : (addAt s first).lookup k = s.lookup k := lookup_insert_ne same
      have whole : sumAt (first :: rest) k = sumAt rest k := by
        simp only [sumAt, List.map_cons, List.sum_cons, if_neg (Ne.symm same), zero_add]
      have keys : k ∈ (first :: rest).map (·.1) ↔ k ∈ rest.map (·.1) := by
        rw [List.map_cons, List.mem_cons, or_iff_right same]
      rw [there, whole]
      exact if_congr keys.symm rfl rfl

/-- What a list holds for a key can be read off the sums it was added into. -/
theorem getD_lookup_foldl_addAt (items : List (K × M)) {s : AList fun _ : K => M} {k : K}
    (none_yet : (s.lookup k).getD 0 = 0) :
    ((items.foldl addAt s).lookup k).getD 0 = sumAt items k := by
  rw [lookup_foldl_addAt]
  split
  · rw [Option.getD_some, none_yet, zero_add]
  next absent =>
    rw [none_yet, sumAt_eq_zero absent]

/-- The list may itself be picked from another. -/
theorem sumAt_filterMap {A : Type} (f : A → Option (K × M)) (items : List A) (k : K) :
    sumAt (items.filterMap f) k =
      (items.map fun a => ((f a).map fun item => if item.1 = k then item.2 else 0).getD 0).sum := by
  induction items with
  | nil => rfl
  | cons first rest ih =>
    rw [List.map_cons, List.sum_cons, ← ih, List.filterMap_cons]
    rcases f first with _ | item
    · rw [Option.map_none, Option.getD_none, zero_add]
    · rw [Option.map_some, Option.getD_some, sumAt, List.map_cons, List.sum_cons]
      rfl

end Collected

section Sorted
variable [LinearOrder K]

/-- The rows in the order of their keys. -/
def sorted (s : AList fun _ : K => V) : List (K × V) :=
  (s.entries.map fun e => (e.1, e.2)).insertionSort fun a b => a.1 ≤ b.1

theorem mem_sorted {s : AList fun _ : K => V} {k : K} {v : V} : (k, v) ∈ s.sorted ↔ s.lookup k = some v := by
  rw [sorted, List.mem_insertionSort, List.mem_map, ← Option.mem_def, mem_lookup_iff]
  constructor
  · rintro ⟨⟨k', v'⟩, member, same⟩
    cases same
    exact member
  · exact fun member => ⟨⟨k, v⟩, member, rfl⟩

theorem nodup_keys_sorted (s : AList fun _ : K => V) : (s.sorted.map (·.1)).Nodup := by
  have perm : (s.sorted.map (·.1)).Perm s.entries.keys := by
    have keys : s.entries.keys = (s.entries.map fun e => (e.1, e.2)).map (·.1) := by
      rw [List.map_map]
      rfl
    rw [keys]
    exact (List.perm_insertionSort _ _).map _
  exact perm.nodup_iff.mpr s.nodupKeys

theorem find?_sorted (s : AList fun _ : K => V) (k : K) :
    (s.sorted.find? fun row => row.1 = k).map (·.2) = s.lookup k := by
  refine Option.ext fun v => ?_
  rw [Option.map_eq_some_iff, ← mem_sorted]
  constructor
  · rintro ⟨⟨k', v'⟩, found, rfl⟩
    have fits := List.find?_some found
    obtain rfl : k' = k := of_decide_eq_true fits
    exact List.mem_of_find?_eq_some found
  · intro member
    rcases found : s.sorted.find? fun row => row.1 = k with _ | row
    · have absent := List.find?_eq_none.mp found (k, v) member
      exact absurd (decide_eq_true rfl) absent
    · have fits := List.find?_some found
      have same : row.1 = k := of_decide_eq_true fits
      have one := List.inj_on_of_nodup_map s.nodup_keys_sorted (List.mem_of_find?_eq_some found) member same
      exact ⟨row, found, congrArg (·.2) one⟩

/-- What stands under every key alike is the same list of rows. -/
theorem sorted_congr {s t : AList fun _ : K => V} (same : ∀ k, s.lookup k = t.lookup k) : s.sorted = t.sorted := by
  have entries : s.entries.Perm t.entries := by
    refine List.lookup_ext s.nodupKeys t.nodupKeys fun k v => ?_
    have here := same k
    unfold lookup at here
    rw [here]
  have perm : s.sorted.Perm t.sorted :=
    (List.perm_insertionSort _ _).trans ((entries.map _).trans (List.perm_insertionSort _ _).symm)
  have : Std.Total fun a b : K × V => a.1 ≤ b.1 := ⟨fun a b => le_total a.1 b.1⟩
  have : IsTrans (K × V) fun a b => a.1 ≤ b.1 := ⟨fun a b c first second => first.trans second⟩
  refine List.Perm.eq_of_pairwise (fun a b left right below above => ?_) (List.pairwise_insertionSort _ _)
    (List.pairwise_insertionSort _ _) perm
  -- one key, one row
  obtain ⟨k, v⟩ := a
  obtain ⟨k', v'⟩ := b
  obtain rfl : k = k' := le_antisymm below above
  have found := mem_sorted.mp left
  rw [same, mem_sorted.mp right] at found
  rw [Option.some.inj found]

end Sorted

end AList
