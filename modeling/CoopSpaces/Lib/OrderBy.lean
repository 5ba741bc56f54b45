import Mathlib.Data.List.Chain
import Mathlib.Data.List.Sort

/-- What a query may return that orders its rows by a column: rows that tie there come in
any order. -/
structure OrderedBy {R K : Type} [LE K] (key : R → K) (rows result : List R) : Prop where
  perm : result.Perm rows
  sorted : result.Pairwise fun a b => key a ≤ key b

/-- Two lists of rows with one list of keys are one where the keys tell the rows apart. -/
theorem List.eq_of_map_eq_of_nodup {R A : Type} {key : R → A} {rows others : List R} (distinct : (rows.map key).Nodup)
    (among : ∀ row ∈ others, row ∈ rows) (same : others.map key = rows.map key) : others = rows := by
  have lengths : others.length = rows.length := by simpa using congrArg List.length same
  refine List.ext_getElem lengths fun i bound bound' => ?_
  have keys : key others[i] = key rows[i] := by
    have at_ := List.getElem_of_eq same (i := i) (by simpa using bound)
    simpa using at_
  exact List.inj_on_of_nodup_map distinct (among _ (List.getElem_mem bound)) (List.getElem_mem bound') keys

namespace OrderedBy
variable {R K : Type} [LinearOrder K] {key : R → K} {rows result : List R}

theorem insertionSort (key : R → K) (rows : List R) :
    OrderedBy key rows (rows.insertionSort fun a b => key a ≤ key b) := by
  have total : Std.Total fun a b : R => key a ≤ key b := ⟨fun a b => le_total (key a) (key b)⟩
  have trans : IsTrans R fun a b => key a ≤ key b := ⟨fun a b c => le_trans⟩
  exact ⟨List.perm_insertionSort _ rows, List.pairwise_insertionSort _ rows⟩

theorem exists_result (key : R → K) (rows : List R) : ∃ result, OrderedBy key rows result :=
  ⟨_, insertionSort key rows⟩

theorem eq_of_lt (increasing : rows.Pairwise fun a b => key a < key b) (ordered : OrderedBy key rows result) :
    result = rows := by
  have keys : (rows.map key).Nodup := List.pairwise_map.mpr (increasing.imp fun less => less.ne)
  have ties : ∀ a b, a ∈ result → b ∈ rows → key a ≤ key b → key b ≤ key a → a = b := fun a b inResult inRows le ge =>
    List.inj_on_of_nodup_map keys (ordered.perm.mem_iff.mp inResult) inRows (le_antisymm le ge)
  exact ordered.perm.eq_of_pairwise ties ordered.sorted (increasing.imp le_of_lt)

/-- Exactly when the column increases down the rows does every result keep their order. -/
theorem forall_eq_iff (distinct : rows.Nodup) :
    (∀ result, OrderedBy key rows result → result = rows) ↔ rows.Pairwise fun a b => key a < key b := by
  refine ⟨fun kept => ?_, fun increasing result ordered => eq_of_lt increasing ordered⟩
  obtain ⟨result, ordered⟩ := exists_result key rows
  have sorted : rows.Pairwise fun a b => key a ≤ key b := kept result ordered ▸ ordered.sorted
  have chain : rows.IsChain fun a b => key a < key b := by
    refine List.isChain_iff_forall_rel_of_append_cons_cons.mpr fun a b front back split => ?_
    have apart : a ≠ b := by
      rintro rfl
      have twice := (List.nodup_append.mp (split ▸ distinct)).2.1
      exact (List.nodup_cons.mp twice).1 (List.mem_cons_self ..)
    have le : key a ≤ key b := by
      have behind := (List.pairwise_append.mp (split ▸ sorted)).2.1
      exact (List.pairwise_cons.mp behind).1 b (List.mem_cons_self ..)
    refine le.lt_of_ne fun tie => apart ?_
    -- rows that tie may come the other way round
    have swapped : OrderedBy key rows (front ++ b :: a :: back) := by
      refine ⟨split ▸ (List.Perm.swap a b back).append_left front, ?_⟩
      have before := split ▸ sorted
      simp only [List.pairwise_append, List.pairwise_cons, List.mem_cons, forall_eq_or_imp] at before ⊢
      obtain ⟨inFront, ⟨⟨_, aBack⟩, bBack, inBack⟩, across⟩ := before
      exact ⟨inFront, ⟨⟨tie.ge, bBack⟩, aBack, inBack⟩,
        fun row there => ⟨(across row there).2.1, (across row there).1, (across row there).2.2⟩⟩
    have same := (kept _ swapped).trans split
    exact (List.cons.inj (List.append_cancel_left same)).1.symm
  exact chain.pairwise

end OrderedBy
