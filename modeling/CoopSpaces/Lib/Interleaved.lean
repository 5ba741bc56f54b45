import Mathlib.Tactic.Common

/-! Transactions of which each statement sees what others have committed before it. -/

/-- What each statement is: when it goes through, what it makes of the data, and what it notes down. -/
structure Statements (Query Data Note : Type) where
  passes : Query → Data → List Note → Bool
  change : Query → Data → Data
  notes : Query → Data → List Note

namespace Statements
variable {Query Data Note : Type} (stmts : Statements Query Data Note)

/-- The statements in their order, from the n-th on. Before each, others make of the data what they
do, or the statement fails. -/
def run (others : Nat → Data → Option Data) : Nat → List Query → Data × List Note → Option (Data × List Note)
  | _, [], s => some s
  | n, q :: rest, s =>
    (others n s.1).bind fun data =>
      if stmts.passes q data s.2 then run others (n + 1) rest (stmts.change q data, s.2 ++ stmts.notes q data)
        else none

/-- What statements make of the data among themselves. -/
def changed (queries : List Query) (data : Data) : Data := queries.foldl (fun data q => stmts.change q data) data

/-- What statements note down among themselves. -/
def noted : List Query → Data → List Note
  | [], _ => []
  | q :: rest, data => stmts.notes q data ++ noted rest (stmts.change q data)

variable {stmts}

theorem changed_append (first later : List Query) (data : Data) :
    stmts.changed (first ++ later) data = stmts.changed later (stmts.changed first data) := List.foldl_append

theorem noted_append (first later : List Query) (data : Data) :
    stmts.noted (first ++ later) data = stmts.noted first data ++ stmts.noted later (stmts.changed first data) := by
  induction first generalizing data with
  | nil => rfl
  | cons q rest ih =>
    rw [List.cons_append, noted, ih, noted, List.append_assoc]
    rfl

theorem run_append (others : Nat → Data → Option Data) (n : Nat) (first later : List Query) (s : Data × List Note) :
    stmts.run others n (first ++ later) s = (stmts.run others n first s).bind
      (stmts.run others (n + first.length) later) := by
  induction first generalizing n s with
  | nil => rfl
  | cons q rest ih =>
    rw [List.cons_append, run, run, Option.bind_assoc]
    refine Option.bind_congr fun data _ => ?_
    split
    · rw [ih, List.length_cons, Nat.add_right_comm, Nat.add_assoc]
    · rfl

/-- What one sees of the data is as if no others were there, if they leave that alone and the
statements touch nothing else of it. -/
theorem run_view {others : Nat → Data → Option Data} {view : Data → Data} {kept : Note → Bool} {queries : List Query}
    (alone : ∀ n data data', others n data = some data' → view data' = view data)
    (changes : ∀ q ∈ queries, ∀ data, view (stmts.change q data) = stmts.change q (view data))
    (notes : ∀ q ∈ queries, ∀ data, (stmts.notes q data).filter kept = (stmts.notes q (view data)).filter kept)
    {n : Nat} {s s' : Data × List Note} (ran : stmts.run others n queries s = some s') :
    view s'.1 = stmts.changed queries (view s.1) ∧
      s'.2.filter kept = s.2.filter kept ++ (stmts.noted queries (view s.1)).filter kept := by
  induction queries generalizing n s with
  | nil =>
    obtain rfl := Option.some.inj ran
    exact ⟨rfl, (List.append_nil _).symm⟩
  | cons q rest ih =>
    obtain ⟨data, there, goes⟩ := Option.bind_eq_some_iff.mp ran
    split at goes
    · have same := alone n _ _ there
      have first := List.mem_cons_self (a := q) (l := rest)
      obtain ⟨data', notes'⟩ := ih (fun q there => changes q (List.mem_cons_of_mem _ there))
        (fun q there => notes q (List.mem_cons_of_mem _ there)) goes
      rw [changes q first, same] at data' notes'
      refine ⟨data', ?_⟩
      rw [notes', List.filter_append, notes q first, same, noted, List.filter_append, List.append_assoc]
    · cases goes

end Statements
