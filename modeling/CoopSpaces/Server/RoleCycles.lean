import CoopSpaces.Server.Permissions

namespace CoopSpaces
namespace RoleGraph
variable {Uuid : Type} [DecidableEq Uuid] {g : RoleGraph Uuid} {longest : Nat} {n : Uuid}
    {mark after : Table Uuid Mark}

open Worklist

/-- One parent looked at on the walk from a role. -/
def look (g : RoleGraph Uuid) (longest : Nat) (walked : Bool × Table Uuid Mark) (p : Uuid) : Bool × Table Uuid Mark :=
  if walked.1 then walked
  else
    match walked.2 p with
    | some .grey => (true, walked.2)
    | some .black => (false, walked.2)
    | none => g.dfs longest p walked.2

theorem dfs_succ (g : RoleGraph Uuid) (longest : Nat) (n : Uuid) (mark : Table Uuid Mark) :
    g.dfs (longest + 1) n mark =
      let walked := (targets g.inherits n).foldl (g.look longest) (false, mark.insert n .grey)
      if walked.1 then walked else (false, walked.2.insert n .black) := rfl

theorem foldl_look_found (parents : List Uuid) (mark : Table Uuid Mark) :
    parents.foldl (g.look longest) (true, mark) = (true, mark) := by
  induction parents with
  | nil => rfl
  | cons p rest ih => exact ih

/-- What a walk that comes upon no cycle does to the marks: those there were stay, the roles
it marks are black, and every way on from a black role comes to an end. -/
structure Cleared (g : RoleGraph Uuid) (mark after : Table Uuid Mark) : Prop where
  kept : ∀ x colour, mark x = some colour → after x = some colour
  black : ∀ x, mark x = none → after x = none ∨ after x = some .black
  ends : (∀ x, mark x = some .black → Ends g.inherits x) → ∀ x, after x = some .black → Ends g.inherits x

omit [DecidableEq Uuid] in
theorem Cleared.refl (mark : Table Uuid Mark) : g.Cleared mark mark :=
  ⟨fun _ _ => id, fun _ => .inl, id⟩

omit [DecidableEq Uuid] in
theorem Cleared.trans {middle : Table Uuid Mark} (first : g.Cleared mark middle) (second : g.Cleared middle after) :
    g.Cleared mark after where
  kept x colour found := second.kept x colour (first.kept x colour found)
  black x white := by
    rcases first.black x white with still | done_
    · exact second.black x still
    · exact .inr (second.kept x _ done_)
  ends atStart := second.ends (first.ends atStart)

/-- How many of the listed roles are not marked. -/
def white (roles : List Uuid) (mark : Table Uuid Mark) : Nat := roles.countP fun x => (mark x).isNone

omit [DecidableEq Uuid] in
theorem Cleared.white_le (cleared : g.Cleared mark after) (roles : List Uuid) :
    white roles after ≤ white roles mark := by
  refine List.countP_mono_left fun x _ none_ => ?_
  rcases found : mark x with _ | colour
  · rfl
  · rw [cleared.kept x colour found] at none_
    cases none_

theorem white_insert_lt {roles : List Uuid} {colour : Mark} (listed : n ∈ roles) (unmarked : mark n = none) :
    white roles (mark.insert n colour) < white roles mark := by
  have fewer : ∀ list : List Uuid, white list (mark.insert n colour) ≤ white list mark := by
    intro list
    refine List.countP_mono_left fun x _ none_ => ?_
    rw [Table.insert_apply] at none_
    split at none_
    · cases none_
    · exact none_
  obtain ⟨front, back, rfl⟩ := List.append_of_mem listed
  have before := fewer front
  have behind := fewer back
  simp only [white] at before behind
  simp only [white, List.countP_append, List.countP_cons, Table.insert_self, unmarked, Option.isNone_some,
    Option.isNone_none, Bool.false_eq_true, if_false, if_true]
  omega

/-- What a walk from a role promises: it comes upon no cycle and the role is cleared. -/
def Clears (g : RoleGraph Uuid) (walk : Uuid → Table Uuid Mark → Bool × Table Uuid Mark) (roles : List Uuid)
    (longest : Nat) :
    Prop :=
  ∀ n mark, n ∈ roles → mark n = none → white roles mark ≤ longest → (walk n mark).1 = false →
    g.Cleared mark (walk n mark).2 ∧ (walk n mark).2 n = some .black

/-- The parents looked at one after another are all cleared, if none is on the path. -/
theorem cleared_foldl_look {roles parents : List Uuid} (listed : ∀ p ∈ parents, p ∈ roles)
    (clears : g.Clears (g.dfs longest) roles longest) (room : white roles mark ≤ longest)
    (quiet : (parents.foldl (g.look longest) (false, mark)).1 = false) :
    g.Cleared mark (parents.foldl (g.look longest) (false, mark)).2 ∧
      ∀ p ∈ parents, (parents.foldl (g.look longest) (false, mark)).2 p = some .black := by
  induction parents generalizing mark with
  | nil => exact ⟨Cleared.refl mark, fun p member => by cases member⟩
  | cons p rest ih =>
    have inRoles := fun q member => listed q (List.mem_cons_of_mem p member)
    -- what the first parent leaves: nothing found, and it is black
    have first : ∃ middle, g.look longest (false, mark) p = (false, middle) ∧ g.Cleared mark middle ∧
        middle p = some .black := by
      rcases found : mark p with _ | _ | _
      · have walked : g.look longest (false, mark) p = g.dfs longest p mark := by
          simp only [look, found, Bool.false_eq_true, if_false]
        rcases result : g.dfs longest p mark with ⟨cycle, middle⟩
        cases cycle with
        | true =>
          rw [List.foldl_cons, walked, result, foldl_look_found] at quiet
          cases quiet
        | false =>
          have none_ : (g.dfs longest p mark).1 = false := by rw [result]
          have cleared := clears p mark (listed p (List.mem_cons_self ..)) found room none_
          rw [result] at cleared
          exact ⟨middle, walked.trans result, cleared⟩
      · have cycle : g.look longest (false, mark) p = (true, mark) := by
          simp only [look, found, Bool.false_eq_true, if_false]
        rw [List.foldl_cons, cycle, foldl_look_found] at quiet
        cases quiet
      · have done_ : g.look longest (false, mark) p = (false, mark) := by
          simp only [look, found, Bool.false_eq_true, if_false]
        exact ⟨mark, done_, Cleared.refl mark, found⟩
    obtain ⟨middle, looked, cleared, black⟩ := first
    rw [List.foldl_cons, looked] at quiet ⊢
    have less : white roles middle ≤ longest := (cleared.white_le roles).trans room
    obtain ⟨later, others⟩ := ih inRoles less quiet
    refine ⟨cleared.trans later, fun q member => ?_⟩
    rcases List.mem_cons.mp member with rfl | behind
    · exact later.kept _ _ black
    · exact others q behind

/-- A walk as long as there are roles to stand on that comes upon no cycle clears where it starts. -/
theorem clears_dfs {roles : List Uuid} (targets_ : ∀ edge ∈ g.inherits, edge.2 ∈ roles) (longest : Nat) :
    g.Clears (g.dfs longest) roles longest := by
  induction longest with
  | zero =>
    intro n mark listed unmarked room
    have some_ : white roles (mark.insert n .grey) < white roles mark := white_insert_lt listed unmarked
    omega
  | succ longest ih =>
    intro n mark listed unmarked room quiet
    rw [dfs_succ] at quiet ⊢
    have parents : ∀ p ∈ targets g.inherits n, p ∈ roles := fun p member => targets_ _ (mem_targets.mp member)
    have less : white roles (mark.insert n .grey) ≤ longest := by
      have fewer : white roles (mark.insert n .grey) < white roles mark := white_insert_lt listed unmarked
      omega
    dsimp only at quiet ⊢
    split at quiet
    · rename_i cycle
      rw [cycle] at quiet
      cases quiet
    rename_i none_
    rw [if_neg none_]
    obtain ⟨cleared, black⟩ := cleared_foldl_look parents ih less (Bool.eq_false_iff.mpr none_)
    generalize ((targets g.inherits n).foldl (g.look longest) (false, mark.insert n .grey)).2 = walked
      at cleared black
    show g.Cleared mark (walked.insert n .black) ∧ (walked.insert n .black) n = some .black
    refine ⟨⟨fun x colour found => ?_, fun x white_ => ?_, fun atStart x isBlack => ?_⟩, Table.insert_self _ _ _⟩
    · have other : x ≠ n := by
        rintro rfl
        rw [unmarked] at found
        cases found
      rw [Table.insert_of_ne _ _ other]
      refine cleared.kept x colour ?_
      rw [Table.insert_of_ne _ _ other]
      exact found
    · by_cases same : x = n
      · subst same
        exact .inr (Table.insert_self _ _ _)
      · rw [Table.insert_of_ne _ _ same]
        refine cleared.black x ?_
        rw [Table.insert_of_ne _ _ same]
        exact white_
    · have before : ∀ y, (mark.insert n .grey) y = some .black → Ends g.inherits y := by
        intro y marked
        by_cases same : y = n
        · subst same
          rw [Table.insert_self] at marked
          cases marked
        · rw [Table.insert_of_ne _ _ same] at marked
          exact atStart y marked
      by_cases same : x = n
      · subst same
        exact Acc.intro x fun p edge => cleared.ends before p (black p (mem_targets.mpr edge))
      · rw [Table.insert_of_ne _ _ same] at isBlack
        exact cleared.ends before x isBlack

omit [DecidableEq Uuid] in
theorem Cleared.grey (cleared : g.Cleared mark after) {x : Uuid} (onPath : after x = some .grey) :
    mark x = some .grey := by
  rcases found : mark x with _ | colour
  · rcases cleared.black x found with none_ | black
    · rw [none_] at onPath
      cases onPath
    · rw [black] at onPath
      cases onPath
  · rw [cleared.kept x colour found] at onPath
    exact onPath

/-- The roles on the path lead to this one. -/
def Leads (g : RoleGraph Uuid) (mark : Table Uuid Mark) (n : Uuid) : Prop :=
  ∀ x, mark x = some .grey → Relation.ReflTransGen (fun a b => (a, b) ∈ g.inherits) x n

/-- What a walk finds is a cycle. -/
def Finds (g : RoleGraph Uuid) (walk : Uuid → Table Uuid Mark → Bool × Table Uuid Mark) (roles : List Uuid)
    (longest : Nat) :
    Prop :=
  ∀ n mark, n ∈ roles → mark n = none → white roles mark ≤ longest → (walk n mark).1 = true → g.Leads mark n →
    ¬Acyclic g.inherits

theorem not_acyclic_of_foldl_look {roles parents : List Uuid} (listed : ∀ p ∈ parents, p ∈ roles)
    (edges : ∀ p ∈ parents, (n, p) ∈ g.inherits) (clears : g.Clears (g.dfs longest) roles longest)
    (finds : g.Finds (g.dfs longest) roles longest) (room : white roles mark ≤ longest) (leads : g.Leads mark n)
    (cycle : (parents.foldl (g.look longest) (false, mark)).1 = true) : ¬Acyclic g.inherits := by
  induction parents generalizing mark with
  | nil => cases cycle
  | cons p rest ih =>
    have inRoles := fun q member => listed q (List.mem_cons_of_mem p member)
    have onward := fun q member => edges q (List.mem_cons_of_mem p member)
    have edge : (n, p) ∈ g.inherits := edges p (List.mem_cons_self ..)
    rw [List.foldl_cons] at cycle
    rcases found : mark p with _ | _ | _
    · have walked : g.look longest (false, mark) p = g.dfs longest p mark := by
        simp only [look, found, Bool.false_eq_true, if_false]
      have here : p ∈ roles := listed p (List.mem_cons_self ..)
      rw [walked] at cycle
      rcases result : g.dfs longest p mark with ⟨_ | _, middle⟩
      · have none_ : (g.dfs longest p mark).1 = false := by rw [result]
        obtain ⟨cleared, -⟩ := clears p mark here found room none_
        rw [result] at cleared cycle
        exact ih inRoles onward ((cleared.white_le roles).trans room)
          (fun x onPath => leads x (cleared.grey onPath)) cycle
      · have some_ : (g.dfs longest p mark).1 = true := by rw [result]
        exact finds p mark here found room some_ fun x onPath => (leads x onPath).tail edge
    · exact fun acyclic => acyclic p ((Relation.TransGen.tail' (leads p found) edge))
    · have done_ : g.look longest (false, mark) p = (false, mark) := by
        simp only [look, found, Bool.false_eq_true, if_false]
      rw [done_] at cycle
      exact ih inRoles onward room leads cycle

/-- An edge back into the path closes a cycle. -/
theorem finds_dfs {roles : List Uuid} (targets_ : ∀ edge ∈ g.inherits, edge.2 ∈ roles) (longest : Nat) :
    g.Finds (g.dfs longest) roles longest := by
  induction longest with
  | zero =>
    intro n mark listed unmarked room
    have some_ : white roles (mark.insert n .grey) < white roles mark := white_insert_lt listed unmarked
    omega
  | succ longest ih =>
    intro n mark listed unmarked room cycle leads
    rw [dfs_succ] at cycle
    dsimp only at cycle
    split at cycle
    · have less : white roles (mark.insert n .grey) ≤ longest := by
        have fewer : white roles (mark.insert n .grey) < white roles mark := white_insert_lt listed unmarked
        omega
      have leads' : g.Leads (mark.insert n .grey) n := by
        intro x onPath
        by_cases same : x = n
        · rw [same]
        · rw [Table.insert_of_ne _ _ same] at onPath
          exact leads x onPath
      exact not_acyclic_of_foldl_look (fun p member => targets_ _ (mem_targets.mp member)) (fun p => mem_targets.mp)
        (clears_dfs targets_ longest) ih less leads' cycle
    · cases cycle

/-- The walks from role after role, as long as none has come upon a cycle. -/
def sweep (g : RoleGraph Uuid) (longest : Nat) (walked : Bool × Table Uuid Mark) (n : Uuid) :
    Bool × Table Uuid Mark :=
  if walked.1 ∨ (walked.2 n).isSome then walked else g.dfs longest n walked.2

theorem foldl_sweep_found (nodes : List Uuid) (mark : Table Uuid Mark) :
    nodes.foldl (g.sweep longest) (true, mark) = (true, mark) := by
  induction nodes with
  | nil => rfl
  | cons n rest ih =>
    rw [List.foldl_cons, sweep, if_pos (.inl rfl)]
    exact ih

/-- Role after role: either a cycle is found and is one, or all are cleared. -/
theorem sweep_spec {roles nodes : List Uuid} (targets_ : ∀ edge ∈ g.inherits, edge.2 ∈ roles)
    (listed : ∀ n ∈ nodes, n ∈ roles)
    (room : white roles mark ≤ longest) (settled : ∀ x, mark x ≠ some .grey)
    (ends : ∀ x, mark x = some .black → Ends g.inherits x) :
    ((nodes.foldl (g.sweep longest) (false, mark)).1 = true → ¬Acyclic g.inherits) ∧
      ((nodes.foldl (g.sweep longest) (false, mark)).1 = false → ∀ n ∈ nodes, Ends g.inherits n) := by
  induction nodes generalizing mark with
  | nil => exact ⟨fun found => (by cases found), fun _ n member => (by cases member)⟩
  | cons n rest ih =>
    have inRoles := fun m member => listed m (List.mem_cons_of_mem n member)
    rw [List.foldl_cons]
    rcases found : mark n with _ | colour
    · have walked : g.sweep longest (false, mark) n = g.dfs longest n mark := by
        rw [sweep, if_neg (by simp [found])]
      have here : n ∈ roles := listed n (List.mem_cons_self ..)
      rw [walked]
      rcases result : g.dfs longest n mark with ⟨_ | _, middle⟩
      · have none_ : (g.dfs longest n mark).1 = false := by rw [result]
        obtain ⟨cleared, black⟩ := clears_dfs targets_ longest n mark here found room none_
        rw [result] at cleared black
        have ends' := cleared.ends ends
        obtain ⟨cyclic, clear⟩ := ih inRoles ((cleared.white_le roles).trans room)
          (fun x onPath => settled x (cleared.grey onPath)) ends'
        refine ⟨cyclic, fun quiet m member => ?_⟩
        rcases List.mem_cons.mp member with rfl | behind
        · exact ends' m black
        · exact clear quiet m behind
      · have some_ : (g.dfs longest n mark).1 = true := by rw [result]
        have cyclic := finds_dfs targets_ longest n mark here found room some_ fun x onPath =>
          absurd onPath (settled x)
        rw [foldl_sweep_found]
        exact ⟨fun _ => cyclic, fun quiet => by cases quiet⟩
    · have marked : (mark n).isSome = true := by
        rw [found]
        rfl
      have skipped : g.sweep longest (false, mark) n = (false, mark) := by
        rw [sweep, if_pos (.inr marked)]
      have black : mark n = some .black := by
        cases colour with
        | grey => exact absurd found (settled n)
        | black => exact found
      rw [skipped]
      obtain ⟨cyclic, clear⟩ := ih inRoles room settled ends
      refine ⟨cyclic, fun quiet m member => ?_⟩
      rcases List.mem_cons.mp member with rfl | behind
      · exact ends m black
      · exact clear quiet m behind

/-- The check finds the cycles there are, and no others. -/
theorem hasCycle_iff {nodes : List Uuid} (sources : ∀ edge ∈ g.inherits, edge.1 ∈ nodes) :
    g.hasCycle nodes = true ↔ ¬Acyclic g.inherits := by
  have targets_ : ∀ edge ∈ g.inherits, edge.2 ∈ nodes ++ g.inherits.map (·.2) :=
    fun edge member => List.mem_append_right _ (List.mem_map_of_mem member)
  have room : white (nodes ++ g.inherits.map (·.2)) Table.empty ≤ nodes.length + g.inherits.length + 1 := by
    have most := List.countP_le_length (p := fun x => ((Table.empty : Table Uuid Mark) x).isNone)
      (l := nodes ++ g.inherits.map (·.2))
    rw [List.length_append, List.length_map] at most
    exact most.trans (Nat.le_succ _)
  have listed : ∀ n ∈ nodes, n ∈ nodes ++ g.inherits.map (·.2) := fun n => List.mem_append_left _
  obtain ⟨cyclic, clear⟩ := sweep_spec targets_ listed room
    (fun x onPath => by cases onPath) (fun x marked => by cases marked)
  have swept : g.hasCycle nodes =
    (nodes.foldl (g.sweep (nodes.length + g.inherits.length + 1)) (false, .empty)).1 := rfl
  rw [swept]
  refine ⟨cyclic, fun some_ => ?_⟩
  by_contra none_
  exact some_ (acyclic_of_ends fun edge member => clear (Bool.eq_false_iff.mpr none_) _ (sources edge member))

end RoleGraph
end CoopSpaces
