import Mathlib.Data.List.Perm.Basic

namespace Worklist
variable {V : Type}

def Reach (edges : List (V × V)) (roots : List V) (node : V) : Prop :=
  ∃ root ∈ roots, Relation.ReflTransGen (fun a b => (a, b) ∈ edges) root node

/-- What a traversal keeps: all it holds is reached, every root is visited or
pending, and so is every target of a visited node. -/
structure Frontier (edges : List (V × V)) (roots stack seen : List V) : Prop where
  pending : ∀ node ∈ stack, Reach edges roots node
  visited : ∀ node ∈ seen, Reach edges roots node
  roots : ∀ root ∈ roots, root ∈ seen ∨ root ∈ stack
  edges : ∀ a ∈ seen, ∀ b, (a, b) ∈ edges → b ∈ seen ∨ b ∈ stack

variable {edges : List (V × V)}

theorem Frontier.mem_iff {roots seen : List V} (done : Frontier edges roots [] seen) {node : V} :
    node ∈ seen ↔ Reach edges roots node := by
  refine ⟨done.visited node, ?_⟩
  rintro ⟨root, member, path⟩
  induction path with
  | refl => simpa using done.roots root member
  | tail _ edge ih => simpa using done.edges _ ih _ edge

/-- No node is reached from itself along edges. -/
def Acyclic (edges : List (V × V)) : Prop := ∀ node, ¬Relation.TransGen (fun a b => (a, b) ∈ edges) node node

theorem Acyclic.mono {more : List (V × V)} (acyclic : Acyclic more) (fewer : ∀ edge ∈ edges, edge ∈ more) :
    Acyclic edges :=
  fun node round => acyclic node (Relation.TransGen.mono (fun a b edge => fewer (a, b) edge) node node round)

/-- Every way on from the node comes to an end. -/
def Ends (edges : List (V × V)) (node : V) : Prop := Acc (fun b a => (a, b) ∈ edges) node

/-- Who comes to an end on every way is on no cycle. -/
theorem Ends.not_transGen {node : V} (ends : Ends edges node) :
    ¬Relation.TransGen (fun a b => (a, b) ∈ edges) node node := by
  have irrefl : ∀ {R : V → V → Prop} {x : V}, Acc R x → ¬R x x := by
    intro R x acc
    induction acc with
    | intro x _ ih => exact fun loop => ih x loop loop
  exact fun round => irrefl (Acc.transGen ends) (Relation.transGen_swap.mp round)

/-- A cycle goes through sources only. -/
theorem acyclic_of_ends (sources : ∀ edge ∈ edges, Ends edges edge.1) : Acyclic edges := by
  intro node round
  obtain ⟨next, edge, -⟩ := Relation.TransGen.head'_iff.mp round
  exact (sources _ edge).not_transGen round

variable [DecidableEq V]

def targets (edges : List (V × V)) (node : V) : List V := (edges.filter fun e => e.1 = node).map (·.2)

def unvisited (edges : List (V × V)) (seen : List V) : List (V × V) := edges.filter fun e => e.1 ∉ seen

theorem length_unvisited_cons (edges : List (V × V)) {seen : List V} {node : V} (fresh : node ∉ seen) :
    (unvisited edges (node :: seen)).length + (targets edges node).length = (unvisited edges seen).length := by
  induction edges with
  | nil => rfl
  | cons e rest ih =>
    simp only [unvisited, targets, List.length_map, List.filter_cons, List.mem_cons, not_or] at ih ⊢
    by_cases source : e.1 = node
    · simp only [source, not_true_eq_false, false_and, decide_false, Bool.false_eq_true, if_false, decide_true,
        if_true, fresh, not_false_eq_true, List.length_cons]
      omega
    · by_cases old : e.1 ∈ seen
      · simpa only [source, old, not_true_eq_false, and_false, decide_false, Bool.false_eq_true, if_false] using ih
      · simp only [source, old, not_false_eq_true, and_self, decide_true, if_true, decide_false, Bool.false_eq_true,
          if_false, List.length_cons]
        omega

/-- Every node the stack reaches, beside those already seen. The last edge of a
node is followed first. -/
def closure (edges : List (V × V)) (stack seen : List V) : List V :=
  match stack with
  | [] => seen
  | node :: rest =>
    if node ∈ seen then closure edges rest seen
    else closure edges ((targets edges node).reverse ++ rest) (node :: seen)
termination_by stack.length + (unvisited edges seen).length
decreasing_by
  · simp only [List.length_cons]
    omega
  · rename_i fresh
    have spent := length_unvisited_cons edges fresh
    simp only [List.length_append, List.length_reverse, List.length_cons]
    omega

theorem mem_targets {a b : V} : b ∈ targets edges a ↔ (a, b) ∈ edges := by
  simp only [targets, List.mem_map, List.mem_filter, decide_eq_true_eq]
  constructor
  · rintro ⟨⟨_, _⟩, ⟨member, rfl⟩, rfl⟩
    exact member
  · exact fun member => ⟨(a, b), ⟨member, rfl⟩, rfl⟩

theorem Frontier.mem_closure {roots stack seen : List V} (frontier : Frontier edges roots stack seen) {node : V} :
    node ∈ closure edges stack seen ↔ Reach edges roots node := by
  induction stack, seen using closure.induct edges with
  | case1 seen =>
    rw [closure]
    exact frontier.mem_iff
  | case2 seen first rest old ih =>
    rw [closure, if_pos old]
    refine ih ⟨fun x member => frontier.pending x (List.mem_cons_of_mem _ member), frontier.visited, ?_, ?_⟩
    · intro root member
      rcases frontier.roots root member with here | there
      · exact .inl here
      · rcases List.mem_cons.mp there with rfl | later
        · exact .inl old
        · exact .inr later
    · intro a visited b edge
      rcases frontier.edges a visited b edge with here | there
      · exact .inl here
      · rcases List.mem_cons.mp there with rfl | later
        · exact .inl old
        · exact .inr later
  | case3 seen first rest fresh ih =>
    rw [closure, if_neg fresh]
    have reached := frontier.pending first (List.mem_cons_self ..)
    refine ih ⟨?_, ?_, ?_, ?_⟩
    · intro x member
      rcases List.mem_append.mp member with target | later
      · obtain ⟨root, rooted, path⟩ := reached
        exact ⟨root, rooted, path.tail (mem_targets.mp (List.mem_reverse.mp target))⟩
      · exact frontier.pending x (List.mem_cons_of_mem _ later)
    · intro x member
      rcases List.mem_cons.mp member with rfl | old
      · exact reached
      · exact frontier.visited x old
    · intro root member
      rcases frontier.roots root member with here | there
      · exact .inl (List.mem_cons_of_mem _ here)
      · rcases List.mem_cons.mp there with rfl | later
        · exact .inl (List.mem_cons_self ..)
        · exact .inr (List.mem_append_right _ later)
    · intro a visited b edge
      rcases List.mem_cons.mp visited with rfl | old
      · exact .inr (List.mem_append_left _ (List.mem_reverse.mpr (mem_targets.mpr edge)))
      · rcases frontier.edges a old b edge with here | there
        · exact .inl (List.mem_cons_of_mem _ here)
        · rcases List.mem_cons.mp there with rfl | later
          · exact .inl (List.mem_cons_self ..)
          · exact .inr (List.mem_append_right _ later)

theorem mem_closure_nil {roots : List V} {node : V} :
    node ∈ closure edges roots.reverse [] ↔ Reach edges roots node := by
  refine Frontier.mem_closure ⟨?_, ?_, ?_, ?_⟩
  · exact fun x member => ⟨x, List.mem_reverse.mp member, .refl⟩
  · exact fun x member => by cases member
  · exact fun root member => .inr (List.mem_reverse.mpr member)
  · exact fun a visited => by cases visited

end Worklist
