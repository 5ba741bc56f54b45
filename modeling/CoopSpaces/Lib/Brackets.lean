import Mathlib.Data.List.Infix

/-! Brackets that open with a value and close, and the stack of those open. -/

inductive Brace (β : Type) where
  | opening (value : β)
  | closing
  | neither

namespace Brace
variable {α β : Type}

/-- A closing bracket with nothing open is passed over. -/
def step (stack : List β) : Brace β → List β
  | .opening value => value :: stack
  | .closing => stack.tail
  | .neither => stack

variable (mark : α → Brace β)

def openAfter (stack : List β) (word : List α) : List β := word.foldl (fun open_ a => step open_ (mark a)) stack

/-- Each closing bracket has its opening one before it, and each opening one is closed. -/
inductive Nested : List α → Prop
  | nil : Nested []
  | other {a : α} {word : List α} (plain : mark a = .neither) (rest : Nested word) : Nested (a :: word)
  | pair {a b : α} {value : β} {inside word : List α} (opens : mark a = .opening value) (closes : mark b = .closing)
      (within : Nested inside) (rest : Nested word) : Nested (a :: (inside ++ b :: word))

variable {mark} {stack : List β} {word more : List α}

@[simp] theorem openAfter_nil : openAfter mark stack [] = stack := rfl

@[simp] theorem openAfter_cons (a : α) :
    openAfter mark stack (a :: word) = openAfter mark (step stack (mark a)) word := rfl

theorem openAfter_append : openAfter mark stack (word ++ more) = openAfter mark (openAfter mark stack word) more :=
  List.foldl_append

theorem Nested.append (nested : Nested mark word) (further : Nested mark more) : Nested mark (word ++ more) := by
  induction nested with
  | nil => exact further
  | other plain _ ih => exact .other plain ih
  | @pair a b value inside word opens closes within _ _ ih =>
    rw [List.cons_append, List.append_assoc, List.cons_append]
    exact .pair opens closes within ih

/-- What is nested leaves the stack as it found it. -/
theorem Nested.openAfter_eq (nested : Nested mark word) (stack : List β) : openAfter mark stack word = stack := by
  induction nested generalizing stack with
  | nil => rfl
  | other plain _ ih =>
    rw [openAfter_cons, plain]
    exact ih stack
  | @pair a b value inside word opens closes _ _ ihWithin ih =>
    rw [openAfter_cons, opens, openAfter_append, ihWithin, openAfter_cons, closes]
    exact ih stack

/-- What stands open after a word was opened in it, and only nested words come after. -/
theorem openAfter_eq_cons {word : List α} {value : β} {stack : List β}
    (open_ : openAfter mark [] word = value :: stack) :
    ∃ front a inside, word = front ++ a :: inside ∧ mark a = .opening value ∧ Nested mark inside ∧
      openAfter mark [] front = stack := by
  induction length : word.length using Nat.strong_induction_on generalizing word value stack with
  | _ size ih =>
    rcases List.eq_nil_or_concat word with rfl | ⟨init, b, rfl⟩
    · cases open_
    have shorter : init.length < size := by
      rw [← length, List.concat_eq_append, List.length_append, List.length_singleton]
      exact Nat.lt_succ_self _
    rw [List.concat_eq_append, openAfter_append, openAfter_cons, openAfter_nil] at open_
    rw [List.concat_eq_append]
    cases role : mark b with
    | opening top =>
      rw [role] at open_
      obtain ⟨rfl, rfl⟩ := List.cons.inj open_
      exact ⟨init, b, [], rfl, role, .nil, rfl⟩
    | neither =>
      rw [role] at open_
      obtain ⟨front, a, inside, rfl, opens, nested, before⟩ := ih _ shorter open_ rfl
      refine ⟨front, a, inside ++ [b], by rw [List.append_assoc, List.cons_append], opens, ?_, before⟩
      exact nested.append (.other role .nil)
    | closing =>
      rw [role] at open_
      -- the one closed here stood over the one asked for
      rcases above : openAfter mark [] init with _ | ⟨closed, below⟩
      · rw [above] at open_
        cases open_
      · obtain ⟨front, a, inside, rfl, opens, nested, before⟩ := ih _ shorter above rfl
        rw [above] at open_
        have under : openAfter mark [] front = value :: stack := before.trans open_
        have further : front.length < size := by
          rw [List.length_append] at shorter
          omega
        obtain ⟨first, c, between, rfl, opens', nested', before'⟩ := ih _ further under rfl
        refine ⟨first, c, between ++ a :: (inside ++ [b]), ?_, opens', ?_, before'⟩
        · simp only [List.append_assoc, List.cons_append]
        · exact nested'.append (.pair opens role nested .nil)

end Brace
