import Mathlib.Tactic.Common

/-- A check that ends a computation with an error unless it holds. -/
def demand {Error : Type} (holds : Prop) [Decidable holds] (error : Error) : Except Error Unit :=
  if holds then .ok () else .error error

/-- What a value must be there for. -/
def orError {Error α : Type} (found : Option α) (error : Error) : Except Error α :=
  match found with
  | some a => .ok a
  | none => .error error

/-- If a computation succeeds, its result is as said. -/
def Ensures {Error α : Type} (x : Except Error α) (said : α → Prop) : Prop := ∀ a, x = .ok a → said a

section Ensures
variable {Error Other α β : Type} {said : β → Prop}

theorem ensures_ok {b : β} (holds : said b) : Ensures (.ok b : Except Error β) said := by
  intro a same
  obtain rfl := Except.ok.inj same
  exact holds

theorem ensures_error (e : Error) : Ensures (.error e : Except Error β) said := by
  intro a same
  cases same

/-- The rest may rely on what the first came to. -/
theorem ensures_bind {x : Except Error α} {f : α → Except Error β} (rest : ∀ a, x = .ok a → Ensures (f a) said) :
    Ensures (x >>= f) said := by
  intro b same
  rcases x with e | a
  · cases same
  · exact rest a rfl b same

theorem ensures_demand {holds : Prop} [Decidable holds] {error : Error} {f : Unit → Except Error β}
    (rest : holds → Ensures (f ()) said) : Ensures (demand holds error >>= f) said := by
  refine ensures_bind fun _ passed => ?_
  unfold demand at passed
  split at passed
  next yes => exact rest yes
  next => cases passed

theorem ensures_orError {found : Option α} {error : Error} {f : α → Except Error β}
    (rest : ∀ a, found = some a → Ensures (f a) said) : Ensures (orError found error >>= f) said := by
  refine ensures_bind fun a passed => ?_
  rcases found with _ | b
  · cases passed
  · obtain rfl := Except.ok.inj passed
    exact rest b rfl

theorem ok_of_mapError {x : Except Error α} {rename : Error → Other} {a : α}
    (passed : x.mapError rename = .ok a) : x = .ok a := by
  rcases x with e | b
  · cases passed
  · exact congrArg Except.ok (Except.ok.inj passed)

theorem ensures_mapError {x : Except Error β} {rename : Error → Other} (inner : Ensures x said) :
    Ensures (x.mapError rename) said := fun b passed => inner b (ok_of_mapError passed)

end Ensures
