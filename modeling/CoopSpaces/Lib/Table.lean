import Mathlib.Data.List.Induction
import Mathlib.Data.List.Nodup

/-- A hash table as what its readers see: each key's value, if any. Iteration
order is not part of it; code that walks a table is given a list instead. -/
def Table (K V : Type) := K → Option V

namespace Table
variable {K V : Type}

instance : CoeFun (Table K V) (fun _ => K → Option V) := ⟨id⟩

def empty : Table K V := fun _ => none

@[ext] theorem ext {t u : Table K V} (same : ∀ k, t k = u k) : t = u := funext same

@[simp] theorem empty_apply (k : K) : (empty : Table K V) k = none := rfl

def retain (t : Table K V) (keep : K → V → Bool) : Table K V := fun k => (t k).filter (keep k)

@[simp] theorem retain_apply (t : Table K V) (keep : K → V → Bool) (k : K) :
    t.retain keep k = (t k).filter (keep k) := rfl

variable {t : Table K V}

theorem retain_of_keep {keep : K → V → Bool} {k : K} (kept : ∀ v, keep k v = true) : t.retain keep k = t k := by
  rw [retain_apply]
  rcases t k with _ | v
  · rfl
  · exact Option.filter_some_pos (kept v)

theorem retain_eq_some {keep : K → V → Bool} {k : K} {v : V} :
    t.retain keep k = some v ↔ t k = some v ∧ keep k v = true := by
  simp only [retain_apply, Option.filter_eq_some_iff]

variable [DecidableEq K]

def insert (t : Table K V) (k : K) (v : V) : Table K V := Function.update t k (some v)

def erase (t : Table K V) (k : K) : Table K V := Function.update t k none

/-- `entry(k).or_insert(v)`: the value already there wins. -/
def orInsert (t : Table K V) (k : K) (v : V) : Table K V := t.insert k ((t k).getD v)

theorem insert_apply (t : Table K V) (k : K) (v : V) (j : K) :
    t.insert k v j = if j = k then some v else t j :=
  Function.update_apply t k (some v) j

theorem erase_apply (t : Table K V) (k j : K) :
    t.erase k j = if j = k then none else t j :=
  Function.update_apply t k none j

@[simp] theorem erase_empty (k : K) : (empty : Table K V).erase k = empty := by
  ext j
  rw [erase_apply, empty_apply, ite_self]

@[simp] theorem insert_self (t : Table K V) (k : K) (v : V) : t.insert k v k = some v := by
  simp only [insert_apply, if_true]

@[simp] theorem erase_self (t : Table K V) (k : K) : t.erase k k = none := by
  simp only [erase_apply, if_true]

theorem insert_of_ne (t : Table K V) {k j : K} (v : V) (other : j ≠ k) : t.insert k v j = t j := by
  simp only [insert_apply, if_neg other]

theorem erase_of_ne (t : Table K V) {k j : K} (other : j ≠ k) : t.erase k j = t j := by
  simp only [erase_apply, if_neg other]

theorem erase_of_none {k : K} (absent : t k = none) : t.erase k = t := by
  ext j
  rw [erase_apply]
  split
  · rename_i same
    rw [same, absent]
  · rfl

theorem insert_eq_some {k j : K} {v w : V} : t.insert k v j = some w ↔ j = k ∧ w = v ∨ j ≠ k ∧ t j = some w := by
  by_cases same : j = k
  · subst same
    simp [eq_comm]
  · simp [insert_of_ne t v same, same]

theorem erase_eq_some {k j : K} {w : V} : t.erase k j = some w ↔ j ≠ k ∧ t j = some w := by
  by_cases same : j = k
  · subst same
    simp
  · simp [erase_of_ne t same, same]

/-- What an insert leaves a value at: its key, and where there was one. -/
theorem eq_or_isSome_of_insert {k j : K} {v : V} (there : (t.insert k v j).isSome) : j = k ∨ (t j).isSome := by
  rw [insert_apply] at there
  by_cases same : j = k
  · exact .inl same
  · rw [if_neg same] at there
    exact .inr there

theorem isSome_of_erase {k j : K} (there : (t.erase k j).isSome) : (t j).isSome := by
  obtain ⟨value, found⟩ := Option.isSome_iff_exists.mp there
  exact Option.isSome_of_eq_some (erase_eq_some.mp found).2

def eraseAll (t : Table K V) (keys : List K) : Table K V := keys.foldl erase t

theorem eraseAll_apply (t : Table K V) (keys : List K) (j : K) :
    t.eraseAll keys j = if j ∈ keys then none else t j := by
  induction keys generalizing t with
  | nil => simp [eraseAll]
  | cons k rest ih =>
    have step : t.eraseAll (k :: rest) = (t.erase k).eraseAll rest := rfl
    rw [step, ih, erase_apply]
    by_cases inRest : j ∈ rest <;> by_cases same : j = k <;> simp [inRest, same]

/-- A value found after a run of guarded inserts was inserted, or was there. -/
theorem foldl_insert_eq_some {B : Type} {guard : B → Prop} [DecidablePred guard] {key : B → K} {value : B → V}
    {items : List B} {j : K} {v : V}
    (found : items.foldl (fun t b => if guard b then t.insert (key b) (value b) else t) t j = some v) :
    (∃ b ∈ items, key b = j ∧ guard b ∧ v = value b) ∨ t j = some v := by
  induction items generalizing t with
  | nil => exact .inr found
  | cons first rest ih =>
    rcases ih found with ⟨b, member, fits⟩ | here
    · exact .inl ⟨b, List.mem_cons_of_mem _ member, fits⟩
    · beta_reduce at here
      by_cases holds : guard first
      · rw [if_pos holds] at here
        rcases insert_eq_some.mp here with ⟨rfl, rfl⟩ | ⟨-, old⟩
        · exact .inl ⟨first, List.mem_cons_self .., rfl, holds, rfl⟩
        · exact .inr old
      · rw [if_neg holds] at here
        exact .inr here

/-- Two runs of inserts under guards that agree answer alike wherever the tables did. -/
theorem foldl_insert_congr {B : Type} {guard guard' : B → Prop} [DecidablePred guard] [DecidablePred guard']
    {key : B → K} {value : B → V} {u : Table K V} {items : List B} {j : K} (same : t j = u j)
    (agree : ∀ b ∈ items, (guard b ↔ guard' b)) :
    items.foldl (fun t b => if guard b then t.insert (key b) (value b) else t) t j =
      items.foldl (fun t b => if guard' b then t.insert (key b) (value b) else t) u j := by
  induction items generalizing t u with
  | nil => exact same
  | cons first rest ih =>
    refine ih ?_ fun b member => agree b (List.mem_cons_of_mem _ member)
    beta_reduce
    simp only [agree first (List.mem_cons_self ..)]
    split
    · simp only [insert_apply, same]
    · exact same

theorem foldl_insert_of_notMem {B : Type} {guard : B → Prop} [DecidablePred guard] {key : B → K} {value : B → V}
    {items : List B} {j : K} (other : ∀ b ∈ items, key b ≠ j) :
    items.foldl (fun t b => if guard b then t.insert (key b) (value b) else t) t j = t j := by
  induction items generalizing t with
  | nil => rfl
  | cons first rest ih =>
    rw [List.foldl_cons, ih fun b member => other b (List.mem_cons_of_mem _ member)]
    split
    · exact insert_of_ne t _ (other first (List.mem_cons_self ..)).symm
    · rfl

theorem foldl_orInsert_of_notMem {B : Type} {key : B → K} {value : V} {items : List B} {j : K}
    (other : ∀ b ∈ items, key b ≠ j) : items.foldl (fun t b => t.orInsert (key b) value) t j = t j := by
  induction items generalizing t with
  | nil => rfl
  | cons first rest ih =>
    rw [List.foldl_cons, ih fun b member => other b (List.mem_cons_of_mem _ member)]
    exact insert_of_ne t _ (other first (List.mem_cons_self ..)).symm

theorem foldl_orInsert_eq_some {B : Type} {key : B → K} {value : V} {items : List B} {j : K} {v : V}
    (found : items.foldl (fun t b => t.orInsert (key b) value) t j = some v) :
    (∃ b ∈ items, key b = j) ∨ (t j).isSome := by
  induction items generalizing t with
  | nil => exact .inr (Option.isSome_of_eq_some found)
  | cons first rest ih =>
    rcases ih found with ⟨b, member, fits⟩ | here
    · exact .inl ⟨b, List.mem_cons_of_mem _ member, fits⟩
    · by_cases same : j = key first
      · exact .inl ⟨first, List.mem_cons_self .., same.symm⟩
      · beta_reduce at here
        rw [orInsert, insert_of_ne t _ same] at here
        exact .inr here

/-- A list collected under its keys: where a key repeats, the last entry wins. -/
def index (key : V → K) (items : List V) : Table K V := items.foldl (fun t v => t.insert (key v) v) empty

theorem foldl_index {key : V → K} {items : List V} (distinct : (items.map key).Nodup) (t : Table K V) (k : K) :
    items.foldl (fun t v => t.insert (key v) v) t k = (items.find? fun v => key v = k).or (t k) := by
  induction items generalizing t with
  | nil => rfl
  | cons first rest ih =>
    obtain ⟨fresh, others⟩ := List.nodup_cons.mp distinct
    rw [List.foldl_cons, ih others, insert_apply, List.find?_cons]
    by_cases same : key first = k
    · have absent : (rest.find? fun v => key v = k) = none := by
        rw [List.find?_eq_none]
        intro v member found
        exact fresh (same ▸ of_decide_eq_true found ▸ List.mem_map_of_mem member)
      simp [absent, same]
    · simp [same, Ne.symm same]

/-- Under a key that a list has, its inserts leave a value of the list's own, whatever was there before. -/
theorem foldl_insert_mem {B : Type} {key : B → K} {value : B → V} {items : List B} {b : B} (member : b ∈ items) :
    ∃ last ∈ items, key last = key b ∧
      ∀ t : Table K V, items.foldl (fun t b => t.insert (key b) (value b)) t (key b) = some (value last) := by
  induction items using List.reverseRecOn with
  | nil => exact absurd member List.not_mem_nil
  | append_singleton front final ih =>
    have step : ∀ t : Table K V, (front ++ [final]).foldl (fun t b => t.insert (key b) (value b)) t =
        (front.foldl (fun t b => t.insert (key b) (value b)) t).insert (key final) (value final) := by
      intro t
      rw [List.foldl_append]
      rfl
    by_cases same : key final = key b
    · refine ⟨final, by simp, same, fun t => ?_⟩
      rw [step, ← same, insert_self]
    · have earlier : b ∈ front := by
        rcases List.mem_append.mp member with inFront | isFinal
        · exact inFront
        · exact absurd (congrArg key (List.mem_singleton.mp isFinal).symm) same
      obtain ⟨last, inFront, sameKey, found⟩ := ih earlier
      refine ⟨last, List.mem_append_left _ inFront, sameKey, fun t => ?_⟩
      rw [step, insert_of_ne _ _ (Ne.symm same)]
      exact found t

/-- Where keys are distinct, an entry of the list is found under its key. -/
theorem foldl_insert_of_mem {B : Type} {key : B → K} {value : B → V} {items : List B}
    (distinct : (items.map key).Nodup)
    {b : B} (member : b ∈ items) (t : Table K V) :
    items.foldl (fun t b => t.insert (key b) (value b)) t (key b) = some (value b) := by
  obtain ⟨last, inItems, sameKey, found⟩ := @foldl_insert_mem K V _ B key value items b member
  rw [found, List.inj_on_of_nodup_map distinct inItems member sameKey]

/-- Where keys are distinct, the table answers what a search of the list finds. -/
theorem index_eq_find? {key : V → K} {items : List V} (distinct : (items.map key).Nodup) (k : K) :
    index key items k = items.find? fun v => key v = k := by
  rw [index, foldl_index distinct, empty_apply, Option.or_none]

/-- Pairs collected into a table: where a key repeats, the last wins. -/
def collect (items : List (K × V)) : Table K V := items.foldl (fun t item => t.insert item.1 item.2) empty

theorem mem_of_collect {items : List (K × V)} {k : K} {v : V} (found : collect items k = some v) :
    (k, v) ∈ items := by
  induction items using List.reverseRecOn with
  | nil => cases found
  | append_singleton front final ih =>
    have step : collect (front ++ [final]) = (collect front).insert final.1 final.2 := by
      rw [collect, List.foldl_append]
      rfl
    rw [step, insert_apply] at found
    split at found
    next same =>
      obtain rfl := Option.some.inj found
      exact List.mem_append_right _ (List.mem_singleton.mpr (Prod.ext same rfl))
    next => exact List.mem_append_left _ (ih found)

theorem collect_eq_some {items : List (K × V)} (distinct : (items.map (·.1)).Nodup) {k : K} {v : V} :
    collect items k = some v ↔ (k, v) ∈ items := by
  constructor
  · exact mem_of_collect
  · intro member
    have here : collect items (k, v).1 = some (k, v).2 := foldl_insert_of_mem distinct member empty
    exact here

/-- Where keys are distinct, the order of the pairs does not matter. -/
theorem collect_perm {items items' : List (K × V)} (distinct : (items.map (·.1)).Nodup) (perm : items.Perm items') :
    collect items = collect items' := by
  have distinct' : (items'.map (·.1)).Nodup := (perm.map _).nodup_iff.mp distinct
  refine Table.ext fun k => Option.ext fun v => ?_
  rw [collect_eq_some distinct, collect_eq_some distinct', perm.mem_iff]

/-- Where keys are distinct, the entry a search finds is the only one there is. -/
theorem exists_find?_iff {key : V → K} {items : List V} (distinct : (items.map key).Nodup) {k : K} {P : V → Prop} :
    (∃ v, (items.find? fun v => key v = k) = some v ∧ P v) ↔ ∃ v ∈ items, key v = k ∧ P v := by
  constructor
  · rintro ⟨v, found, holds⟩
    have same := List.find?_some found
    exact ⟨v, List.mem_of_find?_eq_some found, of_decide_eq_true same, holds⟩
  · rintro ⟨v, member, same, holds⟩
    rcases found : items.find? fun v => key v = k with _ | other
    · have absent := List.find?_eq_none.mp found v member
      exact absurd (decide_eq_true same) absent
    · have sameOther := List.find?_some found
      have one := List.inj_on_of_nodup_map distinct (List.mem_of_find?_eq_some found) member
        ((of_decide_eq_true sameOther).trans same.symm)
      exact ⟨other, rfl, one ▸ holds⟩

theorem eraseAll_eq_some {keys : List K} {j : K} {v : V} : t.eraseAll keys j = some v ↔ j ∉ keys ∧ t j = some v := by
  rw [eraseAll_apply]
  split <;> simp [*]

end Table
