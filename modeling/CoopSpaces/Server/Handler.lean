import CoopSpaces.Lib.Routine
import CoopSpaces.Server.Accounts

namespace CoopSpaces

inductive ApiError
  | unauthorized (msg : String)
  | forbidden (msg : String)
  | badRequest (msg : String)
  | notFound (msg : String)
  | conflict (msg : String)
  | internalServerError (msg : String)
  deriving DecidableEq

/-- What the endpoints that anybody may call answer besides. -/
inductive PublicError
  | api (error : ApiError)
  | validationError (msg : String)
  | tooManyRequests (msg : String)
  deriving DecidableEq

def ApiError.ofDb : DbError → ApiError
  | .notFound => .notFound "Requested resource not found"
  | .uniqueViolation => .conflict "Resource already exists"
  | .foreignKeyViolation => .conflict "Referenced resource does not exist or is still in use"
  | .checkViolation => .badRequest "A value was not one this field accepts"
  | .unrepresentableText => .badRequest "Text contained characters this database cannot store"
  | .unavailable => .internalServerError "Database connection error"

/-- A request being handled: reads, writes, and an error that ends it. -/
abbrev Handler (Uuid : Type) := ExceptT ApiError (Routine (DatabaseManager Uuid) (Change Uuid) DbReply)

namespace Handler
variable {Uuid α β : Type} {db : DatabaseManager Uuid}

def read (f : DatabaseManager Uuid → α) : Handler Uuid α := ExceptT.mk (.read fun db => .done (.ok (f db)))

def send (change : Change Uuid) : Handler Uuid DbReply := ExceptT.mk (.write change fun reply => .done (.ok reply))

def ofReply : DbReply → Handler Uuid Nat
  | .rows n => pure n
  | .failed e => throw (.ofDb e)
  | .unacknowledged codes =>
    throw (.conflict ("every warning must be acknowledged before merging; the current set is: " ++
      ", ".intercalate (codes.dedup.insertionSort (· ≤ ·))))

def write (change : Change Uuid) : Handler Uuid Nat := do ofReply (← send change)

def require (ok : Bool) (error : ApiError) : Handler Uuid Unit := if ok then pure () else throw error

/-- What a handler comes to while the database stays as it is: its answer, or its first write. -/
def act (h : Handler Uuid α) (db : DatabaseManager Uuid) : Except ApiError α ⊕ Change Uuid := Routine.act h.run db

@[simp] theorem act_pure (a : α) : (pure a : Handler Uuid α).act db = .inl (.ok a) := rfl

@[simp] theorem act_read (f : DatabaseManager Uuid → α) : (read f).act db = .inl (.ok (f db)) := rfl

theorem act_require (ok : Bool) (error : ApiError) :
    (require ok error).act db = .inl (if ok then .ok () else .error error) := by
  cases ok <;> rfl

theorem act_bind (h : Handler Uuid α) (f : α → Handler Uuid β) :
    (h >>= f).act db = match h.act db with
      | .inl (.ok a) => (f a).act db
      | .inl (.error e) => .inl (.error e)
      | .inr change => .inr change := by
  have whole := Routine.act_bind h.run (ExceptT.bindCont f) db
  have first : (h >>= f).act db = (h.act db).elim (fun answer => (ExceptT.bindCont f answer).act db) .inr := whole
  rw [first]
  rcases h.act db with (e | a) | change
  all_goals rfl

theorem act_bind_ok {h : Handler Uuid α} {a : α} (first : h.act db = .inl (.ok a)) (f : α → Handler Uuid β) :
    (h >>= f).act db = (f a).act db := by
  rw [act_bind, first]

theorem act_bind_eq_inr {h : Handler Uuid α} {f : α → Handler Uuid β} {change : Change Uuid}
    (acts : (h >>= f).act db = .inr change) :
    h.act db = .inr change ∨ ∃ a, h.act db = .inl (.ok a) ∧ (f a).act db = .inr change := by
  rw [act_bind] at acts
  rcases first : h.act db with (e | a) | other
  · rw [first] at acts
    cases acts
  · rw [first] at acts
    exact .inr ⟨a, rfl, acts⟩
  · rw [first] at acts
    cases acts
    exact .inl rfl

section Solo
variable [DecidableEq Uuid] {after : DatabaseManager Uuid} {collation : Collation}

/-- The handler run to its end with nobody in between. -/
def solo (collation : Collation) (h : Handler Uuid α) (db : DatabaseManager Uuid) :
    DatabaseManager Uuid × Except ApiError α :=
  Routine.solo (DatabaseManager.perform collation) h.run db

theorem solo_of_act {h : Handler Uuid α} {answer : Except ApiError α} (answers : h.act db = .inl answer) :
    h.solo collation db = (db, answer) :=
  Routine.solo_of_act (DatabaseManager.perform collation) answers

theorem solo_bind_ok {h : Handler Uuid α} {a : α} (first : h.solo collation db = (after, .ok a))
    (f : α → Handler Uuid β) : (h >>= f).solo collation db = (f a).solo collation after := by
  have whole := Routine.solo_bind (DatabaseManager.perform collation) h.run (ExceptT.bindCont f) db
  have same : Routine.solo (DatabaseManager.perform collation) h.run db = (after, .ok a) := first
  rw [same] at whole
  exact whole

theorem solo_write {change : Change Uuid} {n : Nat} (made : db.perform collation change = (after, .rows n)) :
    (write change).solo collation db = (after, .ok n) := by
  have sent : (send change).solo collation db = (after, .ok (.rows n)) := by
    simp only [solo, send, ExceptT.run, ExceptT.mk, Routine.solo, made]
  exact solo_bind_ok sent ofReply

end Solo

/-- Who serves the handler keeps to the invariant and makes allowed changes, whoever else runs;
an answer that is no error is as promised. -/
def Meets (Inv : DatabaseManager Uuid → Prop) (allowed : Change Uuid → Prop) (promised : α → Prop)
    (h : Handler Uuid α) : Prop :=
  Routine.Meets Inv allowed (fun answer => ∀ a, answer = .ok a → promised a) h.run

section Meets
variable {Inv : DatabaseManager Uuid → Prop} {allowed : Change Uuid → Prop} {promised : α → Prop} {kept : β → Prop}

theorem meets_pure {a : α} (holds : promised a) : (pure a : Handler Uuid α).Meets Inv allowed promised := by
  intro b same
  obtain rfl := Except.ok.inj same
  exact holds

theorem meets_throw (e : ApiError) : (throw e : Handler Uuid α).Meets Inv allowed promised := by
  intro b same
  cases same

theorem meets_read {f : DatabaseManager Uuid → α} (holds : ∀ db, Inv db → promised (f db)) :
    (read f).Meets Inv allowed promised := by
  intro db inv b same
  obtain rfl := Except.ok.inj same
  exact holds db inv

theorem meets_anyRead (f : DatabaseManager Uuid → α) : (read f).Meets Inv allowed fun _ => True :=
  meets_read fun _ _ => trivial

theorem meets_send {change : Change Uuid} (ok : allowed change) :
    (send change).Meets Inv allowed fun _ => True :=
  ⟨ok, fun _ _ _ => trivial⟩

theorem meets_require {ok : Bool} {error : ApiError} {promised : Prop} (holds : ok = true → promised) :
    (require ok error : Handler Uuid Unit).Meets Inv allowed fun _ => promised := by
  cases ok with
  | false => exact meets_throw error
  | true => exact meets_pure (holds rfl)

theorem meets_anyRequire (ok : Bool) (error : ApiError) :
    (require ok error : Handler Uuid Unit).Meets Inv allowed fun _ => True :=
  meets_require fun _ => trivial

theorem Meets.bind {h : Handler Uuid α} {f : α → Handler Uuid β} (first : h.Meets Inv allowed promised)
    (rest : ∀ a, promised a → (f a).Meets Inv allowed kept) : (h >>= f).Meets Inv allowed kept := by
  refine Routine.Meets.bind first fun answer holds => ?_
  cases answer with
  | error e => exact meets_throw e
  | ok a => exact rest a (holds a rfl)

theorem meets_ofReply (reply : DbReply) : (ofReply reply : Handler Uuid Nat).Meets Inv allowed fun _ => True := by
  cases reply with
  | rows n => exact meets_pure trivial
  | failed e => exact meets_throw _
  | unacknowledged codes => exact meets_throw _

theorem meets_write {change : Change Uuid} (ok : allowed change) :
    (write change).Meets Inv allowed fun _ => True :=
  (meets_send ok).bind fun reply _ => meets_ofReply reply

end Meets

/-- A handler that reads and does not write. -/
def ReadOnly (h : Handler Uuid α) : Prop := ∀ db change, h.act db ≠ .inr change

theorem Meets.readOnly {h : Handler Uuid α} (meets : h.Meets (fun _ => True) (fun _ => False) fun _ => True) :
    h.ReadOnly := fun _ _ acts => Routine.Meets.allowed_of_act meets trivial acts

theorem ReadOnly.act_bind {h : Handler Uuid α} {f : α → Handler Uuid β} {change : Change Uuid} (first : h.ReadOnly)
    (acts : (h >>= f).act db = .inr change) : ∃ a, h.act db = .inl (.ok a) ∧ (f a).act db = .inr change := by
  rcases act_bind_eq_inr acts with here | later
  · exact absurd here (first db change)
  · exact later

theorem ReadOnly.solo [DecidableEq Uuid] {collation : Collation} {h : Handler Uuid α} (reads : h.ReadOnly)
    (db : DatabaseManager Uuid) : (h.solo collation db).1 = db := by
  rcases first : h.act db with answer | change
  · rw [solo_of_act first]
  · exact absurd first (reads db change)

theorem solo_bind_readOnly [DecidableEq Uuid] {collation : Collation} (h : Handler Uuid α) {f : α → Handler Uuid β}
    (rest : ∀ a, (f a).ReadOnly) : ((h >>= f).solo collation db).1 = (h.solo collation db).1 := by
  have whole : (h >>= f).solo collation db =
      (ExceptT.bindCont f (h.solo collation db).2).solo (DatabaseManager.perform collation) (h.solo collation db).1 :=
    Routine.solo_bind (DatabaseManager.perform collation) h.run (ExceptT.bindCont f) db
  rw [whole]
  rcases h.solo collation db with ⟨after, e | a⟩
  · rfl
  · exact (rest a).solo after

theorem solo_write_fst [DecidableEq Uuid] {collation : Collation} (change : Change Uuid) :
    ((write change).solo collation db).1 = (db.perform collation change).1 := by
  rw [write, solo_bind_readOnly (send change) fun reply => (meets_ofReply reply).readOnly]
  rfl

end Handler

end CoopSpaces
