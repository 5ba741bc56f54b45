import CoopSpaces.Server.Broadcasts

namespace CoopSpaces

/-- What the drain task publishes: the requests of a window, merged. -/
inductive Batch (Uuid : Type)
  | all
  | tools (ids : Finset Uuid)

/-- The devices a batch concerns, in a stable order with no repeats. -/
def devicesFor {Uuid : Type} [LinearOrder Uuid] (batch : Batch Uuid) (allDevices : List Uuid)
    (bindings : List (Uuid × Uuid)) :
    List Uuid :=
  match batch with
  | .all => allDevices.toFinset.sort (· ≤ ·)
  | .tools ids => ((bindings.filter fun b => b.2 ∈ ids).map (·.1)).toFinset.sort (· ≤ ·)

theorem mem_devicesFor_tool {Uuid : Type} [LinearOrder Uuid] {device tool : Uuid} {allDevices : List Uuid}
    {bindings : List (Uuid × Uuid)} : device ∈ devicesFor (.tools {tool}) allDevices bindings ↔
      (device, tool) ∈ bindings := by
  simp [devicesFor]

/-- Requests merged into one pending batch, released a bounded time after the first of them arrived. -/
structure Coalescer (Uuid : Type) where
  window : Nat
  all : Bool
  tools : Finset Uuid
  since : Option Nat

namespace Coalescer
variable {Uuid : Type} [DecidableEq Uuid]

def new (window : Nat) : Coalescer Uuid := ⟨window, false, ∅, none⟩

/-- File a request. It starts the window if nothing was pending, and else the window does not move. -/
def note (c : Coalescer Uuid) (scope : Scope Uuid) (now : Nat) : Coalescer Uuid :=
  let c := if c.since.isNone then { c with since := some now } else c
  match scope with
  | .all => { c with all := true }
  | .tool toolId => { c with tools := insert toolId c.tools }

def dueAt (c : Coalescer Uuid) : Option Nat := c.since.map (· + c.window)

/-- The pending batch whatever the clock says. -/
def takeNow (c : Coalescer Uuid) : Coalescer Uuid × Option (Batch Uuid) :=
  match c.since with
  | none => (c, none)
  | some _ => ({ c with since := none, all := false, tools := ∅ }, some (if c.all then .all else .tools c.tools))

def take (c : Coalescer Uuid) (now : Nat) : Coalescer Uuid × Option (Batch Uuid) :=
  if c.dueAt.any fun due => decide (due ≤ now) then c.takeNow else (c, none)

end Coalescer

inductive CoalescerCall (Uuid : Type)
  | note (scope : Scope Uuid) (now : Nat)
  | take (now : Nat)
  | takeNow

def coalescer {Uuid : Type} [DecidableEq Uuid] (window : Nat) :
    Machine (Coalescer Uuid) (CoalescerCall Uuid) (Option (Batch Uuid)) where
  start := .new window
  step c call :=
    match call with
    | .note scope now => (c.note scope now, none)
    | .take now => c.take now
    | .takeNow => c.takeNow

/-- What goes in and what comes out. -/
inductive CoalescerNote (Uuid : Type)
  | noted (scope : Scope Uuid) (now : Nat)
  | released (batch : Batch Uuid)

section Coverage
variable {Uuid : Type}

/-- A request to republish everything includes every other. -/
def Scope.Includes : Scope Uuid → Scope Uuid → Prop
  | .all, _ => True
  | .tool toolId, other => other = .tool toolId

def Batch.Covers : Batch Uuid → Scope Uuid → Prop
  | .all, _ => True
  | .tools ids, scope => ∃ toolId ∈ ids, scope = .tool toolId

end Coverage

namespace Coalescer
variable {Uuid : Type}

/-- The requests since the last release, each with when it was filed. -/
def waiting (log : List (CoalescerNote Uuid)) : List (Scope Uuid × Nat) :=
  log.foldl (fun filed note =>
    match note with
    | .noted scope now => filed ++ [(scope, now)]
    | .released _ => []) []

@[simp] theorem waiting_noted (log : List (CoalescerNote Uuid)) (scope : Scope Uuid) (now : Nat) :
    waiting (log ++ [.noted scope now]) = waiting log ++ [(scope, now)] := by
  simp [waiting]

@[simp] theorem waiting_released (log : List (CoalescerNote Uuid)) (batch : Batch Uuid) :
    waiting (log ++ [.released batch]) = [] := by
  simp [waiting]

theorem mem_waiting {before middle : List (CoalescerNote Uuid)} {scope : Scope Uuid} {now : Nat}
    (none_ : ∀ batch, .released batch ∉ middle) : (scope, now) ∈ waiting (before ++ .noted scope now :: middle) := by
  induction middle using List.reverseRecOn with
  | nil =>
    rw [waiting_noted]
    exact List.mem_append_right _ (List.mem_singleton_self _)
  | append_singleton front last ih =>
    have earlier := ih fun batch there => none_ batch (List.mem_append_left _ there)
    rw [← List.cons_append, ← List.append_assoc]
    cases last with
    | noted other later =>
      rw [waiting_noted]
      exact List.mem_append_left _ earlier
    | released batch => exact absurd (List.mem_append_right _ (List.mem_singleton_self _)) (none_ batch)

/-- A log without a release, or its first one. -/
theorem first_released (log : List (CoalescerNote Uuid)) :
    (∀ batch, .released batch ∉ log) ∨
      ∃ middle batch rest, log = middle ++ .released batch :: rest ∧ ∀ other, .released other ∉ middle := by
  induction log with
  | nil => exact .inl fun _ there => by cases there
  | cons note rest ih =>
    cases note with
    | released batch => exact .inr ⟨[], batch, rest, rfl, fun _ there => by cases there⟩
    | noted scope now =>
      rcases ih with none_ | ⟨middle, batch, later, rfl, none_⟩
      · refine .inl fun batch there => ?_
        rcases List.mem_cons.mp there with same | there
        · cases same
        · exact none_ batch there
      · refine .inr ⟨.noted scope now :: middle, batch, later, rfl, fun other there => ?_⟩
        rcases List.mem_cons.mp there with same | there
        · cases same
        · exact none_ other there

theorem released_snoc {log : List (CoalescerNote Uuid)} {P : List (CoalescerNote Uuid) → Batch Uuid → Prop}
    (earlier : ∀ before batch after, log = before ++ .released batch :: after → P before batch)
    {note : CoalescerNote Uuid} (here : ∀ batch, note = .released batch → P log batch) :
    ∀ before batch after, log ++ [note] = before ++ .released batch :: after → P before batch := by
  intro before batch after split
  rcases List.eq_nil_or_concat after with rfl | ⟨front, last, rfl⟩
  · obtain ⟨rfl, same⟩ := List.append_inj' split rfl
    exact here batch (List.singleton_inj.mp same)
  · rw [List.concat_eq_append, ← List.cons_append, ← List.append_assoc] at split
    obtain ⟨rfl, -⟩ := List.append_inj' split rfl
    exact earlier before batch front rfl

variable [DecidableEq Uuid]

def asksAll (filed : List (Scope Uuid × Nat)) : Bool := filed.any fun request => decide (request.1 = .all)

def toolsAsked (filed : List (Scope Uuid × Nat)) : Finset Uuid :=
  (filed.filterMap fun request =>
    match request.1 with
    | .all => none
    | .tool toolId => some toolId).toFinset

/-- One batch for all requests of a list. -/
def merged (filed : List (Scope Uuid × Nat)) : Batch Uuid := if asksAll filed then .all else .tools (toolsAsked filed)

theorem mem_toolsAsked {filed : List (Scope Uuid × Nat)} {toolId : Uuid} :
    toolId ∈ toolsAsked filed ↔ ∃ request ∈ filed, request.1 = .tool toolId := by
  rw [toolsAsked, List.mem_toFinset, List.mem_filterMap]
  refine exists_congr fun request => and_congr_right fun _ => ?_
  cases request.1 with
  | all => exact iff_of_false (fun same => by cases same) fun same => by cases same
  | tool other => exact ⟨fun same => congrArg _ (Option.some.inj same), fun same => congrArg _ (Scope.tool.inj same)⟩

/-- A merged batch covers what its requests include, and nothing else. -/
theorem merged_covers {filed : List (Scope Uuid × Nat)} {scope : Scope Uuid} :
    (merged filed).Covers scope ↔ ∃ request ∈ filed, request.1.Includes scope := by
  unfold merged
  split
  · rename_i all
    obtain ⟨request, there, same⟩ := List.any_eq_true.mp all
    refine iff_of_true trivial ⟨request, there, ?_⟩
    rw [of_decide_eq_true same]
    trivial
  · rename_i none_
    have tools : ∀ request ∈ filed, request.1 ≠ .all := fun request there same =>
      none_ (List.any_eq_true.mpr ⟨request, there, decide_eq_true same⟩)
    constructor
    · rintro ⟨toolId, asked, rfl⟩
      obtain ⟨request, there, same⟩ := mem_toolsAsked.mp asked
      refine ⟨request, there, ?_⟩
      rw [same]
      rfl
    · rintro ⟨⟨asked, now⟩, there, includes⟩
      cases asked with
      | all => exact absurd rfl (tools _ there)
      | tool toolId => exact ⟨toolId, mem_toolsAsked.mpr ⟨_, there, rfl⟩, includes⟩

/-- What a coalescer that gathers these requests looks like. -/
def gathered (window : Nat) (filed : List (Scope Uuid × Nat)) : Coalescer Uuid :=
  ⟨window, asksAll filed, toolsAsked filed, filed.head?.map (·.2)⟩

theorem note_gathered (window : Nat) (filed : List (Scope Uuid × Nat)) (scope : Scope Uuid) (now : Nat) :
    (gathered window filed).note scope now = gathered window (filed ++ [(scope, now)]) := by
  have since : (if (gathered window filed).since.isNone then { gathered window filed with since := some now }
      else gathered window filed) =
        ⟨window, asksAll filed, toolsAsked filed, (filed ++ [(scope, now)]).head?.map (·.2)⟩ := by
    cases filed <;> rfl
  unfold note
  rw [since]
  cases scope with
  | all => simp [gathered, asksAll, toolsAsked]
  | tool toolId =>
    have tools : insert toolId (toolsAsked filed) = toolsAsked (filed ++ [(.tool toolId, now)]) := by
      ext other
      simp [mem_toolsAsked, or_and_right, exists_or, or_comm, eq_comm]
    simp [gathered, asksAll, tools]

theorem takeNow_gathered (window : Nat) (filed : List (Scope Uuid × Nat)) :
    (gathered window filed).takeNow = (gathered window [], if filed = [] then none else some (merged filed)) := by
  cases filed with
  | nil => rfl
  | cons first rest => rfl

theorem dueAt_gathered (window : Nat) (filed : List (Scope Uuid × Nat)) :
    (gathered window filed).dueAt = filed.head?.map fun first => first.2 + window := by
  cases filed with
  | nil => rfl
  | cons first rest => rfl

theorem take_gathered (window : Nat) (filed : List (Scope Uuid × Nat)) (now : Nat) :
    (gathered window filed).take now =
      if ∃ first, filed.head? = some first ∧ first.2 + window ≤ now then (gathered window [], some (merged filed))
      else (gathered window filed, none) := by
  unfold take
  rw [dueAt_gathered, takeNow_gathered]
  cases filed with
  | nil => simp
  | cons first rest => simp

/-- What a call is noted down as. -/
def watch (c : Coalescer Uuid) (call : CoalescerCall Uuid) : List (CoalescerNote Uuid) :=
  match call with
  | .note scope now => [.noted scope now]
  | .take now => ((c.take now).2.map .released).toList
  | .takeNow => (c.takeNow.2.map .released).toList

def log (window : Nat) (calls : List (CoalescerCall Uuid)) : List (CoalescerNote Uuid) :=
  (coalescer window).history watch calls

/-- The account that a log keeps: its requests wait until they are released together. -/
structure Accounted (window : Nat) (log : List (CoalescerNote Uuid)) (c : Coalescer Uuid) : Prop where
  gathers : c = gathered window (waiting log)
  released : ∀ before batch after, log = before ++ .released batch :: after →
    waiting before ≠ [] ∧ batch = merged (waiting before)

theorem Accounted.noted {window : Nat} {log : List (CoalescerNote Uuid)} {c : Coalescer Uuid}
    (accounted : Accounted window log c) (scope : Scope Uuid) (now : Nat) :
    Accounted window (log ++ [.noted scope now]) (c.note scope now) := by
  refine ⟨?_, released_snoc accounted.released fun batch same => by cases same⟩
  rw [accounted.gathers, note_gathered, waiting_noted]

theorem Accounted.release {window : Nat} {log : List (CoalescerNote Uuid)} {c : Coalescer Uuid}
    (accounted : Accounted window log c) (some_ : waiting log ≠ []) :
    Accounted window (log ++ [.released (merged (waiting log))]) (gathered window []) := by
  refine ⟨?_, released_snoc accounted.released fun batch same => ?_⟩
  · rw [waiting_released]
  · cases same
    exact ⟨some_, rfl⟩

theorem Accounted.step {window : Nat} {log : List (CoalescerNote Uuid)} {c : Coalescer Uuid}
    (accounted : Accounted window log c) (call : CoalescerCall Uuid) :
    Accounted window (log ++ watch c call) ((coalescer window).step c call).1 := by
  have gathers := accounted.gathers
  cases call with
  | note scope now => exact accounted.noted scope now
  | take now =>
    show Accounted window (log ++ ((c.take now).2.map .released).toList) (c.take now).1
    rw [gathers, take_gathered]
    split
    · rename_i due
      obtain ⟨first, there, -⟩ := due
      refine accounted.release fun none_ => ?_
      rw [none_] at there
      cases there
    · rw [Option.map_none, Option.toList_none, List.append_nil, ← gathers]
      exact accounted
  | takeNow =>
    show Accounted window (log ++ (c.takeNow.2.map .released).toList) c.takeNow.1
    rw [gathers, takeNow_gathered]
    split
    · rename_i none_
      rw [Option.map_none, Option.toList_none, List.append_nil, ← none_, ← gathers]
      exact accounted
    · rename_i some_
      exact accounted.release some_

theorem accounted_run (window : Nat) (calls : List (CoalescerCall Uuid)) :
    Accounted window (log window calls) ((coalescer window).run calls) := by
  refine Machine.run_invariant (coalescer window) (fun past c => Accounted window (log window past) c) ?_ ?_ calls
  · exact ⟨rfl, fun before batch after split => by simp [log, Machine.history, Machine.history.go] at split⟩
  · intro past call accounted
    rw [log, Machine.history_snoc]
    exact accounted.step call

theorem waiting_takeNow (window : Nat) (calls : List (CoalescerCall Uuid)) :
    waiting (log window (calls ++ [.takeNow])) = [] := by
  have after := (accounted_run window (calls ++ [.takeNow])).gathers
  have emptied : (coalescer window).run (calls ++ [.takeNow]) = gathered window [] := by
    rw [Machine.run_snoc]
    show ((coalescer window).run calls).takeNow.1 = _
    rw [(accounted_run window calls).gathers, takeNow_gathered]
  rw [emptied] at after
  have none_ := congrArg Coalescer.since after
  exact List.head?_eq_none_iff.mp (Option.map_eq_none_iff.mp none_.symm)

end Coalescer

/-- Every request is covered by the first batch released after it, and a batch covers what was asked for since the one
before and nothing else. It is due one window after the first of its requests, however many follow; and nothing is
released when nothing was noted. -/
theorem coalescer_loses_nothing {Uuid : Type} [DecidableEq Uuid] (window : Nat) (calls : List (CoalescerCall Uuid)) :
    (∀ before scope now after, Coalescer.log window (calls ++ [.takeNow]) = before ++ .noted scope now :: after →
        ∃ middle batch rest, after = middle ++ .released batch :: rest ∧ (∀ other, .released other ∉ middle) ∧
          batch.Covers scope) ∧
      (∀ before batch after, Coalescer.log window (calls ++ [.takeNow]) = before ++ .released batch :: after →
        Coalescer.waiting before ≠ [] ∧
          ∀ scope, batch.Covers scope ↔ ∃ request ∈ Coalescer.waiting before, request.1.Includes scope) ∧
      ∀ past : List (CoalescerCall Uuid),
        let filed := Coalescer.waiting (Coalescer.log window past)
        ((coalescer window).run past).dueAt = (filed.head?.map fun first => first.2 + window) ∧
          (∀ now, (((coalescer window).run past).take now).2.isSome = true ↔
            ∃ first, filed.head? = some first ∧ first.2 + window ≤ now) ∧
          (((coalescer window).run past).takeNow.2.isSome = true ↔ filed ≠ []) := by
  have accounted := Coalescer.accounted_run window (calls ++ [.takeNow])
  refine ⟨fun before scope now after split => ?_, fun before batch after split => ?_, fun past => ?_⟩
  · rcases Coalescer.first_released after with none_ | ⟨middle, batch, rest, rfl, none_⟩
    · have left : (scope, now) ∈ Coalescer.waiting (before ++ .noted scope now :: after) :=
        Coalescer.mem_waiting none_
      rw [← split, Coalescer.waiting_takeNow] at left
      cases left
    · refine ⟨middle, batch, rest, rfl, none_, ?_⟩
      rw [← List.cons_append, ← List.append_assoc] at split
      obtain ⟨-, same⟩ := accounted.released _ _ _ split
      rw [same, Coalescer.merged_covers]
      refine ⟨_, Coalescer.mem_waiting none_, ?_⟩
      cases scope with
      | all => trivial
      | tool toolId => rfl
  · obtain ⟨some_, same⟩ := accounted.released before batch after split
    refine ⟨some_, fun scope => ?_⟩
    rw [same, Coalescer.merged_covers]
  · have gathers := (Coalescer.accounted_run window past).gathers
    dsimp only
    rw [gathers, Coalescer.dueAt_gathered, Coalescer.takeNow_gathered]
    refine ⟨rfl, fun now => ?_, ?_⟩
    · rw [Coalescer.take_gathered]
      split <;> simp [*]
    · split <;> simp [*]

end CoopSpaces
