import Mathlib.Data.List.Destutter

structure Sample (Value : Type) where
  value : Value
  taken : Int
  deriving DecidableEq

namespace Signal
variable {Value : Type}

/-- The samples a signal's value changed at: the first of each run of equal values. -/
def runs [DecidableEq Value] (samples : List (Sample Value)) : List (Sample Value) :=
  samples.destutter fun a b => a.value ≠ b.value

/-- Each run beside the instant it ended: the next run's start, or `now`. -/
def spans : List (Sample Value) → Int → List (Sample Value × Int)
  | [], _ => []
  | [run], now => [(run, now)]
  | run :: next :: rest, now => (run, next.taken) :: spans (next :: rest) now

def held (delay : Int) (span : Sample Value × Int) : Bool := decide (delay ≤ span.2 - span.1.taken)

/-- The value a signal last held for at least the delay, or the default before any. -/
def debounced (delay : Int) (default : Value) (runs : List (Sample Value)) (now : Int) : Value :=
  ((((spans runs now).filter (held delay)).getLast?).map (·.1.value)).getD default

theorem spans_append (front : List (Sample Value)) (run : Sample Value) (back : List (Sample Value)) (now : Int) :
    spans (front ++ run :: back) now = spans front run.taken ++ spans (run :: back) now := by
  induction front with
  | nil => rfl
  | cons first rest ih =>
    cases rest with
    | nil => rfl
    | cons second rest => simpa only [List.cons_append, spans, List.cons.injEq, true_and] using ih

theorem length_spans (runs : List (Sample Value)) (now : Int) : (spans runs now).length = runs.length := by
  induction runs with
  | nil => rfl
  | cons first rest ih =>
    cases rest with
    | nil => rfl
    | cons second rest => simpa only [spans, List.length_cons, Nat.add_right_cancel_iff] using ih

theorem debounced_snoc (delay : Int) (default : Value) (front : List (Sample Value)) (run : Sample Value)
    (now : Int) :
    debounced delay default (front ++ [run]) now =
      if delay ≤ now - run.taken then run.value else debounced delay default front run.taken := by
  have split := spans_append front run [] now
  by_cases settled : delay ≤ now - run.taken
  · simp [debounced, split, spans, List.filter_append, held, settled]
  · simp [debounced, split, spans, List.filter_append, held, settled]

def ending (runs : List (Sample Value)) (now : Int) : Int := (runs.head?.map (·.taken)).getD now

theorem spans_cons (run : Sample Value) (runs : List (Sample Value)) (now : Int) :
    spans (run :: runs) now = (run, ending runs now) :: spans runs now := by
  cases runs <;> rfl

theorem short_not_held {delay : Int} {some_ : List (Sample Value × Int)}
    (short : ∀ span ∈ some_, span.2 - span.1.taken < delay) : some_.filter (held delay) = [] := by
  rw [List.filter_eq_nil_iff]
  intro span member
  have brief := short span member
  simp only [held, decide_eq_true_eq]
  omega

theorem debounced_append_short {delay : Int} (default : Value) {front : List (Sample Value)} {run : Sample Value}
    {back : List (Sample Value)} {now : Int}
    (short : ∀ span ∈ spans (run :: back) now, span.2 - span.1.taken < delay) :
    debounced delay default (front ++ run :: back) now = debounced delay default front run.taken := by
  simp only [debounced, spans_append, List.filter_append, short_not_held short, List.append_nil]

variable [DecidableEq Value]

theorem destutter'_snoc (first : Sample Value) (samples : List (Sample Value)) (next : Sample Value) :
    ∃ front last, samples.destutter' (fun a b => a.value ≠ b.value) first = front ++ [last] ∧
      (samples ++ [next]).destutter' (fun a b => a.value ≠ b.value) first =
        if last.value = next.value then front ++ [last] else front ++ [last, next] := by
  induction samples generalizing first with
  | nil =>
    refine ⟨[], first, rfl, ?_⟩
    by_cases same : first.value = next.value <;> simp [same]
  | cons second rest ih =>
    by_cases change : first.value ≠ second.value
    · obtain ⟨front, last, before, after⟩ := ih second
      refine ⟨first :: front, last, ?_, ?_⟩
      · rw [List.destutter', if_pos change, before, List.cons_append]
      · rw [List.cons_append, List.destutter', if_pos change, after]
        split <;> rfl
    · obtain ⟨front, last, before, after⟩ := ih first
      refine ⟨front, last, ?_, ?_⟩
      · rw [List.destutter', if_neg change, before]
      · rw [List.cons_append, List.destutter', if_neg change, after]

/-- One more sample: the first starts the first run, a later one starts a run if
its value is not the last run's. -/
theorem runs_snoc (samples : List (Sample Value)) (next : Sample Value) :
    (samples = [] ∧ runs (samples ++ [next]) = [next]) ∨
      ∃ front last, runs samples = front ++ [last] ∧
        runs (samples ++ [next]) = if last.value = next.value then front ++ [last] else front ++ [last, next] := by
  cases samples with
  | nil => exact .inl ⟨rfl, rfl⟩
  | cons first rest => exact .inr (destutter'_snoc first rest next)

theorem runs_append (samples more : List (Sample Value)) :
    ∃ added, runs (samples ++ more) = runs samples ++ added ∧ ∀ run ∈ added, run ∈ more := by
  induction more using List.reverseRecOn with
  | nil => exact ⟨[], by simp, by simp⟩
  | append_singleton more next ih =>
    obtain ⟨added, so, among⟩ := ih
    have still : ∀ run ∈ added, run ∈ more ++ [next] := fun run member => List.mem_append_left _ (among run member)
    rw [← List.append_assoc]
    obtain ⟨empty, one⟩ | ⟨front, last, before, after⟩ := runs_snoc (samples ++ more) next
    · have none_ : samples = [] := (List.append_eq_nil_iff.mp empty).1
      exact ⟨[next], by rw [one, none_]; rfl, by simp⟩
    · rw [before] at so
      by_cases same : last.value = next.value
      · exact ⟨added, by rw [after, if_pos same, so], still⟩
      · refine ⟨added ++ [next], ?_, ?_⟩
        · have longer : front ++ [last, next] = (front ++ [last]) ++ [next] := by simp
          rw [after, if_neg same, longer, so, List.append_assoc]
        · intro run member
          rcases List.mem_append.mp member with old | fresh
          · exact still run old
          · exact List.mem_append_right _ fresh

/-- A flapping signal: while every span begun after `earlier` is shorter than the
delay, and the one current then is too unless it had already settled, the
debounced value stays what it was. -/
theorem debounced_flapping {delay earlier now : Int} (default : Value) {samples more : List (Sample Value)}
    (ordered : ∀ sample ∈ more, earlier ≤ sample.taken) (after : earlier ≤ now)
    (short : ∀ span ∈ (spans (runs (samples ++ more)) now).drop (runs samples).length, span.2 - span.1.taken < delay)
    (current : ∀ span, (spans (runs (samples ++ more)) now)[(runs samples).length - 1]? = some span →
      span.2 - span.1.taken < delay ∨ delay ≤ earlier - span.1.taken) :
    debounced delay default (runs (samples ++ more)) now = debounced delay default (runs samples) earlier := by
  obtain ⟨added, split, among⟩ := runs_append samples more
  rw [split] at short current ⊢
  rcases List.eq_nil_or_concat (runs samples) with empty | ⟨front, last, concat⟩
  · simp only [empty, List.nil_append, List.length_nil, List.drop_zero] at short ⊢
    simp only [debounced, short_not_held short]
    rfl
  · have whole : spans (front ++ last :: added) now =
        spans front last.taken ++ (last, ending added now) :: spans added now := by
      rw [spans_append, spans_cons]
    have ends : earlier ≤ ending added now := by
      cases added with
      | nil => exact after
      | cons run back => exact ordered run (among run (List.mem_cons_self ..))
    have size := length_spans front last.taken
    rw [List.concat_eq_append] at concat
    simp only [concat, List.append_assoc, List.singleton_append, List.length_append, List.length_singleton,
      Nat.add_sub_cancel, whole] at short current ⊢
    have tail : ∀ span ∈ spans added now, span.2 - span.1.taken < delay := by
      intro span member
      refine short span ?_
      rw [← size, List.drop_append, List.drop_of_length_le (by omega)]
      simpa using member
    have here := current (last, ending added now) (by rw [← size]; simp)
    simp only at here
    rw [debounced_snoc]
    rcases here with brief | settled
    · rw [if_neg (by omega), debounced_append_short]
      rw [spans_cons]
      intro span member
      rcases List.mem_cons.mp member with rfl | later
      · exact brief
      · exact tail span later
    · rw [if_pos settled]
      have counts : held delay (last, ending added now) = true := by
        simp only [held, decide_eq_true_eq]
        omega
      simp [debounced, whole, List.filter_append, counts, short_not_held tail]

end Signal
