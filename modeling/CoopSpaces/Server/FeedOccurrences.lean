import CoopSpaces.Server.CalendarFeed

namespace CoopSpaces.CalendarFeed

/-- In an ordered list, the first so many are those that fewer come before. -/
theorem mem_take_iff {l : List Int} (sorted : l.Pairwise (· < ·)) (n : Nat) (t : Int) :
    t ∈ l.take n ↔ t ∈ l ∧ {u | u ∈ l ∧ u < t}.encard < n := by
  induction l generalizing n with
  | nil => simp
  | cons first rest ih =>
    obtain ⟨least, later⟩ := List.pairwise_cons.mp sorted
    cases n with
    | zero => simp
    | succ n =>
      rw [List.take_succ_cons, List.mem_cons, List.mem_cons]
      by_cases own : t = first
      · subst own
        have none_ : {u | u ∈ t :: rest ∧ u < t} = ∅ := by
          refine Set.eq_empty_of_forall_notMem ?_
          rintro u ⟨there, before⟩
          rcases List.mem_cons.mp there with rfl | inRest
          · exact lt_irrefl _ before
          · exact lt_asymm before (least u inRest)
        rw [none_, Set.encard_empty]
        simp
      · rw [or_iff_right own, or_iff_right own, ih later, and_congr_right_iff]
        intro there
        have split : {u | u ∈ first :: rest ∧ u < t} = insert first {u | u ∈ rest ∧ u < t} := by
          ext u
          simp only [List.mem_cons, Set.mem_ofPred_eq, Set.mem_insert_iff]
          constructor
          · rintro ⟨rfl | inRest, before⟩
            · exact .inl rfl
            · exact .inr ⟨inRest, before⟩
          · rintro (rfl | ⟨inRest, before⟩)
            · exact ⟨.inl rfl, least t there⟩
            · exact ⟨.inr inRest, before⟩
        have fresh : first ∉ {u | u ∈ rest ∧ u < t} := fun inside => lt_irrefl _ (least first inside.1)
        rw [split, Set.encard_insert_of_notMem fresh, Nat.cast_succ]
        exact (ENat.add_lt_add_iff_right ENat.one_ne_top).symm

/-- The values of a property, each for itself. -/
def Property.values (prop : Property) : List Property :=
  (prop.value.toList.splitOn ',').map fun value => ⟨String.ofList value, prop.tzid⟩

namespace Libraries
variable (libraries : Libraries) (ctx : FeedContext)

/-- The instants a property names, where those that state no zone are read in this one. -/
def instants (siteTz : Zone) (prop : Property) : List Int :=
  prop.values.filterMap fun value => (libraries.anchorOf siteTz value).toOption.map (Anchor.startUtc siteTz)

/-- Each of its values is UTC, or a wall clock in a zone it names. -/
def StatesZone (prop : Property) : Prop :=
  ∀ value ∈ prop.values, value.isDate = false ∧
    (value.firstValue.getLast? = some 'Z' ∨ (value.tzid.bind libraries.zone).isSome)

/-- The recurrence library expands lines to the instants of the rules and of the dates put in, less the dates
taken out. Dates that state no zone are read in the zone of the host. -/
structure Expands (host : Zone) (generated : Zone → Int → List String → Int → Prop) : Prop where
  exact : ∀ lines set, libraries.ruleSet lines = .ok set → ∀ t, set.Has t ↔
    (generated lines.tz lines.stamp lines.rrules t ∨
        ∃ prop ∈ lines.rdates, t ∈ libraries.instants ((prop.tzid.bind libraries.zone).getD host) prop) ∧
      ∀ prop ∈ lines.exdates, t ∉ libraries.instants ((prop.tzid.bind libraries.zone).getD host) prop

/-- A component that cannot be used. -/
inductive Malformed (event : IcalEvent) : Prop where
  | times {why : String} (unreadable : libraries.startAndEnd ctx event = .error why)
  | rule {anchor : Anchor} {end_ : Option Int} {lines : RecurrenceLines} {e : String}
      (read : libraries.startAndEnd ctx event = .ok (anchor, end_))
        (series : recurrenceLines ctx event anchor = some lines)
      (unusable : libraries.ruleSet lines = .error e)

/-- The instant that a usable `RECURRENCE-ID` names. -/
def Names (event : IcalEvent) (t : Int) : Prop :=
  ∃ prop anchor, event.properties "RECURRENCE-ID" = some prop ∧ libraries.anchorOf ctx.siteTz prop = .ok anchor ∧
    anchor.startUtc ctx.siteTz = t

/-- A component of the same UID names the instant. -/
def Replaced (events : List IcalEvent) (event : IcalEvent) (t : Int) : Prop :=
  ∃ other ∈ events, other.uid = some (event.uid.getD "") ∧ libraries.Names ctx other t

def Excluded (event : IcalEvent) (t : Int) : Prop :=
  ∃ prop ∈ event.propertiesNamed "EXDATE", t ∈ libraries.instants ctx.siteTz prop

/-- When a component that starts so takes place. -/
def Occurs (generated : Zone → Int → List String → Int → Prop) (event : IcalEvent) (anchor : Anchor) (t : Int) :
    Prop :=
  match recurrenceLines ctx event anchor with
  | none => t = anchor.startUtc ctx.siteTz
  | some lines =>
    generated lines.tz lines.stamp lines.rrules t ∨ ∃ prop ∈ lines.rdates, t ∈ libraries.instants ctx.siteTz prop

/-- An occurrence is as long as the component says its first one is. -/
def endAt (anchor : Anchor) (end_ : Option Int) (t : Int) : Option Int :=
  (end_.map (· - anchor.startUtc ctx.siteTz)).map (t + ·)

/-- A usable component shows these instants, each once. -/
def Contributes (event : IcalEvent) (part : List CalendarEvent) (shown : Anchor → Option Int → Int → Prop) : Prop :=
  ∀ anchor end_, libraries.startAndEnd ctx event = .ok (anchor, end_) → event.isCancelled = false →
    ¬ libraries.Malformed ctx event →
    ∃ starts : List Int, starts.Pairwise (· < ·) ∧
      part = starts.map (fun t => libraries.build ctx event t (endAt ctx anchor end_ t) anchor) ∧
      ∀ t, t ∈ starts ↔ overlaps t (endAt ctx anchor end_ t) ctx = true ∧ shown anchor end_ t

/-- Each occurrence that is not taken out or replaced is shown once, each override at its own time, and a
component that cannot be used changes nothing of what others show. -/
structure ShowsEachOnce (generated : Zone → Int → List String → Int → Prop) (events : List IcalEvent)
    (outcome : ParseOutcome) : Prop where
  shown : ∃ part : IcalEvent → List CalendarEvent, outcome.events = events.flatMap part ∧ ∀ event ∈ events,
    (event.isCancelled = true ∨ libraries.Malformed ctx event → part event = []) ∧
      libraries.Contributes ctx event (part event) fun anchor _ t =>
        (event.IsOverride → t = anchor.startUtc ctx.siteTz) ∧
          (¬ event.IsOverride → libraries.Occurs ctx generated event anchor t ∧ ¬ libraries.Excluded ctx event t ∧
            ¬ libraries.Replaced ctx events event t)
  apart : ∀ before event after, events = before ++ event :: after → libraries.Malformed ctx event →
    outcome.events = (libraries.readEvents ctx (before ++ after)).events

/-- The dates that a series takes out and puts in state their zones. -/
def StatesZones (event : IcalEvent) : Prop :=
  ∀ anchor lines, recurrenceLines ctx event anchor = some lines → ∀ prop ∈ lines.exdates ++ lines.rdates,
    libraries.StatesZone prop

/-- From where on a series is expanded: the longer its occurrences are, the earlier. -/
def expandedFrom (anchor : Anchor) (end_ : Option Int) : Int :=
  ctx.from_ - max ((end_.map (· - anchor.startUtc ctx.siteTz)).getD 0) 0 - SECOND

/-- Fewer occurrences than the limit come before an instant. -/
def WithinLimit (generated : Zone → Int → List String → Int → Prop) (event : IcalEvent) (anchor : Anchor)
    (end_ : Option Int)
    (t : Int) : Prop :=
  {u | expandedFrom ctx anchor end_ ≤ u ∧ u < t ∧ libraries.Occurs ctx generated event anchor u ∧
    ¬ libraries.Excluded ctx event u}.encard < MAX_OCCURRENCES_PER_RULE

/-- What is shown by design: of a series as many occurrences as the limit allows, with a warning for the rest; a
single event whatever takes it out or replaces it; and nothing for an occurrence that a component names which cannot
be used itself. -/
structure ShowsUpToLimit (generated : Zone → Int → List String → Int → Prop) (events : List IcalEvent)
    (outcome : ParseOutcome) : Prop where
  shown : ∃ part : IcalEvent → List CalendarEvent, outcome.events = events.flatMap part ∧ ∀ event ∈ events,
    (event.isCancelled = true ∨ libraries.Malformed ctx event → part event = []) ∧
      (libraries.StatesZones ctx event → libraries.Contributes ctx event (part event) fun anchor end_ t =>
        match recurrenceLines ctx event anchor with
        | none => t = anchor.startUtc ctx.siteTz
        | some _ => libraries.Occurs ctx generated event anchor t ∧ ¬ libraries.Excluded ctx event t ∧
            ¬ libraries.Replaced ctx events event t ∧ libraries.WithinLimit ctx generated event anchor end_ t)
  reported : ∀ event ∈ events, libraries.StatesZones ctx event → event.isCancelled = false →
    ¬ libraries.Malformed ctx event →
    ∀ anchor end_ lines t, libraries.startAndEnd ctx event = .ok (anchor, end_) →
      recurrenceLines ctx event anchor = some lines → overlaps t (endAt ctx anchor end_ t) ctx = true →
        libraries.Occurs ctx generated event anchor t → ¬ libraries.Excluded ctx event t →
        ¬ libraries.WithinLimit ctx generated event anchor end_ t →
          event.title ++ ": recurrence stopped at 1000 occurrences" ∈ outcome.warnings
  apart : ∀ before event after, events = before ++ event :: after → libraries.Malformed ctx event →
    (event.uid = none ∨ ∀ t, ¬ libraries.Names ctx event t) →
      outcome.events = (libraries.readEvents ctx (before ++ after)).events

/-- What a component adds to the outcome. -/
def part (overridden : List (String × Int)) (event : IcalEvent) : ParseOutcome :=
  libraries.visit ctx overridden ⟨[], []⟩ event

variable {libraries ctx}
variable {event : IcalEvent} {overridden : List (String × Int)} {anchor : Anchor} {end_ : Option Int}
    {lines : RecurrenceLines} {set : Occurrences}

theorem pushEvent_single (read : libraries.startAndEnd ctx event = .ok (anchor, end_))
    (single : recurrenceLines ctx event anchor = none)
    (out : ParseOutcome) :
    libraries.pushEvent ctx event overridden out = .ok (if overlaps (anchor.startUtc ctx.siteTz) end_ ctx then
      { out with events := out.events ++ [libraries.build ctx event (anchor.startUtc ctx.siteTz) end_ anchor] }
        else out) := by
  rw [pushEvent, read]
  dsimp only
  rw [single]

/-- The starts of a series that are shown. -/
def starts (ctx : FeedContext) (overridden : List (String × Int)) (event : IcalEvent) (anchor : Anchor)
    (end_ : Option Int) (set : Occurrences) : List Int :=
  ((set.between (expandedFrom ctx anchor end_) (ctx.to_ + SECOND)).take MAX_OCCURRENCES_PER_RULE).filter fun t =>
    !overridden.contains (event.uid.getD "", t) && overlaps t (endAt ctx anchor end_ t) ctx

theorem pushEvent_series (read : libraries.startAndEnd ctx event = .ok (anchor, end_))
    (series : recurrenceLines ctx event anchor = some lines)
    (usable : libraries.ruleSet lines = .ok set) (out : ParseOutcome) :
    libraries.pushEvent ctx event overridden out = .ok {
      events := out.events ++
        (starts ctx overridden event anchor end_ set).map fun t =>
          libraries.build ctx event t (endAt ctx anchor end_ t) anchor
      warnings := out.warnings ++
        if set.limited (expandedFrom ctx anchor end_) (ctx.to_ + SECOND) MAX_OCCURRENCES_PER_RULE
        then [event.title ++ ": recurrence stopped at 1000 occurrences"] else [] } := by
  rw [pushEvent, read]
  dsimp only
  rw [series]
  dsimp only
  rw [usable]
  dsimp only
  congr 3
  rw [starts, ← List.filterMap_eq_map, List.filterMap_filter]
  refine List.filterMap_congr fun t _ => ?_
  unfold endAt
  by_cases taken : (event.uid.getD "", t) ∈ overridden
  · simp [taken]
  · simp [taken]

theorem pushEvent_malformed (overridden : List (String × Int)) (malformed : libraries.Malformed ctx event) :
    ∃ why, ∀ out, libraries.pushEvent ctx event overridden out = .error why := by
  rcases malformed with @⟨why, unreadable⟩ | @⟨anchor, end_, lines, e, read, series, unusable⟩
  · refine ⟨why, fun out => ?_⟩
    rw [pushEvent, unreadable]
  · refine ⟨"unusable recurrence rule: " ++ e, fun out => ?_⟩
    rw [pushEvent, read]
    dsimp only
    rw [series]
    dsimp only
    rw [unusable]

variable (libraries ctx) in
theorem usable_cases (event : IcalEvent) : libraries.Malformed ctx event ∨
    ∃ anchor end_, libraries.startAndEnd ctx event = .ok (anchor, end_) ∧ (recurrenceLines ctx event anchor = none ∨
      ∃ lines set, recurrenceLines ctx event anchor = some lines ∧ libraries.ruleSet lines = .ok set) := by
  rcases read : libraries.startAndEnd ctx event with why | ⟨anchor, end_⟩
  · exact .inl (.times read)
  · rcases series : recurrenceLines ctx event anchor with _ | lines
    · exact .inr ⟨anchor, end_, rfl, .inl series⟩
    · rcases usable : libraries.ruleSet lines with e | set
      · exact .inl (.rule read series usable)
      · exact .inr ⟨anchor, end_, rfl, .inr ⟨lines, set, series, usable⟩⟩

theorem visit_eq (out : ParseOutcome) : libraries.visit ctx overridden out event =
    ⟨out.events ++ (libraries.part ctx overridden event).events,
      out.warnings ++ (libraries.part ctx overridden event).warnings⟩ := by
  unfold part visit
  split
  · simp
  · rcases usable_cases libraries ctx event
      with malformed | ⟨anchor, end_, read, single | ⟨lines, set, series, usable⟩⟩
    · obtain ⟨why, fails⟩ := pushEvent_malformed overridden malformed
      simp [fails]
    · simp only [pushEvent_single read single]
      split
      · simp
      · simp
    · simp only [pushEvent_series read series usable]
      simp

variable (libraries ctx) in
theorem readEvents_eq (events : List IcalEvent) : libraries.readEvents ctx events =
    ⟨events.flatMap fun event => (libraries.part ctx (libraries.overridden ctx events) event).events,
      (events.flatMap fun event => (libraries.overriddenBy ctx event).2) ++
        events.flatMap fun event => (libraries.part ctx (libraries.overridden ctx events) event).warnings⟩ := by
  have each : ∀ (more : List IcalEvent) (out : ParseOutcome) (overridden : List (String × Int)),
      more.foldl (libraries.visit ctx overridden) out =
        ⟨out.events ++ more.flatMap fun event => (libraries.part ctx overridden event).events,
          out.warnings ++ more.flatMap fun event => (libraries.part ctx overridden event).warnings⟩ := by
    intro more
    induction more with
    | nil => simp
    | cons first rest ih =>
      intro out overridden
      rw [List.foldl_cons, visit_eq, ih]
      simp
  rw [readEvents, each]
  rfl

theorem mem_overridden {events : List IcalEvent} {uid : String} {t : Int} :
    (uid, t) ∈ libraries.overridden ctx events ↔ ∃ other ∈ events, other.uid = some uid ∧
      libraries.Names ctx other t := by
  rw [overridden, List.mem_flatMap]
  refine exists_congr fun other => and_congr_right fun _ => ?_
  unfold overriddenBy Names
  split
  · rename_i uid' prop isUid named
    rw [isUid, named]
    rcases read : libraries.anchorOf ctx.siteTz prop with why | anchor
    · refine iff_of_false List.not_mem_nil ?_
      rintro ⟨-, prop', anchor, same, read', -⟩
      obtain rfl := Option.some.inj same
      rw [read] at read'
      cases read'
    · rw [List.mem_singleton, Prod.mk.injEq, Option.some.injEq]
      constructor
      · rintro ⟨rfl, rfl⟩
        exact ⟨rfl, prop, anchor, rfl, read, rfl⟩
      · rintro ⟨rfl, prop', anchor', same, read', rfl⟩
        obtain rfl := Option.some.inj same
        obtain rfl := Except.ok.inj (read.symm.trans read')
        exact ⟨rfl, rfl⟩
  · rename_i missing
    refine iff_of_false List.not_mem_nil ?_
    rintro ⟨isUid, prop, anchor, named, -⟩
    exact missing uid prop isUid named

/-- What touches the window starts where a series is expanded. -/
theorem overlaps_within {t : Int} (touches : overlaps t (endAt ctx anchor end_ t) ctx = true) :
    expandedFrom ctx anchor end_ ≤ t ∧ t ≤ ctx.to_ + SECOND := by
  unfold overlaps endAt at touches
  unfold expandedFrom SECOND
  split at touches
  · cases touches
  · cases end_ with
    | none =>
      have starts : ctx.from_ ≤ t := of_decide_eq_true touches
      simp only [Option.map_none, Option.getD_none]
      omega
    | some last =>
      simp only [Option.map_some] at touches
      simp only [Option.map_some, Option.getD_some]
      split at touches
      · have runs := of_decide_eq_true touches
        omega
      · have starts := of_decide_eq_true touches
        omega

/-- A value that states its zone is read alike everywhere. -/
theorem anchorOf_of_zone {value : Property} (timed : value.isDate = false)
    (stated : value.firstValue.getLast? = some 'Z' ∨ (value.tzid.bind libraries.zone).isSome) (siteTz other : Zone) :
    (libraries.anchorOf siteTz value).toOption.map (Anchor.startUtc siteTz) =
      (libraries.anchorOf other value).toOption.map (Anchor.startUtc other) := by
  have ofTimed : ∀ (read : Except String Int) (tz : Zone),
      (read.map (Anchor.timed · tz)).toOption.map (Anchor.startUtc siteTz) =
        (read.map (Anchor.timed · tz)).toOption.map (Anchor.startUtc other) := by
    intro read tz
    cases read with
    | error why => rfl
    | ok naive => rfl
  unfold anchorOf
  rw [timed, if_neg Bool.false_ne_true, if_neg Bool.false_ne_true]
  by_cases utc : value.firstValue.getLast? = some 'Z'
  · rw [if_pos utc, if_pos utc]
    exact ofTimed _ _
  · rw [if_neg utc, if_neg utc]
    obtain ⟨zone, known⟩ := Option.isSome_iff_exists.mp (stated.resolve_left utc)
    rw [known]
    exact ofTimed _ zone

theorem instants_of_zone {prop : Property} (stated : libraries.StatesZone prop) (siteTz other : Zone) :
    libraries.instants siteTz prop = libraries.instants other prop := by
  refine List.filterMap_congr fun value there => ?_
  obtain ⟨timed, zone⟩ := stated value there
  exact anchorOf_of_zone timed zone siteTz other

theorem exdates_eq (series : recurrenceLines ctx event anchor = some lines) :
    lines.exdates = event.propertiesNamed "EXDATE" := by
  unfold recurrenceLines at series
  split at series
  · cases series
  · split at series
    · cases series
    · cases anchor with
      | date day =>
        cases series
        rfl
      | timed naive tz =>
        cases series
        rfl

variable {host : Zone} {generated : Zone → Int → List String → Int → Prop}

/-- A set of lines that state their zones has the occurrences that are not taken out. -/
theorem has_iff (expands : libraries.Expands host generated) (stated : libraries.StatesZones ctx event)
    (series : recurrenceLines ctx event anchor = some lines) (usable : libraries.ruleSet lines = .ok set) (t : Int) :
    set.Has t ↔ libraries.Occurs ctx generated event anchor t ∧ ¬ libraries.Excluded ctx event t := by
  have zones := stated anchor lines series
  have alike : ∀ prop ∈ lines.exdates ++ lines.rdates,
      libraries.instants ((prop.tzid.bind libraries.zone).getD host) prop = libraries.instants ctx.siteTz prop :=
    fun prop there => instants_of_zone (zones prop there) _ _
  have occurs : libraries.Occurs ctx generated event anchor t ↔
      generated lines.tz lines.stamp lines.rrules t ∨
        ∃ prop ∈ lines.rdates, t ∈ libraries.instants ctx.siteTz prop := by
    unfold Occurs
    rw [series]
  rw [expands.exact lines set usable, occurs]
  refine and_congr (or_congr_right ?_) ?_
  · exact exists_congr fun prop => and_congr_right fun there => by rw [alike prop (List.mem_append_right _ there)]
  · rw [Excluded, ← exdates_eq series]
    constructor
    · rintro kept ⟨prop, there, named⟩
      rw [← alike prop (List.mem_append_left _ there)] at named
      exact kept prop there named
    · intro kept prop there named
      rw [alike prop (List.mem_append_left _ there)] at named
      exact kept ⟨prop, there, named⟩

theorem mem_dates_iff (expands : libraries.Expands host generated) (stated : libraries.StatesZones ctx event)
    (series : recurrenceLines ctx event anchor = some lines) (usable : libraries.ruleSet lines = .ok set) {t : Int}
    (touches : overlaps t (endAt ctx anchor end_ t) ctx = true) :
    t ∈ (set.between (expandedFrom ctx anchor end_) (ctx.to_ + SECOND)).take MAX_OCCURRENCES_PER_RULE ↔
      libraries.Occurs ctx generated event anchor t ∧ ¬ libraries.Excluded ctx event t ∧
        libraries.WithinLimit ctx generated event anchor end_ t := by
  obtain ⟨low, high⟩ := overlaps_within touches
  have has := has_iff expands stated series usable
  have before : {u | u ∈ set.between (expandedFrom ctx anchor end_) (ctx.to_ + SECOND) ∧ u < t} =
      {u | expandedFrom ctx anchor end_ ≤ u ∧ u < t ∧ libraries.Occurs ctx generated event anchor u ∧
        ¬ libraries.Excluded ctx event u} := by
    ext u
    rw [Set.mem_ofPred_eq, Set.mem_ofPred_eq, set.mem_between]
    constructor
    · rintro ⟨⟨there, first, -⟩, early⟩
      exact ⟨first, early, (has u).mp there⟩
    · rintro ⟨first, early, occurs⟩
      exact ⟨⟨(has u).mpr occurs, first, by omega⟩, early⟩
  rw [mem_take_iff (set.sorted _ _), before, set.mem_between]
  refine Iff.trans (and_congr_left' ?_) and_assoc
  exact ⟨fun there => (has t).mp there.1, fun occurs => ⟨(has t).mpr occurs, low, high⟩⟩

theorem part_of_none (gone : event.isCancelled = true ∨ libraries.Malformed ctx event) :
    (libraries.part ctx overridden event).events = [] := by
  unfold part visit
  split
  · rfl
  · rename_i kept
    rcases gone with cancelled | malformed
    · exact absurd cancelled kept
    · obtain ⟨why, fails⟩ := pushEvent_malformed overridden malformed
      rw [fails]

theorem startAndEnd_unique {anchor' : Anchor} {end' : Option Int}
    (read : libraries.startAndEnd ctx event = .ok (anchor, end_))
    (read' : libraries.startAndEnd ctx event = .ok (anchor', end')) : anchor = anchor' ∧ end_ = end' := by
  rw [read] at read'
  exact Prod.mk.inj (Except.ok.inj read')

theorem endAt_start : endAt ctx anchor end_ (anchor.startUtc ctx.siteTz) = end_ := by
  cases end_ with
  | none => rfl
  | some last => exact congrArg some (add_sub_cancel _ _)

theorem events_part_single (kept : event.isCancelled = false)
    (read : libraries.startAndEnd ctx event = .ok (anchor, end_))
    (single : recurrenceLines ctx event anchor = none) :
    (libraries.part ctx overridden event).events = if overlaps (anchor.startUtc ctx.siteTz) end_ ctx
      then [libraries.build ctx event (anchor.startUtc ctx.siteTz) end_ anchor] else [] := by
  rw [part, visit, kept, if_neg Bool.false_ne_true, pushEvent_single read single]
  dsimp only
  split
  · rfl
  · rfl

theorem part_series (kept : event.isCancelled = false) (read : libraries.startAndEnd ctx event = .ok (anchor, end_))
    (series : recurrenceLines ctx event anchor = some lines) (usable : libraries.ruleSet lines = .ok set) :
    libraries.part ctx overridden event =
      ⟨(starts ctx overridden event anchor end_ set).map fun t => libraries.build ctx event t
        (endAt ctx anchor end_ t) anchor,
          if set.limited (expandedFrom ctx anchor end_) (ctx.to_ + SECOND) MAX_OCCURRENCES_PER_RULE
        then [event.title ++ ": recurrence stopped at 1000 occurrences"] else []⟩ := by
  rw [part, visit, kept, if_neg Bool.false_ne_true, pushEvent_series read series usable]
  rfl

/-- A usable component shows what it is to show. -/
theorem part_contributes (expands : libraries.Expands host generated) (events : List IcalEvent)
    (stated : libraries.StatesZones ctx event) :
    libraries.Contributes ctx event (libraries.part ctx (libraries.overridden ctx events) event).events
      fun anchor end_ t =>
      match recurrenceLines ctx event anchor with
      | none => t = anchor.startUtc ctx.siteTz
      | some _ => libraries.Occurs ctx generated event anchor t ∧ ¬ libraries.Excluded ctx event t ∧
          ¬ libraries.Replaced ctx events event t ∧ libraries.WithinLimit ctx generated event anchor end_ t := by
  intro anchor end_ read kept sound
  rcases usable_cases libraries ctx event with malformed | ⟨anchor', end', read', kind⟩
  · exact absurd malformed sound
  obtain ⟨rfl, rfl⟩ := startAndEnd_unique read read'
  rcases kind with single | ⟨lines, set, series, usable⟩
  · rw [events_part_single kept read single]
    dsimp only
    rw [single]
    by_cases touches : overlaps (anchor.startUtc ctx.siteTz) end_ ctx = true
    · refine ⟨[anchor.startUtc ctx.siteTz], List.pairwise_singleton _ _, ?_, fun t => ?_⟩
      · rw [if_pos touches, List.map_singleton, endAt_start]
      · rw [List.mem_singleton]
        constructor
        · rintro rfl
          rw [endAt_start]
          exact ⟨touches, rfl⟩
        · exact fun shown => shown.2
    · refine ⟨[], .nil, ?_, fun t => ?_⟩
      · rw [if_neg touches, List.map_nil]
      · refine iff_of_false List.not_mem_nil ?_
        rintro ⟨meets, rfl⟩
        rw [endAt_start] at meets
        exact touches meets
  · rw [part_series kept read series usable]
    dsimp only
    rw [series]
    refine ⟨starts ctx (libraries.overridden ctx events) event anchor end_ set, ?_, rfl, fun t => ?_⟩
    · exact (set.sorted _ _).sublist (List.filter_sublist.trans (List.take_sublist _ _))
    · rw [starts, List.mem_filter, Bool.and_eq_true, Bool.not_eq_true', ← Bool.not_eq_true,
        List.contains_iff_mem, mem_overridden]
      constructor
      · rintro ⟨there, alone, touches⟩
        obtain ⟨occurs, kept, within⟩ := (mem_dates_iff expands stated series usable touches).mp there
        exact ⟨touches, occurs, kept, alone, within⟩
      · rintro ⟨touches, occurs, kept, alone, within⟩
        exact ⟨(mem_dates_iff expands stated series usable touches).mpr ⟨occurs, kept, within⟩, alone, touches⟩

theorem limited_of_not_within (expands : libraries.Expands host generated) (stated : libraries.StatesZones ctx event)
    (series : recurrenceLines ctx event anchor = some lines) (usable : libraries.ruleSet lines = .ok set) {t : Int}
    (touches : overlaps t (endAt ctx anchor end_ t) ctx = true)
    (occurs : libraries.Occurs ctx generated event anchor t)
    (kept : ¬ libraries.Excluded ctx event t) (past : ¬ libraries.WithinLimit ctx generated event anchor end_ t) :
    set.limited (expandedFrom ctx anchor end_) (ctx.to_ + SECOND) MAX_OCCURRENCES_PER_RULE = true := by
  obtain ⟨low, high⟩ := overlaps_within touches
  have there : t ∈ set.between (expandedFrom ctx anchor end_) (ctx.to_ + SECOND) :=
    (set.mem_between _ _ _).mpr ⟨(has_iff expands stated series usable t).mpr ⟨occurs, kept⟩, low, high⟩
  refine set.cut_limited _ _ _ ?_
  by_contra short
  rw [← List.take_of_length_le (Nat.le_of_not_lt short)] at there
  exact past ((mem_dates_iff expands stated series usable touches).mp there).2.2

/-- The parser shows the occurrences of each component up to its limit. -/
theorem parse_feed_shows (expands : libraries.Expands host generated) {body : String} {outcome : ParseOutcome}
    (parsed : libraries.parseFeed ctx body = .ok outcome) :
    ∃ components, libraries.calendar body = .ok components ∧
      libraries.ShowsUpToLimit ctx generated (feedEvents components) outcome := by
  unfold parseFeed at parsed
  split at parsed
  swap
  · cases parsed
  rcases read : libraries.calendar body with e | components
  · rw [read] at parsed
    cases parsed
  rw [read] at parsed
  obtain rfl := Except.ok.inj parsed
  refine ⟨components, rfl, ?_⟩
  generalize feedEvents components = events
  have whole := readEvents_eq libraries ctx events
  constructor
  · refine ⟨fun event => (libraries.part ctx (libraries.overridden ctx events) event).events,
      by rw [whole], fun event _ => ?_⟩
    exact ⟨part_of_none, part_contributes expands events⟩
  · intro event there stated kept sound anchor end_ lines t read series touches occurs unexcluded past
    rcases usable_cases libraries ctx event
      with malformed | ⟨anchor', end', read', single | ⟨lines', set, series', usable⟩⟩
    · exact absurd malformed sound
    · obtain ⟨rfl, rfl⟩ := startAndEnd_unique read read'
      rw [single] at series
      cases series
    · obtain ⟨rfl, rfl⟩ := startAndEnd_unique read read'
      have limited := limited_of_not_within expands stated series' usable touches occurs unexcluded past
      rw [whole]
      refine List.mem_append_right _ (List.mem_flatMap.mpr ⟨event, there, ?_⟩)
      rw [part_series kept read series' usable]
      dsimp only
      rw [if_pos limited]
      exact List.mem_singleton_self _
  · rintro before event after rfl malformed unnamed
    have nothing : (libraries.overriddenBy ctx event).1 = [] := by
      unfold overriddenBy
      split
      · rename_i uid prop isUid named
        split
        · rename_i anchor read
          rcases unnamed with none_ | unnamed
          · rw [isUid] at none_
            cases none_
          · exact absurd ⟨prop, anchor, named, read, rfl⟩ (unnamed _)
        · rfl
      · rfl
    have same : libraries.overridden ctx (before ++ event :: after) = libraries.overridden ctx (before ++ after) := by
      rw [overridden, overridden, List.flatMap_append, List.flatMap_append, List.flatMap_cons, nothing,
        List.nil_append]
    rw [whole, readEvents_eq libraries ctx (before ++ after), same]
    dsimp only
    rw [List.flatMap_append, List.flatMap_append, List.flatMap_cons, part_of_none (.inr malformed), List.nil_append]

/-- Each instant that is shown is one that a component is to show. -/
theorem ShowsEachOnce.of_mem {events : List IcalEvent} {outcome : ParseOutcome}
    (claim : libraries.ShowsEachOnce ctx generated events outcome) {t : Int}
    (there : t ∈ outcome.events.map (·.start)) :
    ∃ event ∈ events, ∃ anchor end_, libraries.startAndEnd ctx event = .ok (anchor, end_) ∧
      (event.IsOverride → t = anchor.startUtc ctx.siteTz) ∧
        (¬ event.IsOverride → ¬ libraries.Excluded ctx event t ∧ ¬ libraries.Replaced ctx events event t) := by
  obtain ⟨part, whole, each⟩ := claim.shown
  rw [whole] at there
  obtain ⟨shown, inParts, rfl⟩ := List.mem_map.mp there
  obtain ⟨event, listed, inPart⟩ := List.mem_flatMap.mp inParts
  obtain ⟨gone, contributes⟩ := each event listed
  have kept : ¬ (event.isCancelled = true ∨ libraries.Malformed ctx event) := by
    intro lost
    rw [gone lost] at inPart
    cases inPart
  rw [not_or, Bool.not_eq_true] at kept
  rcases usable_cases libraries ctx event with malformed | ⟨anchor, end_, read, -⟩
  · exact absurd malformed kept.2
  obtain ⟨starts, -, same, members⟩ := contributes anchor end_ read kept.1 kept.2
  rw [same] at inPart
  obtain ⟨t, inStarts, rfl⟩ := List.mem_map.mp inPart
  obtain ⟨-, own, other⟩ := (members t).mp inStarts
  exact ⟨event, listed, anchor, end_, read, own, fun single => (other single).2⟩

end Libraries

section
/-- A zone that is always so far ahead. -/
def fixed (offset : Int) : Tz where
  localTime t := t + offset
  earliest naive := some (naive - offset)
  reads naive t read := by
    obtain rfl := Option.some.inj read
    exact ⟨by omega, fun u same => by omega⟩
  skips naive none_ := nomatch none_

/-- All instants so far apart, from one on. -/
def Occurrences.every (start step : Int) (ahead : 0 < step) : Occurrences where
  between after before :=
    ((List.range ((before - start) / step + 1).toNat).map fun k : Nat => start + k * step).filter fun t =>
      after ≤ t ∧ t ≤ before
  sorted after before := by
    refine List.Pairwise.filter _ (List.pairwise_map.mpr (List.pairwise_lt_range.imp ?_))
    intro i j earlier
    have less : (i : Int) * step < j * step := Int.mul_lt_mul_of_pos_right (Int.ofNat_lt.mpr earlier) ahead
    omega
  mem_between after before t := by
    have mem : ∀ before, (t ∈ (List.range ((before - start) / step + 1).toNat).map fun k : Nat => start + k *
      step) ∧ t ≤ before ↔
        (start ≤ t ∧ (t - start) % step = 0) ∧ t ≤ before := by
      intro before
      refine and_congr_left fun within => ?_
      rw [List.mem_map]
      constructor
      · rintro ⟨k, -, rfl⟩
        refine ⟨by have := Int.mul_nonneg (Int.natCast_nonneg k) ahead.le; omega, ?_⟩
        rw [add_sub_cancel_left]
        exact Int.mul_emod_left _ _
      · rintro ⟨late, whole⟩
        have quotient := Int.ediv_mul_cancel (Int.dvd_of_emod_eq_zero whole)
        have positive := Int.ediv_nonneg (sub_nonneg.mpr late) ahead.le
        refine ⟨((t - start) / step).toNat, List.mem_range.mpr ?_, ?_⟩
        · have ordered := Int.ediv_le_ediv ahead (sub_le_sub_right within start)
          omega
        · rw [Int.toNat_of_nonneg positive, quotient]
          omega
    have one := mem t
    have all := mem before
    simp only [List.mem_filter, decide_eq_true_eq]
    constructor
    · rintro ⟨there, low, high⟩
      exact ⟨⟨(one.mpr ⟨(all.mp ⟨there, high⟩).1, le_rfl⟩).1, le_rfl, le_rfl⟩, low, high⟩
    · rintro ⟨⟨there, -⟩, low, high⟩
      exact ⟨(all.mpr ⟨(one.mp ⟨there, le_rfl⟩).1, high⟩).1, low, high⟩
  limited after before limit :=
    limit ≤ (((List.range ((before - start) / step + 1).toNat).map fun k : Nat => start + k * step).filter
    fun t => after ≤ t ∧ t ≤ before).length
  cut_limited after before limit cut := decide_eq_true cut.le

def Occurrences.without (set : Occurrences) (taken : List Int) : Occurrences where
  between after before := (set.between after before).filter (· ∉ taken)
  sorted after before := (set.sorted after before).filter _
  mem_between after before t := by
    rw [List.mem_filter, List.mem_filter, set.mem_between after before]
    tauto
  limited after before limit := limit ≤ ((set.between after before).filter (· ∉ taken)).length
  cut_limited after before limit cut := decide_eq_true cut.le

theorem Occurrences.has_every {start step : Int} {ahead : 0 < step} {t : Int} :
    (Occurrences.every start step ahead).Has t ↔ start ≤ t ∧ (t - start) % step = 0 := by
  unfold Has every
  simp only [List.mem_filter, List.mem_map, List.mem_range, decide_eq_true_eq, le_refl, and_self, and_true]
  constructor
  · rintro ⟨k, -, rfl⟩
    refine ⟨by have := Int.mul_nonneg (Int.natCast_nonneg k) ahead.le; omega, ?_⟩
    rw [add_sub_cancel_left]
    exact Int.mul_emod_left _ _
  · rintro ⟨late, whole⟩
    have quotient := Int.ediv_mul_cancel (Int.dvd_of_emod_eq_zero whole)
    have positive := Int.ediv_nonneg (sub_nonneg.mpr late) ahead.le
    refine ⟨((t - start) / step).toNat, by omega, ?_⟩
    rw [Int.toNat_of_nonneg positive, quotient]
    omega

theorem Occurrences.has_without {set : Occurrences} {taken : List Int} {t : Int} :
    (set.without taken).Has t ↔ set.Has t ∧ t ∉ taken := by
  unfold Has without
  rw [List.mem_filter, decide_eq_true_eq]

def utcZone : Zone := ⟨"UTC", fixed 0⟩

/-- Five hours behind all year. -/
def siteZone : Zone := ⟨"Etc/GMT+5", fixed (-5 * HOUR)⟩

/-- The step of the rules that are known. -/
def stepOf (rrules : List String) : Option Int :=
  if rrules = ["FREQ=HOURLY"] then some HOUR else if rrules = ["FREQ=DAILY"] then some DAY else none

theorem stepOf_pos {rrules : List String} {step : Int} (known : stepOf rrules = some step) : 0 < step := by
  unfold stepOf at known
  split at known
  · cases known
    decide
  · split at known
    · cases known
      decide
    · cases known

/-- What the rules generate from a start. -/
def steps (tz : Zone) (stamp : Int) (rrules : List String) (t : Int) : Prop :=
  ∃ step start, stepOf rrules = some step ∧ tz.clock.earliest stamp = some start ∧ start ≤ t ∧ (t - start) % step = 0

/-- Some dates of October 2026. -/
def octoberDays (text : String) : Except String Int :=
  if text = "20261003" then .ok 20729 else if text = "20261005" then .ok 20731
    else .error "input contains invalid characters"

def octoberTimes (text : String) : Except String Int :=
  if text = "20261003T180000" then .ok (20729 * DAY + 18 * HOUR)
  else if text = "20261005T180000" then .ok (20731 * DAY + 18 * HOUR)
  else if text = "20261005T190000" then .ok (20731 * DAY + 19 * HOUR)
  else .error "input contains invalid characters"

/-- Libraries that know two rules, two zones and a few dates, on a host in UTC. -/
def octoberTexts : Libraries where
  calendar _ := .ok []
  ruleSet _ := .error "unknown"
  parseDate := octoberDays
  parseDateTime := octoberTimes
  zone name := if name = "UTC" then some utcZone else if name = "Etc/GMT+5" then some siteZone else none
  utc := utcZone
  quoted text := text
  toHtml := some

def takenDates (lines : RecurrenceLines) : List Int :=
  lines.exdates.flatMap fun prop => octoberTexts.instants ((prop.tzid.bind octoberTexts.zone).getD utcZone) prop

def octoberRules (lines : RecurrenceLines) : Except String Occurrences :=
  match known : stepOf lines.rrules, lines.tz.clock.earliest lines.stamp, lines.rdates with
  | some step, some start, [] => .ok ((Occurrences.every start step (stepOf_pos known)).without (takenDates lines))
  | _, _, _ => .error "unknown rule"

def october (events : List IcalEvent) : Libraries :=
  { octoberTexts with calendar := fun _ => .ok (events.map .event), ruleSet := octoberRules }

theorem october_expands (events : List IcalEvent) : (october events).Expands utcZone steps := by
  constructor
  intro lines set expanded t
  have alike : ∀ siteTz prop, (october events).instants siteTz prop = octoberTexts.instants siteTz prop := by
    intro siteTz prop
    unfold Libraries.instants Libraries.anchorOf october
    dsimp only
  change octoberRules lines = .ok set at expanded
  unfold octoberRules at expanded
  split at expanded
  · rename_i step start known read none_
    obtain rfl := Except.ok.inj expanded
    rw [Occurrences.has_without, Occurrences.has_every, none_]
    refine and_congr ?_ ?_
    · rw [steps, known, read]
      simp
    · simp only [takenDates, List.mem_flatMap, not_exists, not_and, alike]
      rfl
  · cases expanded

/-- A component of properties that come once each, and of excluded dates. -/
def component (properties : List (String × Property)) (exdates : List Property) : IcalEvent where
  properties key := (properties.find? (·.1 = key)).map (·.2)
  multiProperties key := if key = "EXDATE" then some exdates else none

def plain (value : String) : Property := ⟨value, none⟩

/-- From 3 October on, for so many hours. -/
def octoberWindow (hours : Int) : FeedContext :=
  ⟨"Space", "#428bca", siteZone, 20729 * DAY, 20729 * DAY + hours * HOUR⟩

theorem october_parseFeed (ctx : FeedContext) (events : List IcalEvent) :
    (october events).parseFeed ctx "BEGIN:VCALENDAR" = .ok ((october events).readEvents ctx events) := by
  have whole : feedEvents (events.map .event) = events := by
    rw [feedEvents, List.filterMap_map]
    exact List.filterMap_some
  rw [Libraries.parseFeed, if_pos (by decide +kernel)]
  show Except.ok ((october events).readEvents ctx (feedEvents (events.map .event))) = _
  rw [whole]

/-- Daily at six, not on the 5th. -/
def dailyButOnce : IcalEvent :=
  component [("UID", plain "a"), ("DTSTART", plain "20261003T180000Z"), ("RRULE", plain "FREQ=DAILY")]
    [plain "20261005T180000Z"]

/-- What a feed of components shows. -/
def octoberOutcome (events : List IcalEvent) (hours : Int) : ParseOutcome :=
  (october events).readEvents (octoberWindow hours) events

theorem dailyButOnce_shown :
    (∃ components, (october [dailyButOnce]).calendar "BEGIN:VCALENDAR" = .ok components ∧
      (october [dailyButOnce]).ShowsUpToLimit (octoberWindow 96) steps (feedEvents components)
        (octoberOutcome [dailyButOnce] 96)) ∧
    (octoberOutcome [dailyButOnce] 96).events.map (·.start) =
      [20729 * DAY + 18 * HOUR, 20730 * DAY + 18 * HOUR, 20732 * DAY + 18 * HOUR] :=
  ⟨Libraries.parse_feed_shows (october_expands _) (october_parseFeed _ _), by decide +kernel⟩

/-- Every hour, without an end. -/
def hourly : IcalEvent :=
  component [("UID", plain "a"), ("DTSTART", plain "20261003T180000Z"), ("RRULE", plain "FREQ=HOURLY")] []

/-- Every day, but not on the 5th: dates without a time. -/
def allDays : IcalEvent :=
  component [("UID", plain "a"), ("DTSTART", plain "20261003"), ("RRULE", plain "FREQ=DAILY")] [plain "20261005"]

/-- One event, which takes its own start out. -/
def takenOut : IcalEvent :=
  component [("UID", plain "a"), ("DTSTART", plain "20261005T180000Z")] [plain "20261005T180000Z"]

def single : IcalEvent := component [("UID", plain "a"), ("DTSTART", plain "20261005T180000Z")] []

/-- It is moved by an hour. -/
def moved : IcalEvent :=
  component [("UID", plain "a"), ("RECURRENCE-ID", plain "20261005T180000Z"),
    ("DTSTART", plain "20261005T190000Z")] []

/-- It is moved to no date. -/
def movedNowhere : IcalEvent :=
  component [("UID", plain "a"), ("RECURRENCE-ID", plain "20261005T180000Z"), ("DTSTART", plain "not-a-date")] []

def daily : IcalEvent :=
  component [("UID", plain "a"), ("DTSTART", plain "20261003T180000Z"), ("RRULE", plain "FREQ=DAILY")] []

namespace Libraries
variable {libraries : Libraries} {ctx : FeedContext} {event : IcalEvent}

theorem excluded_of_mem {t : Int}
    (there : t ∈ (event.propertiesNamed "EXDATE").flatMap (libraries.instants ctx.siteTz)) :
    libraries.Excluded ctx event t := List.mem_flatMap.mp there

theorem names_of_read {t : Int}
    (read : ((event.properties "RECURRENCE-ID").bind fun prop =>
      (libraries.anchorOf ctx.siteTz prop).toOption.map (Anchor.startUtc ctx.siteTz)) = some t) :
        libraries.Names ctx event t := by
  obtain ⟨prop, named, read⟩ := Option.bind_eq_some_iff.mp read
  obtain ⟨anchor, read, start⟩ := Option.map_eq_some_iff.mp read
  rcases parsed : libraries.anchorOf ctx.siteTz prop with why | anchor'
  · rw [parsed] at read
    cases read
  · rw [parsed] at read
    obtain rfl := Option.some.inj read
    exact ⟨prop, anchor', named, parsed, start⟩

theorem start_of_read {t : Int} {anchor : Anchor} {end_ : Option Int}
    (read : libraries.startAndEnd ctx event = .ok (anchor, end_))
    (starts : (libraries.startAndEnd ctx event).toOption.map (fun times => times.1.startUtc ctx.siteTz) = some t) :
    anchor.startUtc ctx.siteTz = t := by
  rw [read] at starts
  exact Option.some.inj starts

end Libraries

/-- The rule takes place at every hour of the window from six on the 3rd. -/
theorem hourly_occurs {anchor : Anchor} {end_ : Option Int}
    (read : (october [hourly]).startAndEnd (octoberWindow 1100) hourly = .ok (anchor, end_)) {k : Nat}
    (within : k < 1001) :
    overlaps (20729 * DAY + 18 * HOUR + k * HOUR)
      (Libraries.endAt (octoberWindow 1100) anchor end_ (20729 * DAY + 18 * HOUR + k * HOUR))
        (octoberWindow 1100) = true ∧
      (october [hourly]).Occurs (octoberWindow 1100) steps hourly anchor (20729 * DAY + 18 * HOUR + k * HOUR) := by
  have evaluated : (((october [hourly]).startAndEnd (octoberWindow 1100) hourly).toOption.bind fun times =>
      (Libraries.recurrenceLines (octoberWindow 1100) hourly times.1).map fun lines =>
        (lines.tz.clock.earliest lines.stamp, lines.rrules, times.2)) =
      some (some (20729 * DAY + 18 * HOUR), ["FREQ=HOURLY"], none) := by decide +kernel
  rw [read, Except.toOption, Option.bind_some] at evaluated
  obtain ⟨lines, series, parts⟩ := Option.map_eq_some_iff.mp evaluated
  obtain ⟨first, rest⟩ := Prod.mk.inj parts
  obtain ⟨rules, none_⟩ := Prod.mk.inj rest
  subst none_
  have low : (0 : Int) ≤ k * HOUR := Int.mul_nonneg (Int.natCast_nonneg k) (by decide)
  have high : (k : Int) * HOUR ≤ 1000 * HOUR := Int.mul_le_mul_of_nonneg_right (by omega) (by decide)
  have hour : (0 : Int) < HOUR := by decide
  constructor
  · show (if 20729 * DAY + 1100 * HOUR ≤ 20729 * DAY + 18 * HOUR + k * HOUR then false
      else decide (20729 * DAY ≤ 20729 * DAY + 18 * HOUR + k * HOUR)) = true
    rw [if_neg (by omega), decide_eq_true_eq]
    omega
  · unfold Libraries.Occurs
    rw [series]
    refine .inl ⟨HOUR, _, by rw [rules]; rfl, first, by omega, ?_⟩
    rw [add_sub_cancel_left]
    exact Int.mul_emod_left _ _

/-- An hourly rule fills no longer window, a date taken out without a zone stays, so does a single event that is
taken out or moved, and a component that is moved to no date takes an occurrence away. -/
theorem not_shown_each_once :
    ¬ (october [hourly]).ShowsEachOnce (octoberWindow 1100) steps [hourly] (octoberOutcome [hourly] 1100) ∧
    ¬ (october [allDays]).ShowsEachOnce (octoberWindow 96) steps [allDays] (octoberOutcome [allDays] 96) ∧
    ¬ (october [takenOut]).ShowsEachOnce (octoberWindow 96) steps [takenOut] (octoberOutcome [takenOut] 96) ∧
    ¬ (october [single, moved]).ShowsEachOnce (octoberWindow 96) steps [single, moved]
      (octoberOutcome [single, moved] 96) ∧
    ¬ (october [daily, movedNowhere]).ShowsEachOnce (octoberWindow 96) steps [daily, movedNowhere]
      (octoberOutcome [daily, movedNowhere] 96) := by
  refine ⟨fun claim => ?_, fun claim => ?_, fun claim => ?_, fun claim => ?_, fun claim => ?_⟩
  · obtain ⟨part, whole, each⟩ := claim.shown
    have limited : (octoberOutcome [hourly] 1100).events.length = 1000 := by decide +kernel
    obtain ⟨gone, contributes⟩ := each hourly (List.mem_singleton_self _)
    rw [whole, List.flatMap_singleton] at limited
    rcases Libraries.usable_cases (october [hourly]) (octoberWindow 1100) hourly
      with malformed | ⟨anchor, end_, read, -⟩
    · rw [gone (.inr malformed)] at limited
      cases limited
    obtain ⟨starts, -, same, members⟩ := contributes anchor end_ read (by decide +kernel)
      fun malformed => by rw [gone (.inr malformed)] at limited; cases limited
    have all : (List.range 1001).map (fun k : Nat => 20729 * DAY + 18 * HOUR + k * HOUR) ⊆ starts := by
      intro t there
      obtain ⟨k, within, rfl⟩ := List.mem_map.mp there
      obtain ⟨touches, occurs⟩ := hourly_occurs read (List.mem_range.mp within)
      refine (members _).mpr ⟨touches, fun override => absurd override (by decide), fun _ => ⟨occurs, ?_, ?_⟩⟩
      · rintro ⟨prop, none_, -⟩
        cases none_
      · rintro ⟨other, listed, -, prop, anchor, named, -⟩
        obtain rfl := List.mem_singleton.mp listed
        cases named
    have distinct : ((List.range 1001).map fun k : Nat => 20729 * DAY + 18 * HOUR + k * HOUR).Nodup := by
      refine List.nodup_range.map
        fun i j (together : 20729 * DAY + 18 * HOUR + i * HOUR = 20729 * DAY + 18 * HOUR + j * HOUR) => ?_
      have hour : HOUR = 3600000000000 := rfl
      rw [hour] at together
      omega
    have length := (distinct.subperm all).length_le
    rw [List.length_map, List.length_range] at length
    rw [same, List.length_map] at limited
    omega
  · have there : 20731 * DAY + 5 * HOUR ∈ (octoberOutcome [allDays] 96).events.map (·.start) := by decide +kernel
    obtain ⟨event, listed, anchor, end_, -, -, other⟩ := claim.of_mem there
    obtain rfl := List.mem_singleton.mp listed
    exact (other (by decide)).1 (Libraries.excluded_of_mem (by decide +kernel))
  · have there : 20731 * DAY + 18 * HOUR ∈ (octoberOutcome [takenOut] 96).events.map (·.start) := by decide +kernel
    obtain ⟨event, listed, anchor, end_, -, -, other⟩ := claim.of_mem there
    obtain rfl := List.mem_singleton.mp listed
    exact (other (by decide)).1 (Libraries.excluded_of_mem (by decide +kernel))
  · have there : 20731 * DAY + 18 * HOUR ∈ (octoberOutcome [single, moved] 96).events.map (·.start) := by
      decide +kernel
    obtain ⟨event, listed, anchor, end_, read, own, other⟩ := claim.of_mem there
    rcases List.mem_pair.mp listed with rfl | rfl
    · refine (other (by decide)).2 ⟨moved, List.mem_pair.mpr (.inr rfl), by decide +kernel, ?_⟩
      exact Libraries.names_of_read (by decide +kernel)
    · have starts : anchor.startUtc siteZone = 20731 * DAY + 19 * HOUR :=
        Libraries.start_of_read read (by decide +kernel)
      have same : 20731 * DAY + 18 * HOUR = 20731 * DAY + 19 * HOUR := (own (by decide)).trans starts
      revert same
      decide
  · have malformed : (october [daily, movedNowhere]).Malformed (octoberWindow 96) movedNowhere := by
      rcases read : (october [daily, movedNowhere]).startAndEnd (octoberWindow 96) movedNowhere with why | times
      · exact .times read
      · have unread : ((october [daily, movedNowhere]).startAndEnd
            (octoberWindow 96) movedNowhere).toOption.isSome = false := by
          decide +kernel
        rw [read] at unread
        cases unread
    have alike := claim.apart [daily] movedNowhere [] rfl malformed
    have starts := congrArg (List.map (·.start)) alike
    revert starts
    decide +kernel

end

end CoopSpaces.CalendarFeed
