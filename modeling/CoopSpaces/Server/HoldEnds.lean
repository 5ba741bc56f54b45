import CoopSpaces.Server.OpenWindows
import Mathlib.Data.List.Find
import Mathlib.Data.Set.Finite.Lemmas

namespace CoopSpaces

section Holds
variable {Uuid Json : Type} [DecidableEq Uuid] {zone : SiteZone Json} {rules : List (AccessRule Uuid)}
  {schedules : List (Schedule Uuid Json)} {now : Int}

/-- A rule that lets anyone in while its windows are open, and these windows, where they can be read. -/
def Opens (zone : SiteZone Json) (schedules : List (Schedule Uuid Json)) (rule : AccessRule Uuid)
    (intervals : List ScheduleInterval) :
    Prop :=
  DoorRuleKind.parse rule.kind = some .openAccess ∧ DoorRuleEffect.parse rule.effect = some .allow ∧
    ∃ sid sched, rule.scheduleId = some sid ∧ schedules.find? (fun s => s.id = sid) = some sched ∧
      zone.parseIntervals sched.intervals = some intervals

/-- The end one rule contributes. -/
def ruleHold (zone : SiteZone Json) (schedules : List (Schedule Uuid Json)) (now : Int)
    (rule : AccessRule Uuid) : Option Int :=
  if DoorRuleKind.parse rule.kind ≠ some .openAccess then none
  else if DoorRuleEffect.parse rule.effect ≠ some .allow then none
  else (rule.scheduleId.bind fun sid => schedules.find? fun s => s.id = sid).bind fun sched =>
    (zone.parseIntervals sched.intervals).bind (activeUntil zone · now)

theorem ruleHold_eq_some {rule : AccessRule Uuid} {e : Int} : ruleHold zone schedules now rule = some e ↔
    ∃ intervals, Opens zone schedules rule intervals ∧ activeUntil zone intervals now = some e := by
  unfold ruleHold Opens
  split
  · rename_i other
    refine iff_of_false nofun ?_
    rintro ⟨_, ⟨kind, -⟩, -⟩
    exact other kind
  · rename_i kind
    rw [not_not] at kind
    split
    · rename_i other
      refine iff_of_false nofun ?_
      rintro ⟨_, ⟨-, effect, -⟩, -⟩
      exact other effect
    · rename_i effect
      rw [not_not] at effect
      simp only [Option.bind_eq_some_iff, kind, effect, true_and]
      constructor
      · rintro ⟨sched, ⟨sid, named, found⟩, intervals, parsed, active⟩
        exact ⟨intervals, ⟨sid, sched, named, found, parsed⟩, active⟩
      · rintro ⟨intervals, ⟨sid, sched, named, found, parsed⟩, active⟩
        exact ⟨sched, ⟨sid, named, found⟩, intervals, parsed, active⟩

/-- The ends that a list of rules contributes. -/
def holdEnds (zone : SiteZone Json) (rules : List (AccessRule Uuid)) (schedules : List (Schedule Uuid Json))
    (now : Int) : Set Int :=
  {e | ∃ rule ∈ rules, ruleHold zone schedules now rule = some e}

def laterHold (zone : SiteZone Json) (schedules : List (Schedule Uuid Json)) (now : Int) (latest : Option Int)
    (rule : AccessRule Uuid) :
    Option Int :=
  match ruleHold zone schedules now rule with
  | none => latest
  | some e => some (latest.elim e (max · e))

theorem openAccessHoldUntilAt_eq (zone : SiteZone Json) (rules : List (AccessRule Uuid))
    (schedules : List (Schedule Uuid Json))
    (now : Int) : openAccessHoldUntilAt zone rules schedules now =
      rules.foldl (laterHold zone schedules now) none := by
  unfold openAccessHoldUntilAt
  congr 1
  funext latest rule
  unfold laterHold ruleHold
  split
  · rfl
  · split
    · rfl
    · generalize (rule.scheduleId.bind fun sid : Uuid => schedules.find? fun s => decide (s.id = sid)) = found
      rcases found with _ | sched
      · rfl
      · rfl

/-- Two values count as the larger of them. -/
theorem isGreatest_max_union {α : Type} [LinearOrder α] {l e v : α} {ends : Set α} :
    IsGreatest ({max l e} ∪ ends) v ↔ IsGreatest ({l} ∪ {e} ∪ ends) v := by
  have bounds : v ∈ upperBounds ({max l e} ∪ ends) ↔ v ∈ upperBounds ({l} ∪ {e} ∪ ends) := by
    simp only [upperBounds_union, upperBounds_singleton, Set.mem_inter_iff, Set.mem_Ici, max_le_iff]
  constructor
  · rintro ⟨one, above⟩
    refine ⟨?_, bounds.mp above⟩
    rcases one with larger | old
    · rcases max_choice l e with same | same
      · exact .inl (.inl (larger.trans same))
      · exact .inl (.inr (larger.trans same))
    · exact .inr old
  · rintro ⟨one, above⟩
    refine ⟨?_, bounds.mpr above⟩
    rcases one with (first | second) | old
    · refine .inl (le_antisymm (first.le.trans (le_max_left l e)) (max_le first.ge ?_))
      exact above (.inl (.inr rfl))
    · refine .inl (le_antisymm (second.le.trans (le_max_right l e)) (max_le ?_ second.ge))
      exact above (.inl (.inl rfl))
    · exact .inr old

theorem holdEnds_nil : holdEnds zone ([] : List (AccessRule Uuid)) schedules now = ∅ := by
  simp [holdEnds]

theorem holdEnds_cons {rule : AccessRule Uuid} : holdEnds zone (rule :: rules) schedules now =
    {e | ruleHold zone schedules now rule = some e} ∪ holdEnds zone rules schedules now := by
  ext e
  simp only [holdEnds, List.mem_cons, exists_eq_or_imp, Set.mem_ofPred_eq, Set.mem_union]

theorem foldl_laterHold (latest : Option Int) {v : Int} : rules.foldl (laterHold zone schedules now) latest = some v ↔
    IsGreatest ({e | latest = some e} ∪ holdEnds zone rules schedules now) v := by
  induction rules generalizing latest with
  | nil =>
    rw [holdEnds_nil, Set.union_empty, List.foldl_nil]
    constructor
    · rintro rfl
      exact ⟨rfl, fun e same => (Option.some.inj same).ge⟩
    · exact fun greatest => greatest.1
  | cons rule rest ih =>
    have single : ∀ x : Int, {e | some x = some e} = ({x} : Set Int) := by
      intro x
      ext e
      simp [eq_comm]
    rw [List.foldl_cons, ih, holdEnds_cons, ← Set.union_assoc, laterHold]
    rcases ruleHold zone schedules now rule with _ | e
    · simp
    · rcases latest with _ | l
      · simp
      · dsimp only [Option.elim]
        rw [single, single, single]
        exact isGreatest_max_union

theorem openAccessHoldUntilAt_eq_some {v : Int} : openAccessHoldUntilAt zone rules schedules now = some v ↔
    IsGreatest (holdEnds zone rules schedules now) v := by
  rw [openAccessHoldUntilAt_eq, foldl_laterHold]
  simp

theorem mem_holdEnds {e : Int} : e ∈ holdEnds zone rules schedules now ↔
    ∃ rule ∈ rules, ∃ intervals, Opens zone schedules rule intervals ∧ activeUntil zone intervals now = some e := by
  constructor
  · rintro ⟨rule, listed, held⟩
    exact ⟨rule, listed, ruleHold_eq_some.mp held⟩
  · rintro ⟨rule, listed, held⟩
    exact ⟨rule, listed, ruleHold_eq_some.mpr held⟩

theorem holdEnds_finite : (holdEnds zone rules schedules now).Finite := by
  induction rules with
  | nil =>
    rw [holdEnds_nil]
    exact Set.finite_empty
  | cons rule rest ih =>
    rw [holdEnds_cons]
    have one : {e | ruleHold zone schedules now rule = some e}.Subsingleton := fun e held e' held' =>
      Option.some.inj (held.symm.trans held')
    exact one.finite.union ih

theorem isSome_openAccessHoldUntilAt :
    (openAccessHoldUntilAt zone rules schedules now).isSome = true ↔
      (holdEnds zone rules schedules now).Nonempty := by
  rw [Option.isSome_iff_exists]
  constructor
  · rintro ⟨v, held⟩
    exact (openAccessHoldUntilAt_eq_some.mp held).nonempty
  · intro some_
    obtain ⟨v, member, above⟩ := Set.exists_max_image _ id holdEnds_finite some_
    exact ⟨v, openAccessHoldUntilAt_eq_some.mpr ⟨member, above⟩⟩

theorem openAccessHoldUntilAt_congr {rules' : List (AccessRule Uuid)} {schedules' : List (Schedule Uuid Json)}
    (same : holdEnds zone rules' schedules' now = holdEnds zone rules schedules now) :
    openAccessHoldUntilAt zone rules' schedules' now = openAccessHoldUntilAt zone rules schedules now := by
  refine Option.ext fun v => ?_
  rw [openAccessHoldUntilAt_eq_some, openAccessHoldUntilAt_eq_some, same]

theorem holdEnds_perm {rules' : List (AccessRule Uuid)} {schedules' : List (Schedule Uuid Json)}
    (swapped : rules.Perm rules')
    (swapped' : schedules.Perm schedules') (distinct : (schedules.map (·.id)).Nodup) :
    holdEnds zone rules' schedules' now = holdEnds zone rules schedules now := by
  have found : ∀ sid, schedules'.find? (fun s => s.id = sid) = schedules.find? fun s => s.id = sid := by
    intro sid
    refine (List.find?_eq_find?_of_perm swapped' fun one here other there => ?_).symm
    exact List.inj_on_of_nodup_map distinct here.1 there.1
      ((of_decide_eq_true here.2).trans (of_decide_eq_true there.2).symm)
  ext e
  simp only [holdEnds, ruleHold, found, swapped.mem_iff]

/-- A hold of a door. It is there while a window is open, ends with the last of the open windows and later than
now, and goes by the rules there are in any order; a rule more never ends it earlier, and one that opens nothing
changes nothing. -/
structure HoldLaws (zone : SiteZone Json) (rules : List (AccessRule Uuid))
    (schedules : List (Schedule Uuid Json)) (now : Int) :
    Prop where
  held : (openAccessHoldUntilAt zone rules schedules now).isSome = true ↔
    ∃ rule ∈ rules, ∃ intervals, Opens zone schedules rule intervals ∧ matchesAt zone.site intervals now = true
  latest : ∀ v, openAccessHoldUntilAt zone rules schedules now = some v → IsGreatest {e | ∃ rule ∈ rules, ∃ intervals,
    Opens zone schedules rule intervals ∧ activeUntil zone intervals now = some e} v
  later : ∀ v, openAccessHoldUntilAt zone rules schedules now = some v → now < v
  order : ∀ rules' schedules', rules.Perm rules' → schedules.Perm schedules' → (schedules.map (·.id)).Nodup →
    openAccessHoldUntilAt zone rules' schedules' now = openAccessHoldUntilAt zone rules schedules now
  added : ∀ before after rule, rules = before ++ after →
    ∀ v, openAccessHoldUntilAt zone rules schedules now = some v →
    ∃ v', openAccessHoldUntilAt zone (before ++ rule :: after) schedules now = some v' ∧ v ≤ v'
  inert : ∀ before after rule, rules = before ++ after → (∀ intervals, ¬ Opens zone schedules rule intervals) →
    openAccessHoldUntilAt zone (before ++ rule :: after) schedules now =
      openAccessHoldUntilAt zone rules schedules now

/-- Where a window is open, one of the rules' windows ends at a wall clock that is read later than now, or is skipped
and read a minute earlier, later than now all the same. -/
def EndsAhead (zone : SiteZone Json) (rules : List (AccessRule Uuid)) (schedules : List (Schedule Uuid Json))
    (now : Int) : Prop :=
  (∃ rule ∈ rules, ∃ intervals, Opens zone schedules rule intervals ∧ matchesAt zone.site intervals now = true) →
    ∃ rule ∈ rules, ∃ intervals, Opens zone schedules rule intervals ∧
      ∃ end_, RunEnds zone intervals now end_ ∧ ∃ e, now < e ∧
        (zone.tz.earliest (midnight (zone.tz.date now) + end_) = some e ∨
        zone.tz.earliest (midnight (zone.tz.date now) + end_) = none ∧
          zone.single (midnight (zone.tz.date now) + end_ - MINUTE) = some e)

theorem closing_eq_some {naiveEnd e : Int} : zone.closing naiveEnd = some e ↔
    zone.tz.earliest naiveEnd = some e ∨ zone.tz.earliest naiveEnd = none ∧
      zone.single (naiveEnd - MINUTE) = some e := by
  unfold SiteZone.closing
  rcases zone.tz.earliest naiveEnd with _ | t
  · simp
  · simp

theorem activeUntil_eq_some {intervals : List ScheduleInterval} {e : Int} : activeUntil zone intervals now = some e ↔
    ∃ end_, RunEnds zone intervals now end_ ∧ zone.closing (midnight (zone.tz.date now) + end_) = some e := by
  rcases activeUntil_cases zone intervals now with ⟨outside, none_⟩ | ⟨end_, runs, closing⟩
  · rw [none_]
    refine iff_of_false nofun ?_
    rintro ⟨end_, runs, -⟩
    rw [runs.matches] at outside
    cases outside
  · rw [closing]
    constructor
    · exact fun closed => ⟨end_, runs, closed⟩
    · rintro ⟨other, runs', closed⟩
      rwa [runs.unique runs']

theorem EndsAhead_iff : EndsAhead zone rules schedules now ↔
    ((∃ rule ∈ rules, ∃ intervals, Opens zone schedules rule intervals ∧ matchesAt zone.site intervals now = true) →
      ∃ e ∈ holdEnds zone rules schedules now, now < e) := by
  refine imp_congr_right fun _ => ?_
  simp only [mem_holdEnds, activeUntil_eq_some, closing_eq_some]
  constructor
  · rintro ⟨rule, listed, intervals, opens, end_, runs, e, ahead, closed⟩
    exact ⟨e, ⟨rule, listed, intervals, opens, end_, runs, closed⟩, ahead⟩
  · rintro ⟨e, ⟨rule, listed, intervals, opens, end_, runs, closed⟩, ahead⟩
    exact ⟨rule, listed, intervals, opens, end_, runs, e, ahead, closed⟩

theorem holdEnds_insert {before after : List (AccessRule Uuid)} {rule : AccessRule Uuid} :
    holdEnds zone (before ++ rule :: after) schedules now =
      {e | ruleHold zone schedules now rule = some e} ∪ holdEnds zone (before ++ after) schedules now := by
  rw [← holdEnds_cons]
  ext e
  simp only [holdEnds, List.perm_middle.mem_iff]

/-- The hold keeps its laws exactly while one of the open windows ends ahead. -/
theorem hold_laws_iff (zone : SiteZone Json) (rules : List (AccessRule Uuid))
    (schedules : List (Schedule Uuid Json)) (now : Int) :
    HoldLaws zone rules schedules now ↔ EndsAhead zone rules schedules now := by
  have ends : holdEnds zone rules schedules now = {e | ∃ rule ∈ rules, ∃ intervals,
      Opens zone schedules rule intervals ∧ activeUntil zone intervals now = some e} := Set.ext fun e => mem_holdEnds
  rw [EndsAhead_iff]
  constructor
  · intro laws open_
    obtain ⟨v, held⟩ := Option.isSome_iff_exists.mp (laws.held.mpr open_)
    exact ⟨v, (openAccessHoldUntilAt_eq_some.mp held).1, laws.later v held⟩
  · intro ahead
    have begun : ∀ e ∈ holdEnds zone rules schedules now,
        ∃ rule ∈ rules, ∃ intervals, Opens zone schedules rule intervals ∧
          matchesAt zone.site intervals now = true := by
      intro e member
      obtain ⟨rule, listed, intervals, opens, active⟩ := mem_holdEnds.mp member
      obtain ⟨end_, runs, -⟩ := activeUntil_eq_some.mp active
      exact ⟨rule, listed, intervals, opens, runs.matches⟩
    constructor
    · rw [isSome_openAccessHoldUntilAt]
      constructor
      · rintro ⟨e, member⟩
        exact begun e member
      · intro open_
        obtain ⟨e, member, -⟩ := ahead open_
        exact ⟨e, member⟩
    · intro v held
      rw [← ends]
      exact openAccessHoldUntilAt_eq_some.mp held
    · intro v held
      obtain ⟨member, above⟩ := openAccessHoldUntilAt_eq_some.mp held
      obtain ⟨e, member', later⟩ := ahead (begun v member)
      exact later.trans_le (above member')
    · intro rules' schedules' swapped swapped' distinct
      exact openAccessHoldUntilAt_congr (holdEnds_perm swapped swapped' distinct)
    · rintro before after rule rfl v held
      have greatest := openAccessHoldUntilAt_eq_some.mp held
      have some_ : (holdEnds zone (before ++ rule :: after) schedules now).Nonempty := by
        rw [holdEnds_insert]
        exact ⟨v, .inr greatest.1⟩
      obtain ⟨v', held'⟩ := Option.isSome_iff_exists.mp (isSome_openAccessHoldUntilAt.mpr some_)
      refine ⟨v', held', (openAccessHoldUntilAt_eq_some.mp held').2 ?_⟩
      rw [holdEnds_insert]
      exact .inr greatest.1
    · rintro before after rule rfl shut
      refine openAccessHoldUntilAt_congr ?_
      have nothing : {e | ruleHold zone schedules now rule = some e} = ∅ := by
        refine Set.eq_empty_of_forall_notMem fun e held => ?_
        obtain ⟨intervals, opens, -⟩ := ruleHold_eq_some.mp held
        exact shut intervals opens
      rw [holdEnds_insert, nothing, Set.empty_union]

end Holds

section Clocks

/-- One rule that opens a door, and its schedule. -/
def sundayRules : List (AccessRule Nat) := [⟨"open_access", "", "allow", some 1⟩]

def sundaySchedules : List (Schedule Nat Unit) := [⟨1, ()⟩]

/-- The second time it is a quarter past one in New York on 1 November 2026 a door held open to half past one is held
until three quarters of an hour ago. On 8 March at half past one a door held open to half past two, which is skipped,
is not held. -/
theorem holds_end_in_the_past :
    ¬ HoldLaws { changingZone (20758 * DAY + 6 * HOUR) (-4 * HOUR) (-5 * HOUR) with
        parseIntervals := fun _ => some [⟨.sun, 30 * MINUTE, 90 * MINUTE⟩] } sundayRules sundaySchedules
        (20758 * DAY + 375 * MINUTE) ∧
      ¬ HoldLaws { changingZone (20520 * DAY + 7 * HOUR) (-5 * HOUR) (-4 * HOUR) with
          parseIntervals := fun _ => some [⟨.sun, HOUR, 150 * MINUTE⟩] } sundayRules sundaySchedules
          (20520 * DAY + 390 * MINUTE) := by
  constructor
  · intro laws
    have later := laws.later (20758 * DAY + 330 * MINUTE) (by decide +kernel)
    revert later
    decide +kernel
  · intro laws
    have held := laws.held.mpr ⟨_, List.mem_singleton_self _, [⟨.sun, HOUR, 150 * MINUTE⟩],
      ⟨by decide +kernel, by decide +kernel, 1, ⟨1, ()⟩, rfl, rfl, rfl⟩, by decide +kernel⟩
    revert held
    decide +kernel

end Clocks

end CoopSpaces
