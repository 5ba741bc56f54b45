import Mathlib.Data.List.Induction

/-- Some note of a log meets `P`, which may look at what came before it, and
every later note meets `Q`. -/
def Since {Note : Type} (P : List Note → Note → Prop) (Q : Note → Prop) (log : List Note) : Prop :=
  ∃ before note after, log = before ++ note :: after ∧ P before note ∧ ∀ later ∈ after, Q later

namespace Since
variable {Note : Type} {P : List Note → Note → Prop} {Q : Note → Prop} {log : List Note}

theorem not_nil : ¬ Since P Q [] := by
  rintro ⟨before, note, after, split, -, -⟩
  simp at split

theorem now {note : Note} (meets : P log note) : Since P Q (log ++ [note]) :=
  ⟨log, note, [], rfl, meets, by simp⟩

theorem later (held : Since P Q log) {note : Note} (keeps : Q note) : Since P Q (log ++ [note]) := by
  obtain ⟨before, start, after, rfl, meets, kept⟩ := held
  refine ⟨before, start, after ++ [note], by simp, meets, ?_⟩
  intro other member
  rcases List.mem_append.mp member with old | fresh
  · exact kept other old
  · obtain rfl := List.mem_singleton.mp fresh
    exact keeps

theorem snoc_iff {note : Note} :
    Since P Q (log ++ [note]) ↔ P log note ∨ (Since P Q log ∧ Q note) := by
  constructor
  · rintro ⟨before, start, after, split, meets, kept⟩
    rcases List.eq_nil_or_concat after with rfl | ⟨front, final, rfl⟩
    · obtain ⟨rfl, same⟩ := List.append_inj' split rfl
      obtain rfl := List.singleton_inj.mp same
      exact .inl meets
    · simp only [List.concat_eq_append] at split kept
      rw [← List.cons_append, ← List.append_assoc] at split
      obtain ⟨rfl, same⟩ := List.append_inj' split rfl
      obtain rfl := List.singleton_inj.mp same
      refine .inr ⟨⟨before, start, front, rfl, meets, ?_⟩, kept _ (by simp)⟩
      exact fun other member => kept other (List.mem_append_left _ member)
  · rintro (meets | ⟨held, keeps⟩)
    · exact now meets
    · exact held.later keeps

/-- Two such notes, each of which would end the other's stretch, are one note. -/
theorem same {P' : List Note → Note → Prop} {Q' : Note → Prop} (ends : ∀ before note, P before note → ¬ Q' note)
    (ended : ∀ before note, P' before note → ¬ Q note) (one : Since P Q log) (other : Since P' Q' log) :
    Since (fun before note => P before note ∧ P' before note) (fun note => Q note ∧ Q' note) log := by
  induction log using List.reverseRecOn with
  | nil => exact absurd one not_nil
  | append_singleton log note ih =>
    rcases snoc_iff.mp one with meets | ⟨held, keeps⟩
    · rcases snoc_iff.mp other with again | ⟨-, also⟩
      · exact now ⟨meets, again⟩
      · exact absurd also (ends log note meets)
    · rcases snoc_iff.mp other with again | ⟨still, also⟩
      · exact absurd keeps (ended log note again)
      · exact (ih held still).later ⟨keeps, also⟩

theorem imp {P' : List Note → Note → Prop} {Q' : Note → Prop} (meets : ∀ before note, P before note → P' before note)
    (keeps : ∀ note, Q note → Q' note) (held : Since P Q log) : Since P' Q' log := by
  obtain ⟨before, note, after, split, here, kept⟩ := held
  exact ⟨before, note, after, split, meets before note here, fun later member => keeps later (kept later member)⟩

theorem append (held : Since P Q log) {rest : List Note} (keeps : ∀ note ∈ rest, Q note) :
    Since P Q (log ++ rest) := by
  obtain ⟨before, note, after, rfl, here, kept⟩ := held
  refine ⟨before, note, after ++ rest, by simp, here, fun later member => ?_⟩
  rcases List.mem_append.mp member with old | fresh
  · exact kept later old
  · exact keeps later fresh

theorem exists_mem (held : Since P Q log) : ∃ note ∈ log, ∃ before, P before note := by
  obtain ⟨before, note, after, rfl, meets, -⟩ := held
  exact ⟨note, by simp, before, meets⟩

end Since

/-- Between a note that meets `P` and a later one that meets `Q` there is always one that meets `C`. -/
def Parted {Note : Type} (P Q C : Note → Prop) (log : List Note) : Prop :=
  ∀ before first middle second after, log = before ++ first :: (middle ++ second :: after) → P first → Q second →
    ∃ note ∈ middle, C note

namespace Parted
variable {Note : Type} {P Q C : Note → Prop} {log : List Note}

theorem nil : Parted P Q C [] := by
  intro before first middle second after split
  simp at split

/-- One more note keeps them parted unless it is a `Q` with no `C` since some `P`. -/
theorem snoc (parted : Parted P Q C log) {note : Note}
    (fresh : Q note → ¬ Since (fun _ earlier => P earlier) (fun later => ¬ C later) log) :
    Parted P Q C (log ++ [note]) := by
  intro before first middle second after split meetsFirst meetsSecond
  rcases List.eq_nil_or_concat after with rfl | ⟨front, final, rfl⟩
  · rw [← List.cons_append, ← List.append_assoc] at split
    obtain ⟨rfl, same⟩ := List.append_inj' split rfl
    obtain rfl := List.singleton_inj.mp same
    by_contra none_
    refine fresh meetsSecond ⟨before, first, middle, rfl, meetsFirst, ?_⟩
    exact fun later member clears => none_ ⟨later, member, clears⟩
  · rw [List.concat_eq_append, ← List.cons_append, ← List.append_assoc, ← List.cons_append,
      ← List.append_assoc] at split
    obtain ⟨rfl, -⟩ := List.append_inj' split rfl
    exact parted before first middle second front (by simp) meetsFirst meetsSecond

end Parted

/-- Between two notes that meet `P` there is always one that meets `C`. -/
def Separated {Note : Type} (P C : Note → Prop) (log : List Note) : Prop :=
  ∀ before first middle second after, log = before ++ first :: (middle ++ second :: after) → P first → P second →
    ∃ note ∈ middle, C note

namespace Separated
variable {Note : Type} {P C : Note → Prop} {log : List Note}

theorem nil : Separated P C [] := Parted.nil

/-- One more note keeps the separation unless it is a second `P` with no `C` since the first. -/
theorem snoc (separated : Separated P C log) {note : Note}
    (fresh : P note → ¬ Since (fun _ earlier => P earlier) (fun later => ¬ C later) log) :
    Separated P C (log ++ [note]) := Parted.snoc separated fresh

end Separated

/-- Some point of a run meets `Start`, and from it to the end every point meets `Keep`. -/
def HeldSince {Input : Type} (Start Keep : List Input → Prop) (inputs : List Input) : Prop :=
  ∃ earlier later, inputs = earlier ++ later ∧ Start earlier ∧ ∀ middle, middle <+: later → Keep (earlier ++ middle)

namespace HeldSince
variable {Input : Type} {Start Keep : List Input → Prop} {past : List Input} {input : Input}

theorem snoc_iff : HeldSince Start Keep (past ++ [input]) ↔
    Keep (past ++ [input]) ∧ (Start (past ++ [input]) ∨ HeldSince Start Keep past) := by
  constructor
  · rintro ⟨earlier, later, split, start, kept⟩
    have here : Keep (past ++ [input]) := split ▸ kept later List.prefix_rfl
    refine ⟨here, ?_⟩
    rcases List.eq_nil_or_concat later with rfl | ⟨front, final, rfl⟩
    · rw [List.append_nil] at split
      exact .inl (split ▸ start)
    · rw [List.concat_eq_append, ← List.append_assoc] at split
      obtain ⟨rfl, -⟩ := List.append_inj' split rfl
      have before : ∀ middle, middle <+: front → Keep (earlier ++ middle) :=
        fun middle shorter => kept middle (shorter.trans (List.concat_eq_append ▸ List.prefix_append front [final]))
      exact .inr ⟨earlier, front, rfl, start, before⟩
  · rintro ⟨here, start | ⟨earlier, later, rfl, start, kept⟩⟩
    · refine ⟨past ++ [input], [], (List.append_nil _).symm, start, fun middle front => ?_⟩
      rw [List.prefix_nil.mp front, List.append_nil]
      exact here
    · refine ⟨earlier, later ++ [input], List.append_assoc .., start, fun middle front => ?_⟩
      rcases List.prefix_concat_iff.mp front with rfl | shorter
      · rw [← List.append_assoc]
        exact here
      · exact kept middle shorter

theorem keep (held : HeldSince Start Keep past) : Keep past := by
  obtain ⟨earlier, later, rfl, -, kept⟩ := held
  exact kept later List.prefix_rfl

end HeldSince
