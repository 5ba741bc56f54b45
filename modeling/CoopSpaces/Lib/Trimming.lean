import Mathlib.Data.List.Infix

/-! Removing a pattern from an end of a list as often as it is there. -/
namespace List
variable {α : Type} [DecidableEq α]

def trimStartFor (pattern : List α) : Nat → List α → List α
  | 0, text => text
  | fuel + 1, text => if pattern.isPrefixOf text then trimStartFor pattern fuel (text.drop pattern.length) else text

def trimStartMatches (text pattern : List α) : List α := trimStartFor pattern text.length text

def trimEndMatches (text pattern : List α) : List α := (text.reverse.trimStartMatches pattern.reverse).reverse

variable {pattern text rest : List α}

/-- Fuel for every element is enough. -/
theorem trimStartFor_of_le (some_ : pattern ≠ []) {fuel : Nat} (enough : text.length ≤ fuel) :
    trimStartFor pattern fuel text = text.trimStartMatches pattern := by
  have step : ∀ fuel text, text.length ≤ fuel →
      trimStartFor pattern (fuel + 1) text = trimStartFor pattern fuel text := by
    intro fuel
    induction fuel with
    | zero =>
      intro text short
      obtain rfl := List.eq_nil_of_length_eq_zero (Nat.le_zero.mp short)
      show (if pattern.isPrefixOf [] then trimStartFor pattern 0 ([].drop pattern.length) else []) = []
      rw [if_neg]
      rw [ isPrefixOf_iff_prefix, prefix_nil]
      exact some_
    | succ fuel ih =>
      intro text short
      show (if pattern.isPrefixOf text then trimStartFor pattern (fuel + 1) (text.drop pattern.length) else text) =
        if pattern.isPrefixOf text then trimStartFor pattern fuel (text.drop pattern.length) else text
      split
      · refine ih _ ?_
        have positive := length_pos_of_ne_nil some_
        rw [length_drop]
        omega
      · rfl
  induction enough with
  | refl => rfl
  | step enough ih => rw [step _ _ enough, ih]

theorem trimStartMatches_append (some_ : pattern ≠ []) :
    (pattern ++ text).trimStartMatches pattern = text.trimStartMatches pattern := by
  have positive := length_pos_of_ne_nil some_
  obtain ⟨fuel, length⟩ : ∃ fuel, (pattern ++ text).length = fuel + 1 :=
    ⟨(pattern ++ text).length - 1, by rw [length_append]; omega⟩
  rw [trimStartMatches, length, trimStartFor, if_pos ( isPrefixOf_iff_prefix.mpr (prefix_append _ _)), drop_left]
  refine trimStartFor_of_le some_ ?_
  rw [length_append] at length
  omega

theorem trimStartMatches_of_absent (absent : ¬ pattern <+: text) : text.trimStartMatches pattern = text := by
  unfold trimStartMatches
  cases text.length with
  | zero => rfl
  | succ fuel => rw [trimStartFor, if_neg (by rwa [ isPrefixOf_iff_prefix])]

theorem trimStartMatches_suffix (text pattern : List α) : text.trimStartMatches pattern <:+ text := by
  have each : ∀ fuel text, trimStartFor pattern fuel text <:+ text := by
    intro fuel
    induction fuel with
    | zero => exact fun text => suffix_refl text
    | succ fuel ih =>
      intro text
      rw [trimStartFor]
      split
      · exact (ih _).trans (drop_suffix _ _)
      · exact suffix_refl text
  exact each _ _

theorem trimEndMatches_prefix (text pattern : List α) : text.trimEndMatches pattern <+: text := by
  have trimmed := trimStartMatches_suffix text.reverse pattern.reverse
  rw [trimEndMatches, ← reverse_suffix, reverse_reverse]
  exact trimmed

/-- Trimming the end stops at a mark that the pattern does not have. -/
theorem trimEndMatches_append_cons (some_ : pattern ≠ []) {mark : α} (free : mark ∉ pattern) (front : List α) :
    (front ++ mark :: text).trimEndMatches pattern = front ++ mark :: text.trimEndMatches pattern := by
  have reversed : pattern.reverse ≠ [] := by rwa [ne_eq, reverse_eq_nil_iff]
  have each : ∀ length (text back : List α), text.length = length →
      (text ++ mark :: back).trimStartMatches pattern.reverse = text.trimStartMatches pattern.reverse ++
        mark :: back := by
    intro length
    induction length using Nat.strong_induction_on with
    | _ length ih =>
      rintro text back rfl
      by_cases there : pattern.reverse <+: text
      · obtain ⟨rest, rfl⟩ := there
        rw [append_assoc, trimStartMatches_append reversed, trimStartMatches_append reversed]
        refine ih rest.length ?_ rest back rfl
        have positive := length_pos_of_ne_nil reversed
        rw [length_append]
        omega
      · rw [trimStartMatches_of_absent there, trimStartMatches_of_absent]
        intro longer
        have whole : text ++ [mark] <+: text ++ mark :: back := ⟨back, by rw [append_assoc, singleton_append]⟩
        rcases Nat.lt_or_ge text.length pattern.reverse.length with past | within
        · have covered := prefix_of_prefix_length_le whole longer
            (by rw [length_append, length_singleton]; exact past)
          have inside := covered.subset (mem_append_right text (mem_singleton_self mark))
          exact free (mem_reverse.mp inside)
        · exact there (prefix_of_prefix_length_le longer (prefix_append _ _) within)
  have trimmed := each _ text.reverse front.reverse rfl
  simp only [trimEndMatches, reverse_append, reverse_cons, append_assoc, singleton_append, trimmed, reverse_reverse]

end List
