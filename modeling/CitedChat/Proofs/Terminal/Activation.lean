import CitedChat.Terminal.Tooltip
import Mathlib.Data.List.Induction

/-!
A tooltip is a function of what was done with it. What counts of the past is how often, without a
break, the sources of one ordinal were activated last (`Activation.streak`): the tooltip shows an
ordinal exactly if that number is odd (`Tooltip.shows_after`). So it is visible or not by the streak
of the source that was activated last, whose passage is then its text. Each activation sets its
three fields by themselves, and keeps them together (`Tooltip.Consistent`): when it is not visible
nothing is left of the past (`Tooltip.after_activations`).
-/

set_option autoImplicit false

namespace CitedChat

/-- What is done with a tooltip. -/
inductive Activation where
  | toggle (source : Source)
  | hide

namespace Activation

/-- Whether a source with the ordinal is activated. -/
def isOf (ordinal : Nat) : Activation → Bool
  | .toggle source => source.ordinal == ordinal
  | .hide => false

theorem isOf_toggle_iff {ordinal : Nat} {source : Source} :
    (toggle source).isOf ordinal = true ↔ source.ordinal = ordinal :=
  beq_iff_eq

/-- How many activations at the end are of sources with the ordinal, back to the last one that is
not. -/
def streak (ordinal : Nat) (activations : List Activation) : Nat :=
  (activations.reverse.takeWhile (·.isOf ordinal)).length

theorem streak_concat (ordinal : Nat) (earlier : List Activation) (last : Activation) :
    streak ordinal (earlier ++ [last]) =
      if last.isOf ordinal = true then streak ordinal earlier + 1 else 0 := by
  rw [streak, List.reverse_append, List.reverse_singleton, List.singleton_append,
    List.takeWhile_cons]
  by_cases hlast : last.isOf ordinal = true
  · rw [if_pos hlast, if_pos hlast]
    rfl
  · rw [if_neg hlast, if_neg hlast]
    rfl

end Activation

namespace Tooltip

open Activation

def activate (t : Tooltip) : Activation → Tooltip
  | .toggle source => t.toggle source
  | .hide => t.hide

/-- What becomes of a new tooltip. -/
def after (activations : List Activation) : Tooltip :=
  activations.foldl activate .hidden

theorem after_concat (earlier : List Activation) (last : Activation) :
    after (earlier ++ [last]) = (after earlier).activate last := by
  rw [after, List.foldl_append]
  rfl

/-! ### The fields fit together -/

variable {t : Tooltip} {source : Source}

/-- The fields of a tooltip fit together: one that is not visible has neither a text nor an ordinal,
and one that is visible has an ordinal. -/
structure Consistent (t : Tooltip) : Prop where
  text : t.isVisible = false → t.text = ""
  ordinal? : t.isVisible = t.ordinal?.isSome

theorem consistent_hidden : hidden.Consistent :=
  ⟨fun _ ↦ rfl, rfl⟩

theorem consistent_showing (ordinal : Nat) (text : String) : (showing ordinal text).Consistent :=
  ⟨fun h ↦ (by cases h), rfl⟩

theorem consistent_toggle (t : Tooltip) (source : Source) : (t.toggle source).Consistent := by
  by_cases hshown : t.Shows source.ordinal
  · rw [toggle_eq_hidden hshown]
    exact consistent_hidden
  · rw [toggle_eq_showing hshown]
    exact consistent_showing source.ordinal source.originText

theorem consistent_activate (t : Tooltip) (activation : Activation) :
    (t.activate activation).Consistent := by
  cases activation with
  | toggle source => exact consistent_toggle t source
  | hide => exact consistent_hidden

theorem consistent_after (activations : List Activation) : (after activations).Consistent := by
  induction activations using List.reverseRecOn with
  | nil => exact consistent_hidden
  | append_singleton earlier last ih =>
    rw [after_concat]
    exact consistent_activate (after earlier) last

/-- A consistent tooltip that is not visible is a new one. -/
theorem Consistent.eq_hidden (h : t.Consistent) (hhidden : t.isVisible = false) : t = hidden := by
  have htext := h.text hhidden
  have hordinal := h.ordinal?
  obtain ⟨isVisible, text, ordinal?⟩ := t
  obtain rfl : isVisible = false := hhidden
  obtain rfl : text = "" := htext
  obtain rfl : ordinal? = none :=
    Option.not_isSome_iff_eq_none.1 (Bool.eq_false_iff.1 hordinal.symm)
  rfl

/-! ### One activation -/

/-- Activating a source shows its ordinal unless that is shown already, and no other one. -/
theorem shows_toggle (t : Tooltip) (source : Source) (n : Nat) :
    (t.toggle source).Shows n ↔ source.ordinal = n ∧ ¬ t.Shows n := by
  by_cases hshown : t.Shows source.ordinal
  · rw [toggle_eq_hidden hshown]
    constructor
    · rintro ⟨hvisible, -⟩
      cases hvisible
    · rintro ⟨rfl, hother⟩
      exact absurd hshown hother
  · rw [toggle_eq_showing hshown]
    constructor
    · rintro ⟨-, hordinal⟩
      obtain rfl : source.ordinal = n := Option.some.inj hordinal
      exact ⟨rfl, hshown⟩
    · rintro ⟨rfl, -⟩
      exact ⟨rfl, rfl⟩

/-- What is visible after a source was activated is that source. -/
theorem toggle_of_isVisible (hvisible : (t.toggle source).isVisible = true) :
    t.toggle source = .showing source.ordinal source.originText := by
  by_cases hshown : t.Shows source.ordinal
  · rw [toggle_eq_hidden hshown] at hvisible
    cases hvisible
  · exact toggle_eq_showing hshown

/-! ### All of them -/

/-- A tooltip shows an ordinal exactly if its sources were activated an odd number of times since
anything else was done. -/
theorem shows_after (activations : List Activation) (n : Nat) :
    (after activations).Shows n ↔ streak n activations % 2 = 1 := by
  induction activations using List.reverseRecOn with
  | nil => exact ⟨fun h ↦ (by cases h.1), fun h ↦ (by cases h)⟩
  | append_singleton earlier last ih =>
    rw [after_concat, streak_concat]
    cases last with
    | hide => exact ⟨fun h ↦ (by cases h.1), fun h ↦ (by cases h)⟩
    | toggle source =>
      rw [activate, shows_toggle, ih]
      by_cases hsame : source.ordinal = n
      · rw [if_pos (isOf_toggle_iff.2 hsame)]
        omega
      · rw [if_neg (mt isOf_toggle_iff.1 hsame)]
        omega

/-- Whatever sources were activated and whenever the tooltip was hidden: a tooltip that nothing was
done with, or that was hidden last, is not visible; one on which a source was activated last is
visible exactly if sources with the ordinal of that source were activated an odd number of times
since anything else was done, and then it shows that ordinal and the passage of that very source;
and one that is not visible has no text and no ordinal, and is as good as new. -/
theorem after_activations (activations : List Activation) :
    (activations = [] → (after activations).isVisible = false) ∧
    (activations.getLast? = some .hide → (after activations).isVisible = false) ∧
    (∀ source, activations.getLast? = some (.toggle source) →
      ((after activations).isVisible = true ↔ streak source.ordinal activations % 2 = 1) ∧
      ((after activations).isVisible = true →
        (after activations).ordinal? = some source.ordinal ∧
          (after activations).text = source.originText)) ∧
    ((after activations).isVisible = false →
      (after activations).text = "" ∧ (after activations).ordinal? = none ∧
        after activations = .hidden) := by
  refine ⟨?_, ?_, ?_, ?_⟩
  · rintro rfl
    rfl
  · intro hlast
    obtain ⟨earlier, rfl⟩ := List.getLast?_eq_some_iff.1 hlast
    rw [after_concat]
    rfl
  · intro source hlast
    rw [← shows_after]
    obtain ⟨earlier, rfl⟩ := List.getLast?_eq_some_iff.1 hlast
    rw [after_concat, activate]
    have hshows (hvisible : ((after earlier).toggle source).isVisible = true) :=
      toggle_of_isVisible hvisible
    refine ⟨⟨fun hvisible ↦ ?_, fun hshown ↦ hshown.1⟩, fun hvisible ↦ ?_⟩
    · rw [hshows hvisible]
      exact ⟨rfl, rfl⟩
    · rw [hshows hvisible]
      exact ⟨rfl, rfl⟩
  · intro hhidden
    have hnew := (consistent_after activations).eq_hidden hhidden
    rw [hnew]
    exact ⟨rfl, rfl, rfl⟩

/-- The third activation of an ordinal shows it again, with the text that came last. -/
example : after [.toggle ⟨2, 0, "c", "u", "x"⟩, .toggle ⟨1, 0, "c", "u", "x"⟩,
    .toggle ⟨1, 1, "c", "u", "y"⟩, .toggle ⟨1, 2, "c", "u", "z"⟩] = .showing 1 "z" := by
  decide

end Tooltip

end CitedChat
