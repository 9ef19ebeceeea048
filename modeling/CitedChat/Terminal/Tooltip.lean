import CitedChat.Transcript.Turn

/-!
The tooltip: which source's passage is shown, if any.
-/

set_option autoImplicit false

namespace CitedChat

structure Tooltip where
  isVisible : Bool := false
  /-- Empty when nothing is shown. -/
  text : String := ""
  ordinal? : Option Nat := none
  deriving DecidableEq, Inhabited

namespace Tooltip

/-- A new tooltip. -/
def hidden : Tooltip := {}

/-- A tooltip that shows a passage. -/
def showing (ordinal : Nat) (text : String) : Tooltip :=
  { isVisible := true, text, ordinal? := some ordinal }

def hide (t : Tooltip) : Tooltip :=
  { t with isVisible := false, text := "", ordinal? := none }

theorem hide_eq (t : Tooltip) : t.hide = hidden := rfl

/-- Activating the source that is shown hides it; another one takes its place. -/
def toggle (t : Tooltip) (source : Source) : Tooltip :=
  if t.isVisible && t.ordinal? == some source.ordinal then t.hide
  else { t with isVisible := true, text := source.originText, ordinal? := some source.ordinal }

/-- The source with the ordinal is shown. -/
def Shows (t : Tooltip) (ordinal : Nat) : Prop :=
  t.isVisible = true ∧ t.ordinal? = some ordinal

theorem toggle_eq_hidden {t : Tooltip} {source : Source} (hshown : t.Shows source.ordinal) :
    t.toggle source = hidden := by
  rw [toggle, hshown.1, hshown.2, Bool.true_and, beq_self_eq_true, if_pos rfl, hide_eq]

theorem toggle_eq_showing {t : Tooltip} {source : Source} (hother : ¬ t.Shows source.ordinal) :
    t.toggle source = showing source.ordinal source.originText := by
  have htest : (t.isVisible && t.ordinal? == some source.ordinal) = false := by
    rw [Bool.eq_false_iff, ne_eq, Bool.and_eq_true, beq_iff_eq]
    exact hother
  rw [toggle, htest]
  rfl

end Tooltip

end CitedChat
