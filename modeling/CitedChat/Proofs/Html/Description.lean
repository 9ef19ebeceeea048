import CitedChat.Html.Writer
import CitedChat.Proofs.Markdown.Nesting

/-!
How an image is written. Its content becomes its description: the texts of the events in it, at any
depth, with tags left out (`Markdown.describe`). The writer counts what it opens inside of a
description, so that a forest there is written as its description whatever is around it
(`Writer.describes_foldl_write`), and an image as one tag that quotes it
(`Writer.written_image`).
-/

set_option autoImplicit false

namespace CitedChat

namespace Markdown

/-- What an event adds to a description: its text; a blank for a break or a rule; nothing for a tag
or for the markup of a block. -/
def Event.described : Event → String
  | .text shown | .code shown | .inlineHtml shown => shown
  | .softBreak | .hardBreak | .rule => " "
  | .task checked => if checked then "[x]" else "[ ]"
  | .opening _ | .closing _ | .html _ => ""

def describe (events : List Event) : String :=
  String.join (events.map Event.described)

theorem describe_cons (event : Event) (rest : List Event) :
    describe (event :: rest) = event.described ++ describe rest := by
  simp [describe]

theorem describe_append (first second : List Event) :
    describe (first ++ second) = describe first ++ describe second := by
  simp [describe, String.join_append]

end Markdown

namespace Html

open Markdown

namespace Writer

theorem written_put (w : Writer) (markup : String) :
    (w.put markup).written = w.written ++ markup := by
  rw [put]
  by_cases hempty : markup.isEmpty = true
  · rw [if_pos hempty, String.isEmpty_iff.1 hempty, String.append_empty]
  · rw [if_neg hempty]

theorem place_put (w : Writer) (markup : String) : (w.put markup).place = w.place := by
  rw [put]
  split <;> rfl

/-- A text has been written into a description, which is still open. -/
structure Describes (w : Writer) (text : String) (w' : Writer) : Prop where
  written : w'.written = w.written ++ escape text
  place : w'.place = w.place

theorem Describes.trans {w w' w'' : Writer} {first second : String} (h : w.Describes first w')
    (h' : w'.Describes second w'') : w.Describes (first ++ second) w'' where
  written := by
    rw [h'.written, h.written, escape, escape, escape, escapeWith_append, String.append_assoc]
  place := h'.place.trans h.place

theorem describes_nothing (w : Writer) : w.Describes "" w where
  written := String.append_empty.symm
  place := rfl

theorem describes_put (w : Writer) {markup : String} (hplain : escape markup = markup) :
    w.Describes markup (w.put markup) where
  written := by rw [written_put, hplain]
  place := w.place_put markup

/-- An event that is no tag is written into a description as its own text. -/
theorem describes_write {w : Writer} {depth : Nat} {title : String}
    (hplace : w.place = .description depth title) {event : Event} (isLone : event.isLone = true) :
    w.Describes event.described (w.write event) := by
  have hwrite : w.write event = w.description depth title event := by rw [write, hplace]
  rw [hwrite]
  cases event with
  | opening tag => cases isLone
  | closing tag => cases isLone
  | html raw => exact w.describes_nothing
  | text shown => exact ⟨rfl, rfl⟩
  | code shown => exact ⟨rfl, rfl⟩
  | inlineHtml raw => exact ⟨rfl, rfl⟩
  | task checked => cases checked <;> exact w.describes_put (by decide)
  | _ => exact w.describes_put (by decide)

/-- A forest in a description is written as what it describes. -/
theorem describes_foldl_write (forest : Forest) {w : Writer} {depth : Nat} {title : String}
    (hplace : w.place = .description depth title) :
    w.Describes (describe forest.events) (forest.events.foldl write w) := by
  induction forest generalizing w depth with
  | nil => exact w.describes_nothing
  | lone event isLone rest ih =>
    have hevent := describes_write hplace isLone
    rw [Forest.events_lone, describe_cons]
    exact hevent.trans (ih (hevent.place.trans hplace))
  | element tag content rest ihContent ihRest =>
    have hdescribe : describe (Forest.element tag content rest).events =
        describe content.events ++ describe rest.events := by
      rw [Forest.events_element, describe_cons, describe_append, describe_cons]
      simp [Event.described]
    rw [hdescribe, Forest.events_element, List.foldl_cons, List.foldl_append, List.foldl_cons]
    -- One level deeper for the content, and back again.
    have hopening : w.write (.opening tag) =
        { w with place := .description (depth + 1) title } := by
      rw [write, hplace]
      rfl
    have hdeeper : (w.write (.opening tag)).place = .description (depth + 1) title := by
      rw [hopening]
    have hinside := ihContent hdeeper
    generalize content.events.foldl write _ = inner at hinside ⊢
    have hclosing : inner.write (.closing tag.closing) =
        { inner with place := .description depth title } := by
      rw [write, hinside.place, hdeeper]
      rfl
    rw [hclosing]
    have hcontent : w.Describes (describe content.events)
        { inner with place := .description depth title } := by
      rw [hopening] at hinside
      exact ⟨hinside.written, hplace.symm⟩
    exact hcontent.trans (ihRest rfl)

/-- The tag of an image, which quotes its description. -/
def imageTag (link : Link) (content : List Event) : String :=
  "<img src=\"" ++ escapeAddress link.url ++ "\" alt=\"" ++ escape (describe content) ++
    (titleAttribute link.title ++ "\" />")

/-- Outside of descriptions an image is written as its tag. -/
theorem written_image (forest : Forest) (link : Link) {w : Writer} (hplace : w.place = .body) :
    ((Event.element (.image link) forest.events).foldl write w).written =
      w.written ++ imageTag link forest.events := by
  rw [Event.element, List.foldl_cons, List.foldl_append, List.foldl_cons, List.foldl_nil]
  have hopening : w.write (.opening (.image link)) =
      { w.put ("<img src=\"" ++ escapeAddress link.url ++ "\" alt=\"") with
        place := .description 0 link.title } := by
    rw [write, hplace]
    rfl
  have hplace : (w.write (.opening (.image link))).place = .description 0 link.title := by
    rw [hopening]
  have hinside := describes_foldl_write forest hplace
  generalize forest.events.foldl write _ = inner at hinside ⊢
  have hclosing : inner.write (.closing (Tag.image link).closing) =
      inner.endDescription link.title := by
    rw [write, hinside.place, hplace]
    rfl
  rw [hclosing]
  calc (inner.endDescription link.title).written
      = inner.written ++ (titleAttribute link.title ++ "\" />") := inner.written_put _
    _ = w.written ++ imageTag link forest.events := by
      rw [hinside.written, hopening, imageTag]
      simp only [written_put, String.append_assoc]

end Writer

end Html

end CitedChat
