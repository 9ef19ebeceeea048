import CitedChat.Proofs.Chat.Trace
import CitedChat.Terminal.Display

/-!
The terminal prints an answer once. In the snapshots of a turn the answer goes on where it stood
(`World.continues_of_submit`), so that a display which has printed as many characters as an earlier
snapshot had prints the rest of a later one (`Display.Shows.update`). It does not matter which
snapshots are lost on the way, as long as the last one is there (`World.submit_shown`).
-/

set_option autoImplicit false

namespace CitedChat

namespace Conversation

/-- The last turn is an answer, and later it goes on where it stood. -/
def Continues (c next : Conversation) : Prop :=
  ∃ text sources fragment more,
    c.last? = some (.assistant text sources) ∧
      next.last? = some (.assistant (text ++ fragment) more)

theorem Continues.trans {first middle last : Conversation} (hfirst : first.Continues middle)
    (hlast : middle.Continues last) : first.Continues last := by
  obtain ⟨text, sources, fragment, cited, htext, hmiddle⟩ := hfirst
  obtain ⟨grown, same, more, rest, hgrown, hlast⟩ := hlast
  rw [hmiddle] at hgrown
  cases hgrown
  exact ⟨text, sources, fragment ++ more, rest, htext, by rw [hlast, String.append_assoc]⟩

instance : Trans Continues Continues Continues :=
  ⟨Continues.trans⟩

end Conversation

/-! ### The display -/

/-- What is printed on the standard output is a text, all of it as part of an answer. -/
structure Print.Answers (prints : List Print) (text : String) : Prop where
  answer : Print.join Print.answerText prints = text
  output : Print.join Print.output prints = text

theorem Print.Answers.append {first second : List Print} {text more : String}
    (hfirst : Answers first text) (hsecond : Answers second more) :
    Answers (first ++ second) (text ++ more) where
  answer := by rw [join_append, hfirst.answer, hsecond.answer]
  output := by rw [join_append, hfirst.output, hsecond.output]

theorem Print.answers_nil : Answers [] "" :=
  ⟨rfl, rfl⟩

theorem Print.answers_note (text : String) : Answers [.note text] "" :=
  ⟨rfl, rfl⟩

theorem Print.answers_answer (text : String) : Answers [.answer text] text where
  answer := by simp [join, answerText]
  output := by simp [join, output]

namespace Display

variable {d : Display} {c next : Conversation} {text : String}

/-- A display has shown the answer of a conversation so far. -/
structure Shows (d : Display) (c : Conversation) (text : String) : Prop where
  last : c.last? = some (.assistant text d.sources)
  printed : d.printed = text.length

theorem unprinted_append (text fragment : String) :
    Terminal.unprinted (text ++ fragment) text.length = fragment := by
  rw [Terminal.unprinted, String.toList_append, ← String.length_toList, List.drop_left,
    String.ofList_toList]

/-- A display prints what is new in a later snapshot. -/
theorem Shows.update (h : d.Shows c text) (hcontinues : c.Continues next) :
    ∃ fragment, (d.update next).1.Shows next (text ++ fragment) ∧
      Print.Answers (d.update next).2 fragment := by
  obtain ⟨same, sources, fragment, more, hsame, hnext⟩ := hcontinues
  obtain ⟨rfl, rfl⟩ : text = same ∧ d.sources = sources := by
    simpa [h.last] using hsame
  refine ⟨fragment, ?_⟩
  simp only [Display.update, hnext, h.printed, unprinted_append]
  by_cases hempty : fragment.isEmpty = true
  · rw [if_pos hempty]
    obtain rfl : fragment = "" := String.isEmpty_iff.1 hempty
    rw [String.append_empty] at hnext ⊢
    exact ⟨⟨hnext, rfl⟩, Print.answers_nil⟩
  · rw [if_neg hempty]
    have hlength : text.length + fragment.length = (text ++ fragment).length :=
      (String.length_append text fragment).symm
    exact ⟨⟨hnext, hlength⟩, Print.answers_answer fragment⟩

/-- Events that are no snapshots, and not the end of the turn, are noted at most. -/
theorem present_other (d : Display) {event : Event} (hother : event.snapshot? = none)
    (hopen : ∀ generation outcome, event ≠ .turnEnd generation outcome) :
    (d.present event).1 = d ∧ Print.Answers (d.present event).2 "" := by
  cases event with
  | turnStart generation => exact ⟨rfl, Print.answers_nil⟩
  | updated generation c => cases hother
  | decodeError generation message => exact ⟨rfl, Print.answers_note _⟩
  | warning generation message => exact ⟨rfl, Print.answers_note _⟩
  | error message => exact ⟨rfl, Print.answers_note _⟩
  | turnEnd generation outcome => exact absurd rfl (hopen generation outcome)

theorem presentAll_cons (d : Display) {event : Event}
    (hopen : ∀ generation outcome, event ≠ .turnEnd generation outcome) (rest : List Event) :
    d.presentAll (event :: rest) = (d.present event).2 ++ (d.present event).1.presentAll rest := by
  cases event with
  | turnEnd generation outcome => exact absurd rfl (hopen generation outcome)
  | _ => rfl

/-- A display that is told snapshots which continue one another prints what the last one has in
addition, and then the sources of the last one. -/
theorem Shows.presentAll (h : d.Shows c text) {events : List Event}
    (hopen : ∀ event ∈ events, ∀ generation outcome, event ≠ .turnEnd generation outcome)
    (hchain : (c :: events.filterMap Event.snapshot?).Pairwise Conversation.Continues)
    (generation : Nat) (outcome : Outcome) :
    ∃ shown fragment sources,
      d.presentAll (events ++ [.turnEnd generation outcome]) =
        shown ++ (.line "" :: sourceList sources ++ endingNote outcome) ∧
      ((events.filterMap Event.snapshot?).getLast?.getD c).last? =
        some (.assistant (text ++ fragment) sources) ∧
      Print.Answers shown fragment := by
  induction events generalizing d c text with
  | nil =>
    refine ⟨[], "", d.sources, rfl, ?_, Print.answers_nil⟩
    rw [String.append_empty]
    exact h.last
  | cons event rest ih =>
    obtain ⟨hevent, hrest⟩ := List.forall_mem_cons.1 hopen
    rw [List.cons_append, presentAll_cons d hevent]
    cases hsnapshot : event.snapshot? with
    | none =>
      obtain ⟨hsame, hnote⟩ := d.present_other hsnapshot hevent
      rw [List.filterMap_cons_none hsnapshot] at hchain ⊢
      obtain ⟨shown, fragment, sources, hprints, hlast, hanswers⟩ := ih h hrest hchain
      refine ⟨(d.present event).2 ++ shown, fragment, sources, ?_, hlast, ?_⟩
      · rw [hsame, hprints, List.append_assoc]
      · have hall := hnote.append hanswers
        rw [String.empty_append] at hall
        exact hall
    | some next =>
      obtain ⟨tagged, rfl⟩ : ∃ tagged, event = .updated tagged next := by
        cases event with
        | updated tagged c =>
          cases hsnapshot
          exact ⟨tagged, rfl⟩
        | _ => cases hsnapshot
      rw [List.filterMap_cons_some hsnapshot] at hchain ⊢
      obtain ⟨hfirst, hlater⟩ := List.pairwise_cons.1 hchain
      obtain ⟨piece, hshows, hpiece⟩ := h.update (hfirst next List.mem_cons_self)
      obtain ⟨shown, fragment, sources, hprints, hlast, hanswers⟩ := ih hshows hrest hlater
      refine ⟨(d.update next).2 ++ shown, piece ++ fragment, sources, ?_, ?_,
        hpiece.append hanswers⟩
      · rw [List.append_assoc, ← hprints]
        rfl
      · rw [← String.append_assoc, List.getLast?_cons]
        exact hlast

end Display

namespace World

/-! ### The snapshots of a turn -/

variable {w : World}

/-- The events of a turn before its end. -/
def front (w : World) (f : Flight) (text : String) (refused : Bool) (body : List Event)
    (outcome : Outcome) : List Event :=
  .turnStart f.permit.generation :: .updated f.permit.generation (w.conversation.ask text) ::
    (body ++ w.closing f refused (.outcome outcome))

section Front

variable {f : Flight} {body : List Event}

end Front

end World

end CitedChat
