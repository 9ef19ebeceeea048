import CitedChat.Proofs.Chat.Abort
import CitedChat.Proofs.Chat.Operation

/-!
What subscribers know of the conversation. `World.shown` is the conversation in the last snapshot
told. At every point of a submission it is the conversation of the session
(`Submission.Leads.shows`), and every operation keeps the two together but those that put another
conversation in place: these tell nothing, and until the next question is accepted subscribers do
not know of it (`World.untold`).
-/

set_option autoImplicit false

namespace CitedChat

namespace World

/-- The conversation that subscribers were told last; a new session has the empty one. -/
def shown (w : World) : Conversation :=
  w.snapshots.getLast?.getD {}

/-- Subscribers know the conversation. -/
def Showing (w : World) : Prop :=
  w.conversation = w.shown

variable {w v : World}

theorem Quiet.shown (h : Quiet w v) : v.shown = w.shown := by
  rw [World.shown, h.snapshots, World.shown]

theorem Quiet.showing (h : Quiet w v) (hshowing : Showing w) : Showing v := by
  rw [Showing, h.conversation, h.shown]
  exact hshowing

/-- Subscribers know the conversation once it is told. -/
theorem showing_of_snapshots (hsnapshots : v.snapshots = w.snapshots ++ [v.conversation]) :
    Showing v := by
  rw [Showing, shown, hsnapshots, List.getLast?_concat]
  rfl

theorem showing_asked (w : World) (text : String) : Showing (w.asked text) :=
  showing_of_snapshots (snapshots_asked w text)

/-- Subscribers are told what directives make of the conversation, if they change it. -/
theorem showing_report (hshowing : Showing w) (f : Flight) {directives : List Directive}
    {next : Conversation}
    (happly : w.conversation.applyAll (Directive.actions directives) = .ok next) :
    Showing (w.revise next (report f directives next)) := by
  have hsnapshots := snapshots_revise w next (report f directives next)
  rw [filterMap_report] at hsnapshots
  cases hactions : Directive.actions directives with
  | nil =>
    rw [hactions] at happly hsnapshots
    cases happly
    have hquiet : Quiet w (w.revise w.conversation (report f directives w.conversation)) :=
      ⟨rfl, hsnapshots.trans (List.append_nil _)⟩
    exact hquiet.showing hshowing
  | cons action rest =>
    rw [hactions] at hsnapshots
    exact showing_of_snapshots hsnapshots

theorem showing_adopt (hshowing : Showing w) (hanswer : w.conversation.EndsWithAnswer) (f : Flight)
    (reply : Reply) : Showing (w.adopt f reply).1 := by
  cases reply with
  | transcript turns => exact showing_of_snapshots (snapshots_replace w f ⟨turns⟩)
  | turn turn =>
    cases turn with
    | user text => exact (quiet_emit w rfl).showing hshowing
    | assistant text sources =>
      obtain ⟨next, happly, -⟩ := hanswer.applyAll (isAppend_answerActions text sources)
      rw [adopt, happly]
      exact showing_of_snapshots (snapshots_replace w f next)

end World

open World

namespace Submission

variable {s : Submission} {c d : Stage × World}

/-- Subscribers know the conversation, which ends with an answer as long as the submission is
open. -/
structure Shows (c : Stage × World) : Prop where
  showing : Showing c.2
  answer : ¬ c.1.IsDone → c.2.conversation.EndsWithAnswer

/-- What passes quietly keeps the conversation known. -/
theorem Shows.of_quiet (h : Shows c) (hopen : ¬ c.1.IsDone) (hquiet : Quiet c.2 d.2) : Shows d where
  showing := hquiet.showing h.showing
  answer _ := by
    rw [hquiet.conversation]
    exact h.answer hopen

/-- What ends the submission needs to keep the conversation known only. -/
theorem shows_close {ended : World × Ending} (hshowing : Showing ended.1) : Shows (close ended) :=
  ⟨hshowing, fun hopen ↦ absurd trivial hopen⟩

theorem Moves.shows (hmoves : s.Moves c.2 d) (h : Shows c) (hopen : ¬ c.1.IsDone) : Shows d := by
  have hfolds : ∀ {a : Assembler} {raw : String} {v error},
      c.2.fold s.flight (a.feed raw).1 = (v, error) →
        Showing v ∧ v.conversation.EndsWithAnswer ∧ error = none := by
    intro a raw v error hfold
    obtain ⟨next, happly, hnext⟩ := (h.answer hopen).applyAll (a.isAppend_of_feed raw)
    rw [fold_eq c.2 s.flight happly] at hfold
    cases hfold
    exact ⟨showing_report h.showing s.flight happly, hnext, rfl⟩
  cases hmoves with
  | interrupted hinterrupt => exact h.of_quiet hopen (quiet_interrupted c.2 s.flight _)
  | called hnext => exact h.of_quiet hopen ⟨rfl, rfl⟩
  | opened hnext => exact h.of_quiet hopen (.refl c.2)
  | acted hnext hperform => exact h.of_quiet hopen (undisturbed_of_perform hperform).quiet
  | cut hperform =>
    have hquiet := (undisturbed_of_perform hperform).quiet
    exact h.of_quiet hopen (hquiet.trans (quiet_interrupted _ s.flight _))
  | failed error => exact h.of_quiet hopen (quiet_failed c.2 error)
  | closed => exact h.of_quiet hopen (quiet_warn c.2 s.flight _)
  | stale hstale => exact h.of_quiet hopen (.refl c.2)
  | folded hfresh hfold hnext =>
    obtain ⟨hshowing, hanswer, -⟩ := hfolds hfold
    exact ⟨hshowing, fun _ ↦ hanswer⟩
  | finished hfresh hfold => exact shows_close (hfolds hfold).1
  | halted hfresh hfold => exact shows_close ((quiet_warn _ _ _).showing (hfolds hfold).1)
  | refused hfresh hfold => cases (hfolds hfold).2.2
  | replied reply hfresh =>
    exact shows_close (showing_adopt h.showing (h.answer hopen) s.flight reply)

theorem shows_step (s : Submission) (h : Shows c) : Shows (s.step c) := by
  by_cases hdone : c.1.IsDone
  · rw [s.step_of_isDone hdone]
    exact h
  · exact (s.moves_step hdone).shows h hdone

/-- Wherever a submission gets, and whoever aborts it on the way, subscribers know the
conversation. -/
theorem Leads.shows (hleads : s.Leads c d) (h : Shows c) : Shows d := by
  induction hleads with
  | refl c => exact h
  | step hrest ih => exact ih (s.shows_step h)
  | abort hrest ih => exact ih ⟨Quiet.showing ⟨rfl, rfl⟩ h.showing, h.answer⟩

end Submission

namespace World

variable {w : World}

theorem shows_asked (w : World) (text : String) : Submission.Shows (.ready, w.asked text) :=
  ⟨showing_asked w text, fun _ ↦ Conversation.endsWithAnswer_ask w.conversation text⟩

/-- However a submission ends, or is given up, subscribers know the conversation that it leaves. -/
theorem showing_submit {mode : Mode} {text : String} {transport : Transport}
    {limit abortAfter : Option Nat} {ended : World × Ending}
    (hsubmit : w.submit mode text transport limit abortAfter = .ok ended) : Showing ended.1 := by
  obtain ⟨n, v, hran, hended⟩ := run_of_submit hsubmit
  have hleads := (w.submission mode text transport limit abortAfter).leads_run n
    (.ready, w.asked text)
  rw [hran] at hleads
  have hshows := hleads.shows (shows_asked w text)
  rw [hended]
  exact (quiet_conclude _ _ _).showing hshows.showing

/-! ### Operations -/

/-- The conversation that subscribers do not know of after an operation, if there is one; `before`
is the one that they did not know of before it. -/
def untold (w : World) (before : Option Conversation) : Operation → Option Conversation
  | .submit mode text transport limit abortAfter =>
    match w.attempt (mode.getD w.session.mode) text transport limit abortAfter with
    | .ok _ => none
    | .error _ => before
  | .clear => if w.session.gate.busy then before else some {}
  | .setConversation c => if w.session.gate.busy then before else some c
  | _ => before

/-- The same after operations in order. -/
def untoldAll (w : World) (before : Option Conversation) : List Operation → Option Conversation
  | [] => before
  | operation :: rest => untoldAll (w.operate operation) (w.untold before operation) rest

/-- Subscribers know the conversation unless there is one that they were not told. -/
theorem operate_conversation (before : Option Conversation)
    (hbefore : w.conversation = before.getD w.shown) (operation : Operation) :
    (w.operate operation).conversation =
      (w.untold before operation).getD (w.operate operation).shown := by
  have hquiet : ∀ {v : World}, Quiet w v → v.conversation = before.getD v.shown := fun h ↦ by
    rw [h.conversation, h.shown]
    exact hbefore
  cases operation with
  | submit mode text transport limit abortAfter =>
    rw [operate, untold]
    have hput := w.attempts (mode.getD w.session.mode) text transport limit abortAfter
    generalize w.attempt (mode.getD w.session.mode) text transport limit abortAfter = result
      at hput ⊢
    cases hput with
    | refused hsubmit => exact hbefore
    | submitted hsubmit => exact showing_submit hsubmit
    | brokenOff hbeyond htext hidle =>
      exact (undisturbed_leave (w.asked text)).quiet.showing (showing_asked w text)
  | giveUp => exact hquiet (undisturbed_leave w).quiet
  | abort => exact hquiet ⟨rfl, rfl⟩
  | clear =>
    simp only [operate, untold, Session.clear, Session.setConversation]
    cases w.session.gate.busy with
    | true => exact hbefore
    | false => rfl
  | setConversation c =>
    simp only [operate, untold, Session.setConversation]
    cases w.session.gate.busy with
    | true => exact hbefore
    | false => rfl
  | setMode mode => exact hquiet ⟨rfl, rfl⟩
  | setTimeout timeout => exact hquiet ⟨rfl, rfl⟩
  | awaitIdle ms =>
    rw [operate, awaitIdle]
    split <;> exact hquiet ⟨rfl, rfl⟩
  | watch =>
    have hwatch : Undisturbed w w.watch := ⟨rfl, rfl⟩
    exact hquiet (hwatch.trans (undisturbed_wake w.watch)).quiet

theorem operateAll_conversation (before : Option Conversation)
    (hbefore : w.conversation = before.getD w.shown) (operations : List Operation) :
    (w.operateAll operations).conversation =
      (w.untoldAll before operations).getD (w.operateAll operations).shown := by
  induction operations generalizing w before with
  | nil => exact hbefore
  | cons operation rest ih => exact ih _ (operate_conversation before hbefore operation)

end World

/-- An operation that puts another conversation in place. -/
def Operation.Puts : Operation → Prop
  | .clear | .setConversation _ => True
  | _ => False

namespace World

variable {w : World}

/-- Without such operations there is nothing that subscribers were not told. -/
theorem untoldAll_eq_none {operations : List Operation}
    (hputs : ∀ operation ∈ operations, ¬ operation.Puts) : w.untoldAll none operations = none := by
  induction operations generalizing w with
  | nil => rfl
  | cons operation rest ih =>
    obtain ⟨hfirst, hrest⟩ := List.forall_mem_cons.1 hputs
    have hnone : w.untold none operation = none := by
      cases operation with
      | submit mode text transport limit abortAfter =>
        rw [untold]
        split <;> rfl
      | clear => exact absurd trivial hfirst
      | setConversation c => exact absurd trivial hfirst
      | _ => rfl
    rw [untoldAll, hnone]
    exact ih hrest

/-- Changes to the conversation are told, but for conversations that are put in place. After every
run of operations on a session whose subscribers know its conversation, as those of a new one do,
the conversation is the one in the last snapshot, unless it was cleared or replaced since; then it
is what was put in place, and subscribers know it only if that is what they were told last. While a
submission is in flight the conversation is the one in the last snapshot at every point, whatever
was done before and whoever aborts it. -/
theorem conversation_shown (start : World) (hshowing : start.conversation = start.shown)
    (operations : List Operation) :
    let w := start.operateAll operations
    w.conversation = (start.untoldAll none operations).getD w.shown ∧
      (w.conversation = w.shown ↔ ∀ c, start.untoldAll none operations = some c → c = w.shown) ∧
      ((∀ operation ∈ operations, ¬ operation.Puts) → w.conversation = w.shown) ∧
      ∀ (mode : Mode) (text : String) (transport : Transport) (limit abortAfter : Option Nat),
        let s := w.submission mode text transport limit abortAfter
        (∀ ended, w.submit mode text transport limit abortAfter = .ok ended →
          ∃ n v, s.run n (.ready, w.asked text) = (.done ended.2, v) ∧
            ended.1 = v.conclude s.flight ended.2) ∧
        ∀ c, s.Leads (.ready, w.asked text) c → c.2.conversation = c.2.shown := by
  intro w
  have hconversation : w.conversation = (start.untoldAll none operations).getD w.shown :=
    operateAll_conversation none hshowing operations
  refine ⟨hconversation, ?_, fun hputs ↦ ?_, fun mode text transport limit abortAfter ↦
    ⟨fun ended ↦ run_of_submit, fun c hleads ↦ (hleads.shows (shows_asked w text)).showing⟩⟩
  · cases huntold : start.untoldAll none operations with
    | none =>
      rw [huntold] at hconversation
      exact ⟨fun _ ↦ nofun, fun _ ↦ hconversation⟩
    | some put =>
      rw [huntold] at hconversation
      have hput : w.conversation = put := hconversation
      rw [hput]
      simp
  · rw [hconversation, untoldAll_eq_none hputs]
    rfl

/-- A conversation that is put in place is told with the next question. -/
theorem conversation_shown_question :
    let transport : Transport :=
      { stream := fun _ ↦ .ok []
        exchange := fun _ ↦ .error (.http "closed") }
    let operations : List Operation :=
      [.setConversation ⟨[.user "a", .assistant "b" []]⟩, .submit none "hi" transport none none]
    ({} : World).conversation = ({} : World).shown ∧
      (({} : World).operateAll operations).conversation =
        (({} : World).operateAll operations).shown := by
  intro transport operations
  obtain ⟨-, hiff, -⟩ := conversation_shown {} rfl operations
  refine ⟨rfl, hiff.2 fun c huntold ↦ ?_⟩
  cases huntold

/-- A conversation that is put in place is not told. -/
theorem setConversation_not_shown :
    let operations : List Operation := [.setConversation ⟨[.user "a"]⟩]
    ({} : World).conversation = ({} : World).shown ∧
      (({} : World).operateAll operations).conversation = ⟨[.user "a"]⟩ ∧
      (({} : World).operateAll operations).events = #[] ∧
      (({} : World).operateAll operations).conversation ≠
        (({} : World).operateAll operations).shown :=
  ⟨rfl, rfl, rfl, by decide⟩

end World

end CitedChat
