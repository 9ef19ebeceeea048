import CitedChat.Proofs.Chat.Cancellation
import CitedChat.Proofs.Chat.Operation
import CitedChat.Proofs.Chat.Register

/-!
What a session refuses. A question is refused if it is blank, and else exactly while a submission
holds the session (`World.Refuses`): who holds it is followed through the operations
(`World.heldAfterAll`), and the gate is busy exactly then (`busy_operateAll`). No other error comes
out of a submission, since its conversation ends with the answer at every point of its course
(`Submission.Answers`), so that none of its actions is refused.
-/

set_option autoImplicit false

namespace CitedChat

/-! ### The answer in flight -/

namespace Submission

variable {s : Submission} {c d : Stage × World}

/-- The conversation of a submission ends with the answer while it is open, and it does not end
because an action was refused. -/
def Answers (c : Stage × World) : Prop :=
  match c.1 with
  | .done ending => ∀ error, ending ≠ .broken error
  | _ => c.2.conversation.EndsWithAnswer

theorem answers_of_open {stage : Stage} {w : World} (hopen : ¬ stage.IsDone) :
    Answers (stage, w) ↔ w.conversation.EndsWithAnswer := by
  cases stage with
  | done ending => exact absurd trivial hopen
  | _ => exact Iff.rfl

theorem answers_interrupted (w : World) (f : Flight) (i : Interrupt) :
    Answers (close (w.interrupted f i)) := by
  cases i <;> exact fun _ h ↦ by cases h

theorem answers_adopt {w : World} (hanswer : w.conversation.EndsWithAnswer) (f : Flight)
    (reply : Reply) : Answers (close (w.adopt f reply)) := by
  cases reply with
  | transcript turns => exact fun _ h ↦ by cases h
  | turn turn =>
    cases turn with
    | user text => exact fun _ h ↦ by cases h
    | assistant text sources =>
      obtain ⟨next, happly, -⟩ := hanswer.applyAll (World.isAppend_answerActions text sources)
      rw [World.adopt, happly]
      exact fun _ h ↦ by cases h

/-- To fold a payload is to append to the answer. -/
theorem fold_answers {w v : World} (hanswer : w.conversation.EndsWithAnswer) {f : Flight}
    {a : Assembler} {raw : String} {refused : Option StoreError}
    (hfold : w.fold f (a.feed raw).1 = (v, refused)) :
    refused = none ∧ v.conversation.EndsWithAnswer := by
  obtain ⟨next, happly, hnext⟩ := hanswer.applyAll (a.isAppend_of_feed raw)
  rw [World.fold_eq w f happly] at hfold
  cases hfold
  exact ⟨rfl, hnext⟩

/-- A step keeps the answer at the end. -/
theorem Moves.answers {w : World} (hmoves : s.Moves w d)
    (hanswer : w.conversation.EndsWithAnswer) : Answers d := by
  have hsame {v : World} (hquiet : World.Quiet w v) : v.conversation.EndsWithAnswer := by
    rw [hquiet.conversation]
    exact hanswer
  cases hmoves with
  | interrupted hinterrupt => exact answers_interrupted w s.flight _
  | called hopen => exact (answers_of_open hopen).2 hanswer
  | opened hopen => exact (answers_of_open hopen).2 hanswer
  | acted hopen hperform =>
    exact (answers_of_open hopen).2 (hsame (World.undisturbed_of_perform hperform).quiet)
  | cut hperform => exact answers_interrupted _ s.flight _
  | failed error => exact fun _ h ↦ by cases h
  | closed => exact fun _ h ↦ by cases h
  | stale hstale => exact fun _ h ↦ by cases h
  | folded hfresh hfold hopen => exact (answers_of_open hopen).2 (fold_answers hanswer hfold).2
  | finished hfresh hfold => exact fun _ h ↦ by cases h
  | halted hfresh hfold => exact fun _ h ↦ by cases h
  | refused hfresh hfold => cases (fold_answers hanswer hfold).1
  | replied reply hfresh => exact answers_adopt hanswer s.flight reply

theorem answers_step (h : Answers c) : Answers (s.step c) := by
  by_cases hdone : c.1.IsDone
  · rw [s.step_of_isDone hdone]
    exact h
  · exact (s.moves_step hdone).answers ((answers_of_open hdone).1 h)

/-- Whoever aborts in between, the answer stays at the end. -/
theorem Leads.answers (hleads : s.Leads c d) (h : Answers c) : Answers d := by
  induction hleads with
  | refl c => exact h
  | step hrest ih => exact ih (answers_step h)
  | @abort c d hrest ih =>
    obtain ⟨stage, w⟩ := c
    cases stage <;> exact ih h

/-! ### The gate in flight -/

/-- A submission keeps hold of the session. -/
theorem Leads.busy (hleads : s.Leads c d) (hbusy : c.2.session.gate.busy = true) :
    d.2.session.gate.busy = true := by
  induction hleads with
  | refl c => exact hbusy
  | step hrest ih => exact ih ((s.busy_step _).trans hbusy)
  | abort hrest ih => exact ih hbusy

end Submission

/-! ### Who holds the session -/

namespace World

variable {w : World}

/-- Whether a submission holds the session after an operation, where one did or did not before: one
that is accepted holds it while it is suspended, until it is dropped. -/
def heldAfter (w : World) (held : Bool) : Operation → Bool
  | .submit mode text transport limit abortAfter =>
    match w.attempt (mode.getD w.session.mode) text transport limit abortAfter with
    | .ok (_, ending) => decide (ending = some .suspended)
    | .error _ => held
  | .giveUp => false
  | _ => held

/-- The same after operations in order. -/
def heldAfterAll (w : World) (held : Bool) : List Operation → Bool
  | [] => held
  | operation :: rest => heldAfterAll (w.operate operation) (w.heldAfter held operation) rest

theorem busy_leave (w : World) : w.leave.session.gate.busy = false := by
  rw [leave, wake]
  split <;> rfl

/-- A submission holds the session when it ends exactly if it is suspended. -/
theorem busy_submit {mode : Mode} {text : String} {transport : Transport}
    {limit abortAfter : Option Nat} {ended : World × Ending}
    (hsubmit : w.submit mode text transport limit abortAfter = .ok ended) :
    ended.1.session.gate.busy = decide (ended.2 = .suspended) := by
  obtain ⟨n, v, hrun, hended⟩ := run_of_submit hsubmit
  have hbusy := (w.submission mode text transport limit abortAfter).busy_run n
    (.ready, w.asked text)
  rw [hrun] at hbusy
  rw [hended]
  cases ended.2 with
  | outcome outcome => exact busy_leave _
  | broken error => exact busy_leave _
  | suspended => exact hbusy

theorem gate_operate_setConversation (w : World) (c : Conversation) :
    (w.operate (.setConversation c)).session.gate = w.session.gate := by
  cases hbusy : w.session.gate.busy <;> simp [operate, Session.setConversation, hbusy]

theorem busy_operate (w : World) (operation : Operation) :
    (w.operate operation).session.gate.busy = w.heldAfter w.session.gate.busy operation := by
  cases operation with
  | submit mode text transport limit abortAfter =>
    rw [operate, heldAfter]
    have hput := w.attempts (mode.getD w.session.mode) text transport limit abortAfter
    generalize w.attempt (mode.getD w.session.mode) text transport limit abortAfter = result
      at hput ⊢
    cases hput with
    | refused hsubmit => rfl
    | submitted hsubmit => simpa using busy_submit hsubmit
    | brokenOff hbeyond htext hidle => exact busy_leave (w.asked text)
  | giveUp => exact busy_leave w
  | abort => rfl
  | clear => exact congrArg Gate.busy (gate_operate_setConversation w {})
  | setConversation c => exact congrArg Gate.busy (gate_operate_setConversation w c)
  | setMode mode => rfl
  | setTimeout timeout => rfl
  | awaitIdle ms =>
    rw [operate, awaitIdle]
    split <;> rfl
  | watch =>
    rw [operate, wake]
    split <;> rfl

/-- Through any run of operations the gate is busy exactly while a submission holds the session. -/
theorem busy_operateAll (w : World) (operations : List Operation) :
    (w.operateAll operations).session.gate.busy =
      w.heldAfterAll w.session.gate.busy operations := by
  induction operations generalizing w with
  | nil => rfl
  | cons operation rest ih =>
    rw [heldAfterAll, ← busy_operate]
    exact ih (w.operate operation)

/-! ### What is refused -/

/-- What a session refuses, where a submission holds it or does not: blank questions, and while it
is held all other questions and every other conversation. Nothing is changed by what is refused. -/
structure Refuses (w : World) (held : Bool) : Prop where
  blank : ∀ mode text transport limit abortAfter,
    w.submit mode text transport limit abortAfter = .error .emptyInput ↔
      ∀ c ∈ text.toList, Text.isBlank c = true
  busy : ∀ mode text transport limit abortAfter,
    w.submit mode text transport limit abortAfter = .error .busy ↔
      (¬ ∀ c ∈ text.toList, Text.isBlank c = true) ∧ held = true
  nothing_else : ∀ mode text transport limit abortAfter error,
    w.submit mode text transport limit abortAfter = .error error →
      (error = .emptyInput ∨ error = .busy) ∧
        w.operate (.submit (some mode) text transport limit abortAfter) = w
  setConversation : ∀ c, w.session.setConversation c = .error .busy ↔ held = true
  setConversation_error : ∀ c error, w.session.setConversation c = .error error →
    error = .busy ∧ w.operate (.setConversation c) = w
  clear : w.session.clear = .error .busy ↔ held = true
  clear_error : ∀ error, w.session.clear = .error error →
    error = .busy ∧ w.operate .clear = w

theorem isBlankText_iff (text : String) :
    Text.isBlankText text = true ↔ ∀ c ∈ text.toList, Text.isBlank c = true :=
  List.all_eq_true

theorem of_setConversation_error (w : World) (c : Conversation) {error : ChatError}
    (herror : w.session.setConversation c = .error error) :
    error = .busy ∧ w.operate (.setConversation c) = w := by
  refine ⟨?_, by simp [operate, herror]⟩
  rw [Session.setConversation] at herror
  split at herror <;> cases herror
  rfl

/-- A session refuses by its gate. -/
theorem refuses (w : World) : w.Refuses w.session.gate.busy where
  blank mode text transport limit abortAfter := by
    rw [← isBlankText_iff]
    obtain ⟨hbegin, htext⟩ | ⟨hbegin, htext, -⟩ | ⟨htext, hidle⟩ :=
      w.beginTurn_cases text limit abortAfter
    · simp [submit_of_error hbegin, htext]
    · simp [submit_of_error hbegin, htext]
    · simp [submit_eq w mode htext hidle, htext]
  busy mode text transport limit abortAfter := by
    rw [← isBlankText_iff]
    obtain ⟨hbegin, htext⟩ | ⟨hbegin, htext, hbusy⟩ | ⟨htext, hidle⟩ :=
      w.beginTurn_cases text limit abortAfter
    · simp [submit_of_error hbegin, htext]
    · simp [submit_of_error hbegin, htext, hbusy]
    · simp [submit_eq w mode htext hidle, htext, hidle]
  nothing_else mode text transport limit abortAfter error herror := by
    obtain ⟨hbegin, -⟩ | ⟨hbegin, -⟩ | ⟨htext, hidle⟩ := w.beginTurn_cases text limit abortAfter
    · cases (submit_of_error hbegin).symm.trans herror
      exact ⟨.inl rfl, by rw [operate, attempt_of_error hbegin]⟩
    · cases (submit_of_error hbegin).symm.trans herror
      exact ⟨.inr rfl, by rw [operate, attempt_of_error hbegin]⟩
    · cases (submit_eq w mode htext hidle transport limit abortAfter).symm.trans herror
  setConversation c := by simp [Session.setConversation]
  setConversation_error c error := w.of_setConversation_error c
  clear := by simp [Session.clear, Session.setConversation]
  clear_error error := w.of_setConversation_error {}

/-- A refused operation changes nothing, and only refusals are errors. Whatever was done with a
session before, and whatever the question, the mode, the settings and the transport: a question is
refused as empty if and only if all its characters are white space, as one too many if and only if
they are not and a submission holds the session, and with no other error; another conversation is
refused if and only if a submission holds the session. A refused operation leaves the session and
all that was seen of it as they are, and no request is made. A question that is accepted does not
end with an error of the conversation, whoever aborts it: while its submission is open the
conversation ends with the answer, and the session is held. -/
theorem refusal_changes_nothing (start : World) (hidle : start.session.gate.busy = false)
    (operations : List Operation) :
    let w := start.operateAll operations
    w.Refuses (start.heldAfterAll false operations) ∧
      ∀ mode text transport limit abortAfter ended,
        w.submit mode text transport limit abortAfter = .ok ended →
          (∀ error, ended.2 ≠ .broken error) ∧
          ∀ c, (w.submission mode text transport limit abortAfter).Leads
              (.ready, w.asked text) c →
            (∀ error, c.1 ≠ .done (.broken error)) ∧
            (¬ c.1.IsDone → c.2.conversation.EndsWithAnswer ∧ c.2.Refuses true) := by
  intro w
  refine ⟨?_, fun mode text transport limit abortAfter ended hsubmit ↦ ?_⟩
  · rw [← hidle, ← busy_operateAll]
    exact w.refuses
  · have hstart : Submission.Answers (.ready, w.asked text) :=
      Conversation.endsWithAnswer_ask w.conversation text
    have hunbroken {c : Stage × World} (h : Submission.Answers c) (error : StoreError) :
        c.1 ≠ .done (.broken error) := by
      intro hdone
      rw [Submission.Answers, hdone] at h
      exact h error rfl
    refine ⟨fun error hbroken ↦ ?_, fun c hleads ↦ ⟨?_, fun hopen ↦ ⟨?_, ?_⟩⟩⟩
    · obtain ⟨n, v, hrun, -⟩ := run_of_submit hsubmit
      have hleads := (w.submission mode text transport limit abortAfter).leads_run n
        (.ready, w.asked text)
      rw [hrun] at hleads
      exact hunbroken (hleads.answers hstart) error (congrArg Stage.done hbroken)
    · exact hunbroken (hleads.answers hstart)
    · exact (Submission.answers_of_open hopen).1 (hleads.answers hstart)
    · have hbusy : c.2.session.gate.busy = true := hleads.busy rfl
      rw [← hbusy]
      exact c.2.refuses

/-- A session with a suspended submission. -/
theorem refusal_changes_nothing_suspended :
    let hanging : Transport :=
      { connect := [.hang], stream := fun _ ↦ .ok [], exchange := fun _ ↦ .error (.http "closed") }
    let w := ({} : World).operateAll [.submit (some .batch) "hi" hanging (some 5) none]
    w.submit .streaming "\u3000" hanging none none = .error .emptyInput ∧
      w.submit .batch "again" hanging none none = .error .busy ∧
      w.operate (.submit (some .batch) "again" hanging none none) = w ∧
      w.session.clear = .error .busy ∧
      (w.operate .giveUp).session.clear ≠ .error .busy := by
  intro hanging w
  obtain ⟨hrefuses, -⟩ := refusal_changes_nothing {} rfl
    [.submit (some .batch) "hi" hanging (some 5) none]
  obtain ⟨hdropped, -⟩ := refusal_changes_nothing {} rfl
    [.submit (some .batch) "hi" hanging (some 5) none, .giveUp]
  have hheld : ({} : World).heldAfterAll false
      [.submit (some .batch) "hi" hanging (some 5) none] = true := by decide
  have hfree : ({} : World).heldAfterAll false
      [.submit (some .batch) "hi" hanging (some 5) none, .giveUp] = false := by decide
  rw [hheld] at hrefuses
  rw [hfree] at hdropped
  have hbusy := (hrefuses.busy .batch "again" hanging none none).2
    ⟨fun hblank ↦ absurd ((isBlankText_iff "again").2 hblank) (by decide), rfl⟩
  refine ⟨(hrefuses.blank .streaming _ hanging none none).2 ((isBlankText_iff _).1 (by decide)),
    hbusy,
    (hrefuses.nothing_else _ _ _ _ _ _ hbusy).2, hrefuses.clear.2 rfl, fun hclear ↦ ?_⟩
  cases hdropped.clear.1 hclear

end World

end CitedChat
