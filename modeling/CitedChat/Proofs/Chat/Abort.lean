import CitedChat.Proofs.Chat.Course

/-!
Nothing is folded after an abort. In a step of a submission the gate stays as it is or is aborted,
and a step that aborts it leaves the conversation alone (`Submission.Moves.spares`). From then on
the permit of the submission is stale, and a step with a stale permit leaves the conversation alone
as well (`Submission.Moves.quiet`), whatever the transport delivers in it; so the rest of the course
does (`Submission.quiet_run`).
-/

set_option autoImplicit false

namespace CitedChat

/-- A permit is stale once the generation has moved on. -/
theorem Gate.isStale_of_lt {gate : Gate} {permit : Permit}
    (hlater : permit.generation < gate.generation) : gate.isStale permit = true := by
  have hother : gate.generation ≠ permit.generation := by omega
  rw [isStale, isCurrent, beq_false_of_ne hother]
  rfl

/-- An abort leaves its trace. -/
theorem Gate.ne_abort (gate : Gate) : gate ≠ gate.abort := by
  intro heq
  have hgeneration := congrArg Gate.generation heq
  rw [generation_abort] at hgeneration
  omega

namespace World

/-! ### The gate -/

theorem gate_suspend (w : World) (f : Flight) (until_ : Option Nat) :
    (w.suspend f until_).1.session.gate = w.session.gate ∨
      (w.suspend f until_).1.session.gate = w.session.gate.abort := by
  simp only [suspend]
  split
  · exact .inr rfl
  · exact .inl rfl

/-- An act of the transport leaves the gate or aborts it. -/
theorem gate_perform (w : World) (f : Flight) (act : Act) :
    (w.perform f act).1.session.gate = w.session.gate ∨
      (w.perform f act).1.session.gate = w.session.gate.abort := by
  cases act with
  | wait ms => exact gate_suspend w f _
  | hang => exact gate_suspend w f _
  | abort => exact .inr rfl
  | awaitIdle ms =>
    obtain ⟨answers, hperform⟩ := perform_awaitIdle w f ms
    rw [hperform]
    exact gate_suspend w f _
  | watch => exact .inl rfl

end World

open World

namespace Submission

variable (s : Submission)

/-! ### One step -/

/-- A step that does nothing to the gate, or aborts it and leaves the conversation alone. -/
def Spares (w v : World) : Prop :=
  v.session.gate = w.session.gate ∨ v.session.gate = w.session.gate.abort ∧ Quiet w v

section Moves

variable {s : Submission} {w : World} {d : Stage × World}

/-- A step with a stale permit leaves the conversation alone. -/
theorem Moves.quiet (hmoves : s.Moves w d)
    (hstale : w.session.gate.isStale s.flight.permit = true) : Quiet w d.2 := by
  -- A payload or a reply is taken in under a fresh permit only.
  have hnever : w.session.gate.isStale s.flight.permit ≠ false := by simp [hstale]
  cases hmoves with
  | interrupted hinterrupt => exact quiet_interrupted w s.flight _
  | called hopen => exact ⟨rfl, rfl⟩
  | opened hopen => exact .refl w
  | acted hopen hperform => exact (undisturbed_of_perform hperform).quiet
  | cut hperform => exact (undisturbed_of_perform hperform).quiet.trans (quiet_interrupted _ _ _)
  | failed error => exact quiet_failed w error
  | closed => exact quiet_warn w s.flight _
  | stale hstale => exact .refl w
  | folded hfresh hfold hopen => exact absurd hfresh hnever
  | finished hfresh hfold => exact absurd hfresh hnever
  | halted hfresh hfold => exact absurd hfresh hnever
  | refused hfresh hfold => exact absurd hfresh hnever
  | replied reply hfresh => exact absurd hfresh hnever

/-- In a step the gate stays, unless the transport acts. -/
theorem Moves.gate_or_perform (hmoves : s.Moves w d) :
    d.2.session.gate = w.session.gate ∨
      ∃ next act v i, ¬ next.IsDone ∧ w.perform s.flight act = (v, i) ∧
        d = match i with
          | none => (next, v)
          | some i => close (v.interrupted s.flight i) := by
  cases hmoves with
  | interrupted hinterrupt => exact .inl (congrArg Session.gate (session_interrupted w s.flight _))
  | called hopen => exact .inl rfl
  | opened hopen => exact .inl rfl
  | acted hopen hperform => exact .inr ⟨_, _, _, none, hopen, hperform, rfl⟩
  | cut hperform => exact .inr ⟨.ready, _, _, some _, id, hperform, rfl⟩
  | failed error => exact .inl rfl
  | closed => exact .inl rfl
  | stale hstale => exact .inl rfl
  | folded hfresh hfold hopen => exact .inl (still_of_fold hfold).gate
  | finished hfresh hfold => exact .inl (still_of_fold hfold).gate
  | halted hfresh hfold =>
    have hgate := (still_of_fold hfold).gate
    exact .inl hgate
  | refused hfresh hfold => exact .inl (still_of_fold hfold).gate
  | replied reply hfresh => exact .inl (still_adopt w s.flight reply).gate

/-- In a step the gate stays, or it is aborted and the conversation left alone. -/
theorem Moves.spares (hmoves : s.Moves w d) : Spares w d.2 := by
  obtain hgate | ⟨next, act, v, i, -, hperform, rfl⟩ := hmoves.gate_or_perform
  · exact .inl hgate
  · have hquiet := (undisturbed_of_perform hperform).quiet
    have hgate := gate_perform w s.flight act
    rw [hperform] at hgate
    cases i with
    | none => exact hgate.imp id fun habort ↦ ⟨habort, hquiet⟩
    | some i =>
      have hsession := congrArg Session.gate (session_interrupted v s.flight i)
      exact hgate.imp hsession.trans fun habort ↦
        ⟨hsession.trans habort, hquiet.trans (quiet_interrupted v s.flight i)⟩

end Moves

/-- A step with a stale permit leaves the conversation alone. -/
theorem quiet_step {c : Stage × World} (hstale : c.2.session.gate.isStale s.flight.permit = true) :
    Quiet c.2 (s.step c).2 := by
  by_cases hdone : c.1.IsDone
  · rw [s.step_of_isDone hdone]
    exact .refl c.2
  · exact (s.moves_step hdone).quiet hstale

/-- In a step the gate stays, or it is aborted and the conversation left alone. -/
theorem spares_step (c : Stage × World) : Spares c.2 (s.step c).2 := by
  by_cases hdone : c.1.IsDone
  · rw [s.step_of_isDone hdone]
    exact .inl rfl
  · exact (s.moves_step hdone).spares

/-- A step neither takes nor releases the session. -/
theorem busy_step (c : Stage × World) :
    (s.step c).2.session.gate.busy = c.2.session.gate.busy := by
  obtain hgate | ⟨hgate, -⟩ := s.spares_step c
  · rw [hgate]
  · rw [hgate, Gate.busy_abort]

/-! ### The rest of the course -/

theorem busy_run (n : Nat) (c : Stage × World) :
    (s.run n c).2.session.gate.busy = c.2.session.gate.busy := by
  induction n generalizing c with
  | zero => rfl
  | succ n ih => exact (ih (s.step c)).trans (s.busy_step c)

/-- The generation only moves on. -/
theorem generation_step (c : Stage × World) :
    c.2.session.gate.generation ≤ (s.step c).2.session.gate.generation := by
  obtain hgate | ⟨hgate, -⟩ := s.spares_step c
  · exact Nat.le_of_eq (congrArg Gate.generation hgate).symm
  · rw [hgate, Gate.generation_abort]
    exact Nat.le_succ _

theorem generation_run (n : Nat) (c : Stage × World) :
    c.2.session.gate.generation ≤ (s.run n c).2.session.gate.generation := by
  induction n generalizing c with
  | zero => exact Nat.le_refl _
  | succ n ih => exact Nat.le_trans (s.generation_step c) (ih (s.step c))

/-- Once the generation has moved on, the rest of the course leaves the conversation alone. -/
theorem quiet_run (n : Nat) {c : Stage × World}
    (hlater : s.flight.permit.generation < c.2.session.gate.generation) :
    Quiet c.2 (s.run n c).2 := by
  induction n generalizing c with
  | zero => exact .refl c.2
  | succ n ih =>
    have hstep := s.quiet_step (Gate.isStale_of_lt hlater)
    exact hstep.trans (ih (Nat.lt_of_lt_of_le hlater (s.generation_step c)))

/-- From a step that aborts on the course leaves the conversation alone. -/
theorem quiet_of_abort {c : Stage × World}
    (hentered : s.flight.permit.generation ≤ c.2.session.gate.generation)
    (habort : (s.step c).2.session.gate = c.2.session.gate.abort) (n : Nat) :
    Quiet c.2 (s.run n c).2 := by
  have hmoved : (s.step c).2.session.gate.generation = c.2.session.gate.generation + 1 := by
    rw [habort, Gate.generation_abort]
  cases n with
  | zero => exact .refl c.2
  | succ n =>
    -- The permit may be fresh until within this step, so `quiet_step` does not apply to it.
    have hstep : Quiet c.2 (s.step c).2 := by
      obtain hgate | ⟨-, hquiet⟩ := s.spares_step c
      · rw [hgate] at hmoved
        omega
      · exact hquiet
    exact hstep.trans (s.quiet_run n (by omega))

/-- From an abort between two steps on the course leaves the conversation alone. -/
theorem quiet_abort_run {c : Stage × World}
    (hentered : s.flight.permit.generation ≤ c.2.session.gate.generation) (n : Nat) :
    Quiet c.2 (s.run n (c.1, c.2.abort)).2 := by
  have hlater : s.flight.permit.generation < c.2.abort.session.gate.generation :=
    Nat.lt_succ_of_le hentered
  have habort : Quiet c.2 c.2.abort := ⟨rfl, rfl⟩
  exact habort.trans (s.quiet_run n (c := (c.1, c.2.abort)) hlater)

end Submission

namespace World

/-- The submission of a question, once the session is entered. -/
def submission (w : World) (mode : Mode) (text : String) (transport : Transport)
    (limit abortAfter : Option Nat) : Submission where
  flight := w.flight limit abortAfter
  mode
  transport
  request := w.request text

/-- How far a submission has got after so many steps, and the world by then. -/
def course (w : World) (mode : Mode) (text : String) (transport : Transport)
    (limit abortAfter : Option Nat) (n : Nat) : Stage × World :=
  (w.submission mode text transport limit abortAfter).run n (.ready, w.asked text)

/-- The same for a submission that is aborted after `n` steps, `k` steps later. -/
def courseAborted (w : World) (mode : Mode) (text : String) (transport : Transport)
    (limit abortAfter : Option Nat) (n k : Nat) : Stage × World :=
  let c := w.course mode text transport limit abortAfter n
  (w.submission mode text transport limit abortAfter).run k (c.1, c.2.abort)

section Course

variable {w : World} {mode : Mode} {text : String} {transport : Transport}
  {limit abortAfter : Option Nat}

/-- A submission that is accepted comes to its end step by step. -/
theorem run_of_submit {ended : World × Ending}
    (hsubmit : w.submit mode text transport limit abortAfter = .ok ended) :
    ∃ n v,
      (w.submission mode text transport limit abortAfter).run n (.ready, w.asked text) =
        (.done ended.2, v) ∧
      ended.1 = v.conclude (w.flight limit abortAfter) ended.2 := by
  obtain ⟨htext, hidle⟩ := accepted_of_submit hsubmit
  rw [submit_eq w mode htext hidle] at hsubmit
  cases hsubmit
  obtain ⟨n, hran⟩ :=
    (w.submission mode text transport limit abortAfter).run_ready (w.asked text)
  exact ⟨n, _, hran, rfl⟩

theorem generation_course (n : Nat) :
    (w.flight limit abortAfter).permit.generation ≤
      (w.course mode text transport limit abortAfter n).2.session.gate.generation :=
  (w.submission mode text transport limit abortAfter).generation_run n (.ready, w.asked text)

/-- From a step that aborts on, every later world is quiet. -/
theorem quiet_course {n m : Nat} (hm : n ≤ m)
    (habort : (w.course mode text transport limit abortAfter (n + 1)).2.session.gate =
      (w.course mode text transport limit abortAfter n).2.session.gate.abort) :
    Quiet (w.course mode text transport limit abortAfter n).2
      (w.course mode text transport limit abortAfter m).2 := by
  obtain ⟨k, rfl⟩ := Nat.exists_eq_add_of_le hm
  rw [course, Submission.run_add] at habort
  have hrest := (w.submission mode text transport limit abortAfter).quiet_of_abort
    (generation_course n) habort k
  rw [course, course, Submission.run_add]
  exact hrest

/-- What is done stays done in the course of a submission. -/
theorem course_add_of_done {n : Nat} {ended : World × Ending}
    (hdone : w.course mode text transport limit abortAfter n = Submission.close ended) (k : Nat) :
    w.course mode text transport limit abortAfter (n + k) = Submission.close ended := by
  rw [course] at hdone
  rw [course, Submission.run_add, hdone, Submission.run_close]

end Course

/-- Nothing is folded after an abort. Whatever the mode, the transport's script and the step of the
course in which somebody aborts, be it the transport while it acts or somebody outside while the
submission waits: from the world before that step to every later one and to the one that the
submission leaves, the conversation is the same and subscribers are told none. So it is when
somebody aborts between any two steps. -/
theorem quiet_after_abort (w : World) {text : String} (htext : Text.isBlankText text = false)
    (hidle : w.session.gate.busy = false) (mode : Mode) (transport : Transport)
    (limit abortAfter : Option Nat) :
    ∃ ended : World × Ending,
      w.submit mode text transport limit abortAfter = .ok ended ∧
      (∃ n v, w.course mode text transport limit abortAfter n = (.done ended.2, v) ∧
        ended.1 = v.conclude (w.flight limit abortAfter) ended.2) ∧
      (∀ n, (w.course mode text transport limit abortAfter (n + 1)).2.session.gate =
          (w.course mode text transport limit abortAfter n).2.session.gate.abort →
        (∀ m, n ≤ m → Quiet (w.course mode text transport limit abortAfter n).2
          (w.course mode text transport limit abortAfter m).2) ∧
        Quiet (w.course mode text transport limit abortAfter n).2 ended.1) ∧
      ∀ n k, Quiet (w.course mode text transport limit abortAfter n).2
          (w.courseAborted mode text transport limit abortAfter n k).2 ∧
        ∀ ending, (w.courseAborted mode text transport limit abortAfter n k).1 = .done ending →
          Quiet (w.course mode text transport limit abortAfter n).2
            ((w.courseAborted mode text transport limit abortAfter n k).2.conclude
              (w.flight limit abortAfter) ending) := by
  have hsubmit := submit_eq w mode htext hidle transport limit abortAfter
  obtain ⟨last, hlast⟩ : ∃ n, w.course mode text transport limit abortAfter n =
      Submission.close
        ((w.asked text).run mode (w.flight limit abortAfter) transport (w.request text)) :=
    (w.submission mode text transport limit abortAfter).run_ready (w.asked text)
  refine ⟨_, hsubmit, ⟨last, _, hlast, rfl⟩, fun n habort ↦ ⟨fun m hm ↦ quiet_course hm habort, ?_⟩,
    fun n k ↦ ?_⟩
  · have hreturn := quiet_course (Nat.le_add_left n last) habort
    rw [course_add_of_done hlast n] at hreturn
    exact hreturn.trans (quiet_conclude _ _ _)
  · have hrest : Quiet (w.course mode text transport limit abortAfter n).2
        (w.courseAborted mode text transport limit abortAfter n k).2 :=
      (w.submission mode text transport limit abortAfter).quiet_abort_run (generation_course n) k
    exact ⟨hrest, fun ending _ ↦ hrest.trans (quiet_conclude _ _ ending)⟩

/-- A payload right behind an abort of the transport's. -/
theorem quiet_after_abort_payload :
    Text.isBlankText "hi" = false ∧ ({} : World).session.gate.busy = false ∧
      ∃ ended,
        ({} : World).submit .streaming "hi"
          { stream := fun _ ↦ .ok [.act .abort, .payload "\x7b\"content\":\"a\"\x7d"]
            exchange := fun _ ↦ .error (.http "closed") } = .ok ended ∧
        ended.1.conversation = ⟨[.user "hi", .placeholder]⟩ ∧
        ended.1.snapshots = [⟨[.user "hi", .placeholder]⟩] := by
  have htext : Text.isBlankText "hi" = false := by decide
  obtain ⟨ended, hsubmit, -, hafter, -⟩ :=
    quiet_after_abort {} htext rfl .streaming
      { stream := fun _ ↦ .ok [.act .abort, .payload "\x7b\"content\":\"a\"\x7d"]
        exchange := fun _ ↦ .error (.http "closed") } none none
  obtain ⟨-, hquiet⟩ := hafter 2 rfl
  exact ⟨htext, rfl, ended, hsubmit, hquiet.conversation, hquiet.snapshots⟩

end World

end CitedChat
