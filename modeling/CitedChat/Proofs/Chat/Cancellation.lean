import CitedChat.Proofs.Chat.Abort

/-!
How an aborted submission ends. An abort makes the permit of the submission cancelled and stale for
good (`World.CalledOff`); from then on a step of the course either goes on without telling anything
or ends the submission (`Submission.step_of_calledOff`), and the end is the outcome cancelled. There
is one gap. While the transport of a streamed turn is being asked nobody looks at the abort, so that
a failure or the end of the stream that comes without a wait ends the turn instead
(`Stage.overtaking?`). A batch turn has no such gap, and without an abort no submission ends as
cancelled (`Submission.Leads.aborted`).
-/

set_option autoImplicit false

namespace CitedChat

/-- An act that takes no time and does not hang, so that the transport goes on at once. -/
def Act.isInstant : Act → Bool
  | .wait ms | .awaitIdle ms => ms == 0
  | .hang => false
  | .abort | .watch => true

/-- What ends a streamed turn in spite of an abort, and what subscribers are told of it: a failure
or the end of the stream that the transport comes to before it holds up or delivers anything. -/
def Flight.overtaking? (f : Flight) : List Item → Option (Outcome × Event)
  | [] => some (.incomplete, .warning f.permit.generation World.closedText)
  | .act act :: rest => if act.isInstant then f.overtaking? rest else none
  | .fail error :: _ => some (.failed error.message, .error error.message)
  | .opened :: _ | .payload _ :: _ => none

/-- What ends a submission in spite of an abort at some stage. -/
def Stage.overtaking? (f : Flight) : Stage → Option (Outcome × Event)
  | .reading true items _ => f.overtaking? items
  | _ => none

namespace World

/-! ### Permits that are called off -/

/-- The permit of a submission is the newest one. -/
structure Holds (w : World) (f : Flight) : Prop where
  generation : f.permit.generation ≤ w.session.gate.generation
  token : w.session.gate.token = f.permit.token

/-- The permit of a submission is cancelled, and the generation has moved on. -/
structure CalledOff (w : World) (f : Flight) : Prop where
  generation : f.permit.generation < w.session.gate.generation
  cancelled : f.permit.token ∈ w.session.gate.cancelled

variable {w v : World} {f : Flight}

theorem holds_asked (w : World) (text : String) (limit abortAfter : Option Nat) :
    Holds (w.asked text) (w.flight limit abortAfter) :=
  ⟨Nat.le_refl _, rfl⟩

theorem Holds.of_gate (h : Holds w f)
    (hgate : v.session.gate = w.session.gate ∨ v.session.gate = w.session.gate.abort) :
    Holds v f := by
  obtain hgate | hgate := hgate
  · exact ⟨by rw [hgate]; exact h.generation, by rw [hgate]; exact h.token⟩
  · exact ⟨by rw [hgate]; exact Nat.le_succ_of_le h.generation, by rw [hgate]; exact h.token⟩

/-- An abort calls the newest permit off. -/
theorem Holds.calledOff (h : Holds w f) (hgate : v.session.gate = w.session.gate.abort) :
    CalledOff v f where
  generation := by rw [hgate]; exact Nat.lt_succ_of_le h.generation
  cancelled := by rw [hgate, ← h.token]; exact List.mem_cons_self

namespace CalledOff

/-- A permit that is called off stays so. -/
theorem of_gate (h : CalledOff w f)
    (hgate : v.session.gate = w.session.gate ∨ v.session.gate = w.session.gate.abort) :
    CalledOff v f := by
  obtain hgate | hgate := hgate
  · exact ⟨by rw [hgate]; exact h.generation, by rw [hgate]; exact h.cancelled⟩
  · exact ⟨by rw [hgate]; exact Nat.lt_succ_of_lt h.generation, by
      rw [hgate]
      exact List.mem_cons_of_mem _ h.cancelled⟩

theorem isCancelled (h : CalledOff w f) : w.isCancelled f = true :=
  List.contains_iff_mem.2 h.cancelled

theorem isStale (h : CalledOff w f) : w.session.gate.isStale f.permit = true :=
  Gate.isStale_of_lt h.generation

theorem interrupt? (h : CalledOff w f) : w.interrupt? f = some .cancelled := by
  rw [World.interrupt?, h.isCancelled]
  rfl

/-- A wait is over at once, as cancelled unless its instant has come. -/
theorem suspend (h : CalledOff w f) (until_ : Option Nat) :
    w.suspend f until_ = (w, if until_.any (· ≤ w.now) then none else some .cancelled) := by
  rw [World.suspend, wakening, h.isCancelled]
  split <;> rfl

/-- The transport goes on at once or is interrupted as cancelled. -/
theorem perform (h : CalledOff w f) (act : Act) :
    (w.perform f act).2 = if act.isInstant then none else some .cancelled := by
  cases act with
  | wait ms => cases ms <;> simp [World.perform, h.suspend, Act.isInstant]
  | hang => simp [World.perform, h.suspend, Act.isInstant]
  | abort => rfl
  | awaitIdle ms => cases ms <;> simp [World.perform, h.suspend, Act.isInstant]
  | watch => rfl

end CalledOff

/-! ### Who cancels -/

/-- Somebody outside who ends a wait cancels it. -/
theorem interrupt_of_aborts {until_ : Option Nat} (haborts : (w.wakening f until_).aborts = true) :
    (w.wakening f until_).interrupt = some .cancelled := by
  simp only [wakening] at haborts ⊢
  grind

/-- A wait under a good permit is cancelled by somebody outside only. -/
theorem aborts_of_interrupt {until_ : Option Nat} (hgood : w.isCancelled f = false)
    (hcancelled : (w.wakening f until_).interrupt = some .cancelled) :
    (w.wakening f until_).aborts = true := by
  simp only [wakening, hgood] at hcancelled ⊢
  grind

theorem cancelled_of_abort_suspend (until_ : Option Nat)
    (habort : (w.suspend f until_).1.session.gate = w.session.gate.abort) :
    (w.suspend f until_).2 = some .cancelled := by
  cases haborts : (w.wakening f until_).aborts with
  | true => exact interrupt_of_aborts haborts
  | false =>
    simp only [World.suspend, haborts] at habort
    exact absurd habort (Gate.ne_abort _)

theorem abort_of_cancelled_suspend (hgood : w.isCancelled f = false) (until_ : Option Nat)
    (hcancelled : (w.suspend f until_).2 = some .cancelled) :
    (w.suspend f until_).1.session.gate = w.session.gate.abort := by
  simp only [World.suspend, aborts_of_interrupt hgood hcancelled]
  rfl

/-- A transport that acts while its turn is aborted goes on or is interrupted as cancelled. -/
theorem cancelled_of_abort_perform (act : Act)
    (habort : (w.perform f act).1.session.gate = w.session.gate.abort) :
    (w.perform f act).2 = none ∨ (w.perform f act).2 = some .cancelled := by
  cases act with
  | wait ms => exact .inr (cancelled_of_abort_suspend _ habort)
  | hang => exact .inr (cancelled_of_abort_suspend _ habort)
  | abort => exact .inl rfl
  | awaitIdle ms =>
    obtain ⟨answers, hperform⟩ := perform_awaitIdle w f ms
    rw [hperform] at habort ⊢
    exact .inr (cancelled_of_abort_suspend _ habort)
  | watch => exact .inl rfl

/-- Under a good permit a transport that acts is cancelled by an abort only. -/
theorem abort_of_cancelled_perform (hgood : w.isCancelled f = false) (act : Act)
    (hcancelled : (w.perform f act).2 = some .cancelled) :
    (w.perform f act).1.session.gate = w.session.gate.abort := by
  cases act with
  | wait ms => exact abort_of_cancelled_suspend hgood _ hcancelled
  | hang => exact abort_of_cancelled_suspend hgood _ hcancelled
  | abort => cases hcancelled
  | awaitIdle ms =>
    obtain ⟨answers, hperform⟩ := perform_awaitIdle w f ms
    rw [hperform] at hcancelled ⊢
    exact abort_of_cancelled_suspend hgood _ hcancelled
  | watch => cases hcancelled

/-- What is looked at before the transport cancels under a cancelled permit only. -/
theorem isCancelled_of_interrupted {i : Interrupt} (hinterrupt : w.interrupt? f = some i)
    (hcancelled : (w.interrupted f i).2 = .outcome .cancelled) : w.isCancelled f = true := by
  cases hgood : w.isCancelled f with
  | true => rfl
  | false =>
    simp only [World.interrupt?, hgood] at hinterrupt
    split at hinterrupt
    · next hcontra => cases hcontra
    · split at hinterrupt
      · cases hinterrupt
        cases hcancelled
      · cases hinterrupt

/-- No reply makes a turn end as cancelled. -/
theorem adopt_ne_cancelled (w : World) (f : Flight) (reply : Reply) :
    (w.adopt f reply).2 ≠ .outcome .cancelled := by
  intro hcancelled
  cases reply with
  | transcript turns => cases hcancelled
  | turn turn =>
    cases turn with
    | user text => cases hcancelled
    | assistant text sources =>
      rw [adopt] at hcancelled
      split at hcancelled <;> cases hcancelled

/-- A submission that was aborted in a world has ended: as cancelled, and subscribers were told
nothing before, or as what overtook the abort. -/
def EndsAborted (w : World) (overtaking : Option (Outcome × Event)) (ended : World × Ending) :
    Prop :=
  match overtaking with
  | none => ended.2 = .outcome .cancelled ∧ ended.1.events = w.events
  | some (outcome, event) => ended.2 = .outcome outcome ∧ ended.1.events = w.events.push event

/-- Only the events told count. -/
theorem EndsAborted.of_events {overtaking : Option (Outcome × Event)} {ended after : World × Ending}
    (hends : EndsAborted w overtaking ended) (hbefore : w.events = v.events)
    (hafter : after.2 = ended.2 ∧ after.1.events = ended.1.events) :
    EndsAborted v overtaking after := by
  cases overtaking with
  | none => exact ⟨hafter.1.trans hends.1, hafter.2.trans (hends.2.trans hbefore)⟩
  | some told =>
    have htold : w.events.push told.2 = v.events.push told.2 := by rw [hbefore]
    exact ⟨hafter.1.trans hends.1, hafter.2.trans (hends.2.trans htold)⟩

/-- What is told in all, the end of the turn included. -/
theorem EndsAborted.concluded {overtaking : Option (Outcome × Event)} {ending : Ending}
    (hends : EndsAborted w overtaking (v, ending)) (f : Flight) :
    (overtaking = none →
      ending = .outcome .cancelled ∧
        (v.conclude f ending).events = w.events.push (.turnEnd f.permit.generation .cancelled)) ∧
    ∀ outcome event, overtaking = some (outcome, event) →
      ending = .outcome outcome ∧
        (v.conclude f ending).events =
          (w.events.push event).push (.turnEnd f.permit.generation outcome) := by
  refine ⟨?_, ?_⟩
  · rintro rfl
    obtain ⟨rfl, hevents⟩ := hends
    exact ⟨rfl, (events_conclude v f _).trans (by rw [hevents])⟩
  · rintro outcome event rfl
    obtain ⟨rfl, hevents⟩ := hends
    exact ⟨rfl, (events_conclude v f _).trans (by rw [hevents])⟩

end World

open World

namespace Submission

variable {s : Submission} {c d : Stage × World}

/-! ### After an abort -/

/-- Under a permit that is called off a transport that acts goes on at once, with nothing told, or
ends the submission as cancelled. -/
theorem perform_of_calledOff {w : World} (hoff : CalledOff w s.flight) (next : Stage) (act : Act) :
    (act.isInstant = true ∧ (s.perform next w act).1 = next ∧
        (s.perform next w act).2.events = w.events) ∨
      (act.isInstant = false ∧ ∃ v, s.perform next w act = close (v, .outcome .cancelled) ∧
        v.events = w.events) := by
  have hend := hoff.perform act
  have hevents := (undisturbed_perform w s.flight act).events
  rw [perform]
  rcases hperform : w.perform s.flight act with ⟨v, i⟩
  rw [hperform] at hend hevents
  cases hinstant : act.isInstant with
  | true =>
    rw [hinstant] at hend
    obtain rfl : i = none := hend
    exact .inl ⟨rfl, rfl, hevents⟩
  | false =>
    rw [hinstant] at hend
    obtain rfl : i = some .cancelled := hend
    exact .inr ⟨rfl, v, rfl, hevents⟩

/-- A step under a permit that is called off goes on and tells nothing, or ends the submission. -/
theorem step_of_calledOff (hoff : CalledOff c.2 s.flight) (hopen : ¬ c.1.IsDone) :
    (¬ (s.step c).1.IsDone ∧ (s.step c).2.events = c.2.events ∧
        (s.step c).1.overtaking? s.flight = c.1.overtaking? s.flight) ∨
      ∃ ended, s.step c = close ended ∧ EndsAborted c.2 (c.1.overtaking? s.flight) ended := by
  obtain ⟨stage, w⟩ := c
  have hinterrupt := hoff.interrupt?
  cases stage with
  | ready =>
    refine .inr ⟨(w, .outcome .cancelled), ?_, rfl, rfl⟩
    simp only [step, hinterrupt]
    rfl
  | reading polling items a =>
    cases polling with
    | false =>
      refine .inr ⟨(w, .outcome .cancelled), ?_, rfl, rfl⟩
      simp only [step, hinterrupt]
      rfl
    | true =>
      cases items with
      | nil => exact .inr ⟨_, rfl, rfl, rfl⟩
      | cons item rest =>
        cases item with
        | act act =>
          obtain ⟨hinstant, hstage, hevents⟩ | ⟨hinstant, v, hclose, hevents⟩ :=
            perform_of_calledOff hoff (.reading true rest a) act
          · have hstep : (s.step (.reading true (.act act :: rest) a, w)).1 =
                .reading true rest a := hstage
            rw [hstep]
            exact .inl ⟨id, hevents, by simp [Stage.overtaking?, Flight.overtaking?, hinstant]⟩
          · refine .inr ⟨_, hclose, ?_⟩
            simp [Stage.overtaking?, Flight.overtaking?, hinstant, EndsAborted, hevents]
        | opened => exact .inl ⟨id, rfl, rfl⟩
        | fail error => exact .inr ⟨_, rfl, rfl, rfl⟩
        | payload raw =>
          refine .inr ⟨(w, .outcome .cancelled), ?_, rfl, rfl⟩
          simp only [step, read, hoff.isStale]
          rfl
  | calling acts =>
    cases acts with
    | nil =>
      refine .inr ⟨(w, .outcome .cancelled), ?_, rfl, rfl⟩
      simp only [step, reply, hoff.isStale]
      rfl
    | cons act rest =>
      obtain ⟨-, hstage, hevents⟩ | ⟨-, v, hclose, hevents⟩ :=
        perform_of_calledOff hoff (.calling rest) act
      · have hstep : (s.step (.calling (act :: rest), w)).1 = .calling rest := hstage
        rw [hstep]
        exact .inl ⟨id, hevents, rfl⟩
      · exact .inr ⟨_, hclose, rfl, hevents⟩
  | done ending => exact absurd trivial hopen

/-- Once a submission is over it stays so, and nothing more is told. -/
theorem Leads.of_done (hleads : s.Leads c d) {ending : Ending} (hdone : c.1 = .done ending) :
    d.1 = .done ending ∧ d.2.events = c.2.events := by
  induction hleads with
  | refl c => exact ⟨hdone, rfl⟩
  | step hrest ih =>
    rw [s.step_of_isDone (by rw [hdone]; trivial)] at ih
    exact ih hdone
  | abort hrest ih => exact ih hdone

/-- In a step the gate stays or is aborted. -/
theorem gate_step (s : Submission) (c : Stage × World) :
    (s.step c).2.session.gate = c.2.session.gate ∨
      (s.step c).2.session.gate = c.2.session.gate.abort :=
  (s.spares_step c).imp id And.left

/-- A submission whose permit is called off ends as cancelled, or as what overtakes the abort,
whatever others do. -/
theorem Leads.endsAborted (hleads : s.Leads c d) (hoff : CalledOff c.2 s.flight)
    (hopen : ¬ c.1.IsDone) {ending : Ending} (hdone : d.1 = .done ending) :
    EndsAborted c.2 (c.1.overtaking? s.flight) (d.2, ending) := by
  induction hleads with
  | refl c =>
    rw [hdone] at hopen
    exact absurd trivial hopen
  | step hrest ih =>
    obtain ⟨hopen', hevents, hsame⟩ | ⟨ended, hclose, hends⟩ := step_of_calledOff hoff hopen
    · have hrest' := ih (hoff.of_gate (s.gate_step _)) hopen' hdone
      rw [hsame] at hrest'
      exact hrest'.of_events hevents ⟨rfl, rfl⟩
    · have hover := hrest.of_done (congrArg Prod.fst hclose)
      have hending : ending = ended.2 := Stage.done.inj (hdone.symm.trans hover.1)
      exact hends.of_events rfl ⟨hending, hover.2.trans (congrArg (·.2.events) hclose)⟩
  | abort hrest ih => exact (ih (hoff.of_gate (.inr rfl)) hopen hdone).of_events rfl ⟨rfl, rfl⟩

/-! ### Who aborts -/

/-- A step that aborts tells nothing, and the submission is open still, or cancelled. -/
theorem Moves.of_abort {w : World} (hmoves : s.Moves w d)
    (habort : d.2.session.gate = w.session.gate.abort) :
    d.2.events = w.events ∧ (¬ d.1.IsDone ∨ d.1 = .done (.outcome .cancelled)) := by
  obtain hgate | ⟨next, act, v, i, hopen, hperform, rfl⟩ := hmoves.gate_or_perform
  · exact absurd (hgate.symm.trans habort) (Gate.ne_abort _)
  · have hevents := (undisturbed_of_perform hperform).events
    cases i with
    | none => exact ⟨hevents, .inl hopen⟩
    | some i =>
      dsimp only [close] at habort
      rw [session_interrupted] at habort
      have hend := cancelled_of_abort_perform (w := w) (f := s.flight) act
      rw [hperform] at hend
      obtain hend | hend := hend habort
      · cases hend
      · cases hend
        exact ⟨hevents, .inr rfl⟩

/-- Under a good permit a step ends a submission as cancelled by an abort only. -/
theorem Moves.abort_of_cancelled {w : World} (hmoves : s.Moves w d)
    (hgood : w.isCancelled s.flight = false)
    (hfresh : w.session.gate.isStale s.flight.permit = false)
    (hcancelled : d.1 = .done (.outcome .cancelled)) :
    d.2.session.gate = w.session.gate.abort := by
  have hclosed : ∀ {next : Stage}, ¬ next.IsDone → next ≠ .done (.outcome .cancelled) := by
    rintro next hopen rfl
    exact hopen trivial
  cases hmoves with
  | interrupted hinterrupt =>
    have hbad := isCancelled_of_interrupted hinterrupt (Stage.done.inj hcancelled)
    rw [hgood] at hbad
    cases hbad
  | called hopen => exact absurd hcancelled (hclosed hopen)
  | opened hopen => exact absurd hcancelled (hclosed hopen)
  | acted hopen hperform => exact absurd hcancelled (hclosed hopen)
  | @cut act v i hperform =>
    have habort := abort_of_cancelled_perform hgood act
    rw [hperform] at habort
    dsimp only [close]
    rw [session_interrupted]
    cases i with
    | cancelled => exact habort rfl
    | deadline => cases hcancelled
    | limit => cases hcancelled
  | failed error => cases hcancelled
  | closed => cases hcancelled
  | stale hstale =>
    rw [hfresh] at hstale
    cases hstale
  | folded hfresh hfold hopen => exact absurd hcancelled (hclosed hopen)
  | finished hfresh hfold => cases hcancelled
  | halted hfresh hfold => cases hcancelled
  | refused hfresh hfold => cases hcancelled
  | replied reply hfresh =>
    exact absurd (Stage.done.inj hcancelled) (adopt_ne_cancelled w s.flight reply)

/-- Somebody aborts a submission that is still open; `d` is where it stands then. -/
inductive Aborts (s : Submission) (c : Stage × World) : Stage × World → Prop
  /-- Somebody outside does so between two steps. -/
  | between (hopen : ¬ c.1.IsDone) : Aborts s c (c.1, c.2.abort)
  /-- The transport does so while it acts, or somebody outside while the submission waits. -/
  | within (habort : (s.step c).2.session.gate = c.2.session.gate.abort) : Aborts s c (s.step c)

/-- An abort calls the permit off and tells nothing; the submission is open still, or cancelled. -/
theorem Aborts.calledOff (habort : s.Aborts c d) (hholds : Holds c.2 s.flight) :
    CalledOff d.2 s.flight ∧ d.2.events = c.2.events ∧
      (¬ d.1.IsDone ∨ d.1 = .done (.outcome .cancelled)) := by
  cases habort with
  | between hopen => exact ⟨hholds.calledOff rfl, rfl, .inl hopen⟩
  | within habort =>
    refine ⟨hholds.calledOff habort, ?_⟩
    by_cases hdone : c.1.IsDone
    · rw [s.step_of_isDone hdone] at habort
      exact absurd habort (Gate.ne_abort _)
    · exact (s.moves_step hdone).of_abort habort

/-- A submission that is aborted ends as cancelled, or as what overtakes the abort. -/
theorem Aborts.endsAborted (habort : s.Aborts c d) (hholds : Holds c.2 s.flight) {ending : Ending}
    {u : World} (hafter : s.Leads d (.done ending, u)) :
    EndsAborted c.2 (d.1.overtaking? s.flight) (u, ending) := by
  obtain ⟨hoff, hevents, hopen | hover⟩ := habort.calledOff hholds
  · exact (hafter.endsAborted hoff hopen rfl).of_events hevents ⟨rfl, rfl⟩
  · obtain ⟨hending, hsame⟩ := hafter.of_done hover
    rw [hover]
    exact ⟨Stage.done.inj hending, hsame.trans hevents⟩

/-- A submission that began well and ended as cancelled was aborted on the way. -/
theorem Leads.aborted (hleads : s.Leads c d) (hgood : c.2.isCancelled s.flight = false)
    (hfresh : c.2.session.gate.isStale s.flight.permit = false) (hopen : ¬ c.1.IsDone)
    (hdone : d.1 = .done (.outcome .cancelled)) :
    ∃ a b, s.Leads c a ∧ s.Aborts a b ∧ s.Leads b d := by
  induction hleads with
  | refl c =>
    rw [hdone] at hopen
    exact absurd trivial hopen
  | step hrest ih =>
    next c d =>
      obtain hgate | habort := s.gate_step c
      · have hopen' : ¬ (s.step c).1.IsDone := fun hover ↦ by
          cases hstage : (s.step c).1 with
          | done ending =>
            have hending := (hrest.of_done hstage).1.symm.trans hdone
            rw [hending] at hstage
            have habort := (s.moves_step hopen).abort_of_cancelled hgood hfresh hstage
            exact Gate.ne_abort _ (hgate.symm.trans habort)
          | _ =>
            rw [hstage] at hover
            exact hover
        obtain ⟨a, b, hbefore, habort, hafter⟩ :=
          ih (by rw [isCancelled, hgate]; exact hgood) (by rw [hgate]; exact hfresh) hopen' hdone
        exact ⟨a, b, .step hbefore, habort, hafter⟩
      · exact ⟨c, s.step c, .refl c, .within habort, hrest⟩
  | abort hrest ih => exact ⟨_, _, .refl _, .between hopen, hrest⟩

/-- The newest permit stays the newest one while its submission is in flight. -/
theorem Leads.holds (hleads : s.Leads c d) (hholds : Holds c.2 s.flight) : Holds d.2 s.flight := by
  induction hleads with
  | refl c => exact hholds
  | step hrest ih => exact ih (hholds.of_gate (s.gate_step _))
  | abort hrest ih => exact ih (hholds.of_gate (.inr rfl))

/-- A batch turn reads no stream. -/
theorem Leads.not_reading (hleads : s.Leads c d) (hbatch : s.mode = .batch)
    (hstart : ∀ polling items a, c.1 ≠ .reading polling items a) :
    ∀ polling items a, d.1 ≠ .reading polling items a := by
  induction hleads with
  | refl c => exact hstart
  | step hrest ih =>
    refine ih fun polling items a hreading ↦ ?_
    next c d =>
      obtain ⟨stage, w⟩ := c
      cases stage with
      | ready =>
        simp only [Submission.step, hbatch] at hreading
        split at hreading <;> cases hreading
      | reading polling items a => exact hstart _ _ _ rfl
      | calling acts =>
        cases acts with
        | nil => cases hreading
        | cons act rest =>
          simp only [Submission.step, Submission.perform] at hreading
          split at hreading <;> cases hreading
      | done ending => cases hreading
  | abort hrest ih => exact ih hstart

theorem Leads.overtaking?_of_batch (hleads : s.Leads c d) (hbatch : s.mode = .batch)
    (hstart : ∀ polling items a, c.1 ≠ .reading polling items a) :
    d.1.overtaking? s.flight = none := by
  have hother := hleads.not_reading hbatch hstart
  cases hstage : d.1 with
  | reading polling items a => exact absurd hstage (hother _ _ _)
  | _ => rfl

end Submission

namespace World

/-- A submission comes to its end from wherever its course stands. -/
theorem leads_course {w v : World} {mode : Mode} {text : String} {transport : Transport}
    {limit abortAfter : Option Nat} {last : Nat} {ending : Ending}
    (hlast : w.course mode text transport limit abortAfter last = (.done ending, v)) (n : Nat) :
    (w.submission mode text transport limit abortAfter).Leads
      (w.course mode text transport limit abortAfter n) (.done ending, v) := by
  have hrest := (w.submission mode text transport limit abortAfter).leads_run last
    (w.course mode text transport limit abortAfter n)
  have hclosed : w.course mode text transport limit abortAfter last =
      Submission.close (v, ending) := hlast
  have hdone := course_add_of_done hclosed n
  rw [course, Nat.add_comm, Submission.run_add] at hdone
  rw [course] at hrest ⊢
  rw [hdone] at hrest
  exact hrest

/-- How an aborted submission ends. Whatever the mode, the transport's script and the moment of the
abort, be it from outside or by the transport while it acts, and whoever else aborts before or
after: the submission comes to its end, and that is the outcome cancelled, subscribers being told
nothing between the abort and the end of the turn. Only in a streamed turn whose transport is being
asked, and goes on at once to a failure or to the end of the stream, that is what ends the turn and
is told. Conversely a submission that ends as cancelled was aborted. -/
theorem submit_aborted (w : World) {text : String} (htext : Text.isBlankText text = false)
    (hidle : w.session.gate.busy = false) (mode : Mode) (transport : Transport)
    (limit abortAfter : Option Nat) :
    let s := w.submission mode text transport limit abortAfter
    let start : Stage × World := (.ready, w.asked text)
    ∃ ended v,
      w.submit mode text transport limit abortAfter = .ok ended ∧
      ended.1 = v.conclude s.flight ended.2 ∧
      (∀ n, s.Leads (w.course mode text transport limit abortAfter n) (.done ended.2, v)) ∧
      (∀ c d, s.Leads start c → s.Aborts c d →
        (∃ n ending u, s.run n d = (.done ending, u)) ∧
        ∀ ending u, s.Leads d (.done ending, u) →
          (d.1.overtaking? s.flight = none →
            ending = .outcome .cancelled ∧
              (u.conclude s.flight ending).events =
                c.2.events.push (.turnEnd s.flight.permit.generation .cancelled)) ∧
          ∀ outcome event, d.1.overtaking? s.flight = some (outcome, event) →
            ending = .outcome outcome ∧
              (u.conclude s.flight ending).events =
                (c.2.events.push event).push (.turnEnd s.flight.permit.generation outcome)) ∧
      (mode = .batch → ∀ c, s.Leads start c → c.1.overtaking? s.flight = none) ∧
      ∀ u, s.Leads start (.done (.outcome .cancelled), u) →
        ∃ c d, s.Leads start c ∧ s.Aborts c d ∧ s.Leads d (.done (.outcome .cancelled), u) := by
  intro s start
  obtain ⟨ended, hsubmit⟩ : ∃ ended, w.submit mode text transport limit abortAfter = .ok ended :=
    ⟨_, submit_eq w mode htext hidle transport limit abortAfter⟩
  obtain ⟨last, v, hrun, hended⟩ := run_of_submit hsubmit
  refine ⟨ended, v, hsubmit, hended, leads_course hrun, fun c d hbefore habort ↦ ⟨?_, ?_⟩,
    fun hbatch c hbefore ↦ ?_, fun u hleads ↦ ?_⟩
  · obtain ⟨n, after, hafter⟩ := s.exists_run_eq_close d
    exact ⟨n, after.2, after.1, hafter⟩
  · intro ending u hafter
    have hholds : Holds c.2 s.flight := hbefore.holds (holds_asked w text limit abortAfter)
    exact (habort.endsAborted hholds hafter).concluded s.flight
  · exact hbefore.overtaking?_of_batch hbatch fun _ _ _ hreading ↦ by cases hreading
  · exact hleads.aborted w.session.gate.isCancelled_taken w.session.gate.isStale_taken id rfl

/-- A payload right behind an abort of the transport's. -/
theorem submit_aborted_payload :
    Text.isBlankText "hi" = false ∧ ({} : World).session.gate.busy = false ∧
      ∃ ended,
        ({} : World).submit .streaming "hi"
          { stream := fun _ ↦ .ok [.act .abort, .payload "\x7b\"content\":\"a\"\x7d"]
            exchange := fun _ ↦ .error (.http "closed") } = .ok ended ∧
        ended.2 = .outcome .cancelled ∧
        ended.1.events = #[.turnStart 1, .updated 1 ⟨[.user "hi", .placeholder]⟩,
          .turnEnd 1 .cancelled] := by
  have htext : Text.isBlankText "hi" = false := by decide
  obtain ⟨ended, v, hsubmit, hended, hcourse, habort, -, -⟩ :=
    submit_aborted {} htext rfl .streaming
      { stream := fun _ ↦ .ok [.act .abort, .payload "\x7b\"content\":\"a\"\x7d"]
        exchange := fun _ ↦ .error (.http "closed") } none none
  obtain ⟨-, hends⟩ := habort _ _ (Submission.leads_run _ 2 _) (.within rfl)
  obtain ⟨hcancelled, -⟩ := hends ended.2 v (hcourse 3)
  obtain ⟨hending, hevents⟩ := hcancelled rfl
  exact ⟨htext, rfl, ended, hsubmit, hending, (congrArg World.events hended).trans hevents⟩

/-- A failure right behind an abort of the transport's ends a streamed turn as failed. -/
theorem abort_overtaken_by_failure :
    let transport : Transport :=
      { stream := fun _ ↦ .ok [.act .abort, .fail (.sse "reset")]
        exchange := fun _ ↦ .error (.http "closed") }
    let s := ({} : World).submission .streaming "hi" transport none none
    ∃ ended c d v,
      ({} : World).submit .streaming "hi" transport = .ok ended ∧
      s.Leads (.ready, ({} : World).asked "hi") c ∧ s.Aborts c d ∧ s.Leads d (.done ended.2, v) ∧
      ended.1 = v.conclude s.flight ended.2 ∧
      ended.2 = .outcome (.failed "SSE error: reset") ∧
      ended.1.events = #[.turnStart 1, .updated 1 ⟨[.user "hi", .placeholder]⟩,
        .error "SSE error: reset", .turnEnd 1 (.failed "SSE error: reset")] := by
  intro transport s
  have htext : Text.isBlankText "hi" = false := by decide
  refine ⟨_, s.run 2 (.ready, ({} : World).asked "hi"), _, _,
    submit_eq {} .streaming htext rfl transport none none, s.leads_run 2 _, .within rfl,
    s.leads_run 1 _, rfl, rfl, rfl⟩

end World

end CitedChat
