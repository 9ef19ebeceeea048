import CitedChat.Proofs.Chat.BatchTurn

/-!
The course of a submission, one step for each thing that its transport does. A step is written once
for both modes (`Submission.step`), and the steps together are the submission: they come to the
world and the ending that `World.run` gives (`Submission.run_ready`). What a step may come to is
said once (`Submission.Moves`), so that what every step preserves is shown move by move. Between the
steps others may abort the submission; `Submission.Leads` says how it may get from one point to
another.
-/

set_option autoImplicit false

namespace CitedChat

/-- How far a submission has got. -/
inductive Stage where
  /-- The question is asked. -/
  | ready
  /-- A streamed turn reads what is left of its script; `polling` is as for `readStream`. -/
  | reading (polling : Bool) (items : List Item) (a : Assembler)
  /-- A batch turn calls its transport, which has so much left to do. -/
  | calling (acts : List Act)
  | done (ending : Ending)

/-- The submission is over. -/
def Stage.IsDone : Stage → Prop
  | .done _ => True
  | _ => False

/-- A submission in flight, with all that decides its course. -/
structure Submission where
  flight : Flight
  mode : Mode
  transport : Transport
  request : List Turn

namespace Submission

/-- The end of a submission. -/
def close (ended : World × Ending) : Stage × World :=
  (.done ended.2, ended.1)

variable (s : Submission)

/-- The transport acts; `next` is the stage after that, unless the act is interrupted. -/
def perform (next : Stage) (w : World) (act : Act) : Stage × World :=
  match w.perform s.flight act with
  | (v, none) => (next, v)
  | (v, some i) => close (v.interrupted s.flight i)

/-- The transport of a streamed turn delivers an item; `rest` is what follows. -/
def read (rest : List Item) (a : Assembler) (w : World) : Item → Stage × World
  | .act act => s.perform (.reading true rest a) w act
  | .opened => (.reading false rest a, w)
  | .fail error => close (w.failed error)
  | .payload raw =>
    if w.session.gate.isStale s.flight.permit then close (w, .outcome .cancelled)
    else
      match w.fold s.flight (a.feed raw).1 with
      | (v, some error) => close (v, .broken error)
      | (v, none) =>
        match (a.feed raw).2.state with
        | .streaming => (.reading false rest (a.feed raw).2, v)
        | .finished => close (v, .outcome .finished)
        | .halted => close (v.warn s.flight World.haltedText, .outcome .halted)

/-- The transport of a batch turn replies. -/
def reply (w : World) : World × Ending :=
  if w.session.gate.isStale s.flight.permit then (w, .outcome .cancelled)
  else
    match s.transport.exchange s.request with
    | .error error => w.failed error
    | .ok reply => w.adopt s.flight reply

def step : Stage × World → Stage × World
  | (.ready, w) =>
    match w.interrupt? s.flight with
    | some i => close (w.interrupted s.flight i)
    | none =>
      let v := { w with requests := w.requests.push s.request }
      match s.mode with
      | .streaming => (.reading true (s.transport.script s.request) w.assembler, v)
      | .batch => (.calling s.transport.connect, v)
  | (.reading polling items a, w) =>
    match if polling then none else w.interrupt? s.flight with
    | some i => close (w.interrupted s.flight i)
    | none =>
      match items with
      | [] => close (w.warn s.flight World.closedText, .outcome .incomplete)
      | item :: rest => s.read rest a w item
  | (.calling [], w) => close (s.reply w)
  | (.calling (act :: rest), w) => s.perform (.calling rest) w act
  | (.done ending, w) => (.done ending, w)

/-- So many steps from a stage of a submission. -/
def run : Nat → Stage × World → Stage × World
  | 0, c => c
  | n + 1, c => run n (s.step c)

theorem run_add (m n : Nat) (c : Stage × World) : s.run (m + n) c = s.run n (s.run m c) := by
  induction m generalizing c with
  | zero => rw [Nat.zero_add, run]
  | succ m ih => rw [Nat.succ_add, run, run, ih]

/-- What is done stays done. -/
theorem run_close (n : Nat) (ended : World × Ending) : s.run n (close ended) = close ended := by
  induction n with
  | zero => rfl
  | succ n ih => exact ih

/-! ### The steps together -/

theorem run_reading (polling : Bool) (items : List Item) (a : Assembler) (w : World) :
    s.run (items.length + 1) (.reading polling items a, w) =
      close (World.readStream s.flight polling items a w) := by
  induction items generalizing polling a w with
  | nil =>
    simp only [List.length_nil, run, step, World.readStream]
    cases (if polling then none else w.interrupt? s.flight) <;> rfl
  | cons item rest ih =>
    rw [List.length_cons, run, step]
    simp only [World.readStream]
    cases (if polling then none else w.interrupt? s.flight) with
    | some i => exact s.run_close _ _
    | none =>
      cases item with
      | act act =>
        dsimp only [read, perform]
        rcases w.perform s.flight act with ⟨v, _ | i⟩
        · exact ih true a v
        · exact s.run_close _ _
      | opened => exact ih false a w
      | fail error => exact s.run_close _ _
      | payload raw =>
        dsimp only [read]
        split
        · exact s.run_close _ _
        · rcases w.fold s.flight (a.feed raw).1 with ⟨v, _ | error⟩
          · dsimp only
            cases (a.feed raw).2.state with
            | streaming => exact ih false _ v
            | finished => exact s.run_close _ _
            | halted => exact s.run_close _ _
          · exact s.run_close _ _

theorem run_calling (acts : List Act) (w : World) :
    s.run (acts.length + 1) (.calling acts, w) =
      close (match w.performAll s.flight acts with
        | (v, some i) => v.interrupted s.flight i
        | (v, none) => s.reply v) := by
  induction acts generalizing w with
  | nil => rfl
  | cons act rest ih =>
    rw [List.length_cons, run, step, perform, World.performAll]
    rcases w.perform s.flight act with ⟨v, _ | i⟩
    · exact ih v
    · exact s.run_close _ _

/-- The steps from the question on come to what the submission comes to. -/
theorem run_ready (w : World) :
    ∃ n, s.run n (.ready, w) = close (w.run s.mode s.flight s.transport s.request) := by
  cases hinterrupt : w.interrupt? s.flight with
  | some i =>
    refine ⟨1, ?_⟩
    have hstep : s.step (.ready, w) = close (w.interrupted s.flight i) := by
      simp only [step, hinterrupt]
    rw [run, hstep, run]
    cases s.mode with
    | streaming => rw [World.run, World.runStreaming, hinterrupt]
    | batch => rw [World.run, World.runBatch, hinterrupt]
  | none =>
    cases hmode : s.mode with
    | streaming =>
      refine ⟨(s.transport.script s.request).length + 1 + 1, ?_⟩
      have hstep : s.step (.ready, w) =
          (.reading true (s.transport.script s.request) w.assembler,
            { w with requests := w.requests.push s.request }) := by
        simp only [step, hinterrupt, hmode]
      rw [run, hstep, run_reading, World.run, World.runStreaming_eq, hinterrupt]
    | batch =>
      refine ⟨s.transport.connect.length + 1 + 1, ?_⟩
      have hstep : s.step (.ready, w) =
          (.calling s.transport.connect, { w with requests := w.requests.push s.request }) := by
        simp only [step, hinterrupt, hmode]
      rw [run, hstep, run_calling, World.run, World.runBatch, hinterrupt]
      rfl

/-- From every stage on a submission comes to its end. -/
theorem exists_run_eq_close (c : Stage × World) : ∃ n ended, s.run n c = close ended := by
  obtain ⟨stage, w⟩ := c
  cases stage with
  | ready =>
    obtain ⟨n, hrun⟩ := s.run_ready w
    exact ⟨n, _, hrun⟩
  | reading polling items a => exact ⟨_, _, s.run_reading polling items a w⟩
  | calling acts => exact ⟨_, _, s.run_calling acts w⟩
  | done ending => exact ⟨0, (w, ending), rfl⟩

/-! ### What a step does -/

/-- What a step from a world comes to, one case for each thing that may happen in it. -/
inductive Moves (s : Submission) (w : World) : Stage × World → Prop
  /-- The turn turns out to be cancelled or over time before the transport is asked. -/
  | interrupted {i : Interrupt} (hinterrupt : w.interrupt? s.flight = some i) :
      Moves s w (close (w.interrupted s.flight i))
  | called {next : Stage} (hopen : ¬ next.IsDone) :
      Moves s w (next, { w with requests := w.requests.push s.request })
  | opened {next : Stage} (hopen : ¬ next.IsDone) : Moves s w (next, w)
  | acted {next : Stage} {act : Act} {v : World} (hopen : ¬ next.IsDone)
      (hperform : w.perform s.flight act = (v, none)) : Moves s w (next, v)
  /-- The transport is interrupted while it acts. -/
  | cut {act : Act} {v : World} {i : Interrupt} (hperform : w.perform s.flight act = (v, some i)) :
      Moves s w (close (v.interrupted s.flight i))
  | failed (error : ServiceError) : Moves s w (close (w.failed error))
  | closed : Moves s w (close (w.warn s.flight World.closedText, .outcome .incomplete))
  /-- A payload or a reply comes too late. -/
  | stale (hstale : w.session.gate.isStale s.flight.permit = true) :
      Moves s w (close (w, .outcome .cancelled))
  | folded {a : Assembler} {raw : String} {v : World} {next : Stage}
      (hfresh : w.session.gate.isStale s.flight.permit = false)
      (hfold : w.fold s.flight (a.feed raw).1 = (v, none)) (hopen : ¬ next.IsDone) :
      Moves s w (next, v)
  | finished {a : Assembler} {raw : String} {v : World}
      (hfresh : w.session.gate.isStale s.flight.permit = false)
      (hfold : w.fold s.flight (a.feed raw).1 = (v, none)) :
      Moves s w (close (v, .outcome .finished))
  | halted {a : Assembler} {raw : String} {v : World}
      (hfresh : w.session.gate.isStale s.flight.permit = false)
      (hfold : w.fold s.flight (a.feed raw).1 = (v, none)) :
      Moves s w (close (v.warn s.flight World.haltedText, .outcome .halted))
  | refused {a : Assembler} {raw : String} {v : World} {error : StoreError}
      (hfresh : w.session.gate.isStale s.flight.permit = false)
      (hfold : w.fold s.flight (a.feed raw).1 = (v, some error)) :
      Moves s w (close (v, .broken error))
  | replied (reply : Reply) (hfresh : w.session.gate.isStale s.flight.permit = false) :
      Moves s w (close (w.adopt s.flight reply))

theorem moves_perform {next : Stage} (hopen : ¬ next.IsDone) (w : World) (act : Act) :
    s.Moves w (s.perform next w act) := by
  rw [perform]
  rcases hperform : w.perform s.flight act with ⟨v, _ | i⟩
  · exact .acted hopen hperform
  · exact .cut hperform

theorem moves_read (rest : List Item) (a : Assembler) (w : World) (item : Item) :
    s.Moves w (s.read rest a w item) := by
  cases item with
  | act act => exact s.moves_perform id w act
  | opened => exact .opened id
  | fail error => exact .failed error
  | payload raw =>
    rw [read]
    cases hstale : w.session.gate.isStale s.flight.permit with
    | true => exact .stale hstale
    | false =>
      rcases hfold : w.fold s.flight (a.feed raw).1 with ⟨v, _ | error⟩
      · cases hstate : (a.feed raw).2.state with
        | streaming => exact .folded hstale hfold id
        | finished => exact .finished hstale hfold
        | halted => exact .halted hstale hfold
      · exact .refused hstale hfold

theorem moves_reply (w : World) : s.Moves w (close (s.reply w)) := by
  rw [reply]
  cases hstale : w.session.gate.isStale s.flight.permit with
  | true => exact .stale hstale
  | false =>
    cases s.transport.exchange s.request with
    | error error => exact .failed error
    | ok reply => exact .replied reply hstale

/-- A step of a submission that is open is one of the moves. -/
theorem moves_step {c : Stage × World} (hopen : ¬ c.1.IsDone) : s.Moves c.2 (s.step c) := by
  obtain ⟨stage, w⟩ := c
  cases stage with
  | ready =>
    simp only [step]
    split
    · next i hinterrupt => exact .interrupted hinterrupt
    · cases s.mode <;> exact .called id
  | reading polling items a =>
    simp only [step]
    split
    · next i hinterrupt =>
      refine .interrupted ?_
      cases polling with
      | true => cases hinterrupt
      | false => exact hinterrupt
    · cases items with
      | nil => exact .closed
      | cons item rest => exact s.moves_read rest a w item
  | calling acts =>
    cases acts with
    | nil => exact s.moves_reply w
    | cons act rest => exact s.moves_perform id w act
  | done ending => exact absurd trivial hopen

theorem step_of_isDone {c : Stage × World} (hdone : c.1.IsDone) : s.step c = c := by
  obtain ⟨stage, w⟩ := c
  cases stage with
  | done ending => rfl
  | _ => exact hdone.elim

/-! ### Aborts from outside -/

/-- A submission may get from one point of its course to another while others abort it at will. -/
inductive Leads (s : Submission) : Stage × World → Stage × World → Prop
  | refl (c : Stage × World) : Leads s c c
  | step {c d : Stage × World} (hrest : Leads s (s.step c) d) : Leads s c d
  | abort {c d : Stage × World} (hrest : Leads s (c.1, c.2.abort) d) : Leads s c d

theorem leads_run (n : Nat) (c : Stage × World) : s.Leads c (s.run n c) := by
  induction n generalizing c with
  | zero => exact .refl c
  | succ n ih => exact .step (ih (s.step c))

end Submission

end CitedChat
