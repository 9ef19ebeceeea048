import CitedChat.Proofs.Chat.Course
import CitedChat.Proofs.Chat.Operation
import CitedChat.Proofs.Chat.Register

/-!
What came before a turn in its session is of no account. A session with a past and a new one with
the same settings and the same conversation (`World.renewed`) take the same question side by side:
the one's clock is ahead by the instant of the question, its generations by those given before, and
its events and requests stand behind earlier ones (`World.Parallel`). The permit of the question is
fresh in both (`World.parallel_asked`), each step of the submission keeps them side by side
(`Submission.parallel_step`), and so do the steps together (`World.Parallel.run`).
-/

set_option autoImplicit false

namespace CitedChat

/-- The event with another name for its generation. -/
def Event.rename (name : Nat → Nat) : Event → Event
  | .turnStart generation => .turnStart (name generation)
  | .updated generation c => .updated (name generation) c
  | .decodeError generation message => .decodeError (name generation) message
  | .warning generation message => .warning (name generation) message
  | .turnEnd generation outcome => .turnEnd (name generation) outcome
  | .error message => .error message

/-- The flight of a submission that starts later, in a session that has given permits before. -/
structure Flight.Delayed (past : World) (f g : Flight) : Prop where
  generation : f.permit.generation = past.session.gate.generation + g.permit.generation
  deadline : f.deadline = g.deadline.map (past.now + ·)
  abortAt : f.abortAt = g.abortAt.map (past.now + ·)
  limit : f.limit = g.limit.map (past.now + ·)

namespace World

/-- A new session with the settings of another, in which the conversation of that one is put in
place. -/
def renewed (w : World) : World :=
  let fresh : World :=
    { session :=
        { protocol := w.session.protocol, mode := w.session.mode, policy := w.session.policy
          timeout := w.session.timeout, gate := { cancelled_le := Gate.nothing_cancelled } } }
  fresh.operate (.setConversation w.conversation)

theorem renewed_eq (w : World) : w.renewed = { session := { w.session with gate := {} } } := rfl

/-- Two sessions side by side in the course of a submission: `w` has the past `past`, in which `f`
is in flight, and `v` is new, in which `g` is. -/
structure Parallel (past : World) (f g : Flight) (w v : World) : Prop where
  now : w.now = past.now + v.now
  session : w.session = { v.session with gate := w.session.gate }
  generation :
    w.session.gate.generation = past.session.gate.generation + v.session.gate.generation
  /-- Both hold the newest permit, so that an abort is meant for them. -/
  newest : w.session.gate.token = f.permit.token ∧ v.session.gate.token = g.permit.token
  cancelled : w.isCancelled f = v.isCancelled g
  events : w.events =
    past.events ++ v.events.map (Event.rename (past.session.gate.generation + ·))
  requests : w.requests = past.requests ++ v.requests

variable {past w v : World} {f g : Flight}

namespace Parallel

theorem conversation (h : Parallel past f g w v) : w.conversation = v.conversation :=
  (congrArg Session.conversation h.session :)

theorem timeoutText (h : Parallel past f g w v) : w.timeoutText = v.timeoutText := by
  have htimeout : w.session.timeout = v.session.timeout := (congrArg Session.timeout h.session :)
  unfold World.timeoutText
  rw [htimeout]

theorem isStale (h : Parallel past f g w v) (hflight : f.Delayed past g) :
    w.session.gate.isStale f.permit = v.session.gate.isStale g.permit := by
  rw [Gate.isStale, Gate.isStale, Gate.isCurrent, Gate.isCurrent, h.generation, hflight.generation]
  exact congrArg not (Bool.eq_iff_iff.2 (by simp))

/-! ### What leaves the two side by side -/

/-- The gates stay as they are. -/
theorem of_gate (h : Parallel past f g w v) {w' v' : World}
    (hw : w'.session.gate = w.session.gate) (hv : v'.session.gate = v.session.gate)
    (hnow : w'.now = past.now + v'.now)
    (hsession : w'.session = { v'.session with gate := w'.session.gate })
    (hevents : w'.events =
      past.events ++ v'.events.map (Event.rename (past.session.gate.generation + ·)))
    (hrequests : w'.requests = past.requests ++ v'.requests) : Parallel past f g w' v' where
  now := hnow
  session := hsession
  generation := by rw [hw, hv, h.generation]
  newest := by rw [hw, hv]; exact h.newest
  cancelled := by
    have hcancelled := h.cancelled
    rw [isCancelled, isCancelled] at hcancelled ⊢
    rw [hw, hv, hcancelled]
  events := hevents
  requests := hrequests

theorem emit (h : Parallel past f g w v) (event : Event) :
    Parallel past f g (w.emit (event.rename (past.session.gate.generation + ·))) (v.emit event) :=
  h.of_gate rfl rfl h.now h.session (by simp [h.events]) h.requests

theorem setConversation (h : Parallel past f g w v) (c : Conversation) :
    Parallel past f g (w.setConversation c) (v.setConversation c) :=
  h.of_gate rfl rfl h.now
    (congrArg (fun session : Session ↦ { session with conversation := c }) h.session :)
    h.events h.requests

theorem abort (h : Parallel past f g w v) : Parallel past f g w.abort v.abort where
  now := h.now
  session := (congrArg (fun session : Session ↦ { session with gate := w.session.gate.abort })
    h.session :)
  generation := by
    have hgeneration := h.generation
    simp only [World.abort, setGate, Gate.generation_abort]
    omega
  newest := h.newest
  cancelled := by
    have hcancelled : (w.session.gate.abort.cancelled.contains f.permit.token) = true ∧
        (v.session.gate.abort.cancelled.contains g.permit.token) = true := by
      rw [← h.newest.1, ← h.newest.2]
      simp [Gate.abort]
    exact hcancelled.1.trans hcancelled.2.symm
  events := h.events
  requests := h.requests

theorem leave (h : Parallel past f g w v) : Parallel past f g w.leave v.leave where
  now := h.now
  session := (congrArg (fun session : Session ↦ { session with gate := w.session.gate.leave })
    h.session :)
  generation := h.generation
  newest := h.newest
  cancelled := h.cancelled
  events := h.events
  requests := h.requests

end Parallel

/-! ### Waiting -/

section Waiting

variable (delay now : Nat) (a b : Option Nat)

theorem any_le_delayed : (a.map (delay + ·)).any (· ≤ delay + now) = a.any (· ≤ now) := by
  cases a <;> simp

theorem earlier_delayed :
    earlier (a.map (delay + ·)) (b.map (delay + ·)) = (earlier a b).map (delay + ·) := by
  cases a <;> cases b <;> simp [earlier, Nat.add_min_add_left]

theorem beq_some_delayed : (a.map (delay + ·) == some (delay + now)) = (a == some now) := by
  cases a with
  | none => rfl
  | some instant => exact Bool.eq_iff_iff.2 (by simp)

end Waiting

namespace Parallel

variable (h : Parallel past f g w v) (hflight : f.Delayed past g)

include h hflight

theorem interrupt? : w.interrupt? f = v.interrupt? g := by
  rw [World.interrupt?, World.interrupt?, h.cancelled, h.now, hflight.deadline, any_le_delayed]

/-- A wait ends in the same way, as much later as it began later. -/
theorem wakening (until_ : Option Nat) :
    w.wakening f (until_.map (past.now + ·)) =
      { v.wakening g until_ with instant := past.now + (v.wakening g until_).instant } := by
  simp only [World.wakening, h.now, h.cancelled, hflight.deadline, hflight.abortAt, hflight.limit,
    any_le_delayed, earlier_delayed]
  split
  · rfl
  split
  · rfl
  split
  · rfl
  split
  · rfl
  cases earlier g.abortAt (earlier g.deadline (earlier until_ g.limit)) with
  | none => rfl
  | some instant =>
    simp only [Option.map_some, beq_some_delayed]
    split
    · rfl
    split
    · rfl
    split <;> rfl

theorem suspend (until_ : Option Nat) :
    Parallel past f g (w.suspend f (until_.map (past.now + ·))).1 (v.suspend g until_).1 ∧
      (w.suspend f (until_.map (past.now + ·))).2 = (v.suspend g until_).2 := by
  simp only [World.suspend, h.wakening hflight]
  have hlater : Parallel past f g
      { w with now := past.now + (v.wakening g until_).instant }
      { v with now := (v.wakening g until_).instant } :=
    h.of_gate rfl rfl rfl h.session h.events h.requests
  split
  · exact ⟨hlater.abort, trivial⟩
  · exact ⟨hlater, trivial⟩

theorem perform (act : Act) :
    Parallel past f g (w.perform f act).1 (v.perform g act).1 ∧
      (w.perform f act).2 = (v.perform g act).2 := by
  cases act with
  | wait ms =>
    have hwait := h.suspend hflight (some (v.now + ms))
    rw [Option.map_some, ← Nat.add_assoc, ← h.now] at hwait
    exact hwait
  | hang => exact h.suspend hflight none
  | abort => exact ⟨h.abort, rfl⟩
  | awaitIdle ms =>
    have hwait := h.suspend hflight (some (v.now + ms))
    rw [Option.map_some, ← Nat.add_assoc, ← h.now] at hwait
    obtain ⟨answers, hw⟩ := perform_awaitIdle w f ms
    obtain ⟨others, hv⟩ := perform_awaitIdle v g ms
    rw [hw, hv]
    exact ⟨hwait.1.of_gate rfl rfl hwait.1.now hwait.1.session hwait.1.events hwait.1.requests,
      hwait.2⟩
  | watch => exact ⟨h.of_gate rfl rfl h.now h.session h.events h.requests, rfl⟩

/-! ### Telling and folding -/

theorem warn (message : String) : Parallel past f g (w.warn f message) (v.warn g message) := by
  rw [World.warn, hflight.generation]
  exact h.emit (.warning g.permit.generation message)

theorem publish :
    Parallel past f g (w.publish f.permit.generation) (v.publish g.permit.generation) := by
  rw [World.publish, World.publish, hflight.generation, h.conversation]
  exact h.emit (.updated g.permit.generation v.conversation)

theorem interrupted (i : Interrupt) :
    Parallel past f g (w.interrupted f i).1 (v.interrupted g i).1 ∧
      (w.interrupted f i).2 = (v.interrupted g i).2 := by
  cases i with
  | cancelled => exact ⟨h, rfl⟩
  | deadline =>
    refine ⟨?_, rfl⟩
    rw [World.interrupted, World.interrupted, h.timeoutText]
    exact h.warn hflight v.timeoutText
  | limit => exact ⟨h, rfl⟩

theorem carryOut (directives : List Directive) (changed : Bool) :
    Parallel past f g (World.carryOut f directives changed w).1
        (World.carryOut g directives changed v).1 ∧
      (World.carryOut f directives changed w).2 = (World.carryOut g directives changed v).2 := by
  induction directives generalizing w v changed with
  | nil => exact ⟨h, rfl⟩
  | cons directive rest ih =>
    cases directive with
    | apply action =>
      rw [World.carryOut, World.carryOut, h.conversation]
      cases v.conversation.apply action with
      | ok c => exact ih (h.setConversation c) true
      | error error => exact ⟨h, rfl⟩
    | finish signal => exact ih h changed
    | reject error =>
      rw [World.carryOut, World.carryOut, hflight.generation]
      exact ih (h.emit (.decodeError g.permit.generation error.message)) changed

theorem fold (directives : List Directive) :
    Parallel past f g (w.fold f directives).1 (v.fold g directives).1 ∧
      (w.fold f directives).2 = (v.fold g directives).2 := by
  obtain ⟨hcarried, hresult⟩ := h.carryOut hflight directives false
  rw [World.fold, World.fold]
  rcases hw : World.carryOut f directives false w with ⟨w', result⟩
  rcases hv : World.carryOut g directives false v with ⟨v', other⟩
  rw [hw, hv] at hcarried hresult
  obtain rfl : result = other := hresult
  cases result with
  | error error => exact ⟨hcarried, rfl⟩
  | ok changed =>
    cases changed with
    | true => exact ⟨hcarried.publish hflight, rfl⟩
    | false => exact ⟨hcarried, rfl⟩

theorem adopt (reply : Reply) :
    Parallel past f g (w.adopt f reply).1 (v.adopt g reply).1 ∧
      (w.adopt f reply).2 = (v.adopt g reply).2 := by
  cases reply with
  | transcript turns => exact ⟨(h.setConversation ⟨turns⟩).publish hflight, rfl⟩
  | turn turn =>
    cases turn with
    | user text =>
      refine ⟨?_, rfl⟩
      rw [World.adopt, World.adopt, hflight.generation]
      exact h.emit (.decodeError g.permit.generation userReplyText)
    | assistant text sources =>
      rw [World.adopt, World.adopt, h.conversation]
      cases v.conversation.applyAll (answerActions text sources) with
      | ok c => exact ⟨(h.setConversation c).publish hflight, rfl⟩
      | error error => exact ⟨h, rfl⟩

theorem conclude (ending : Ending) :
    Parallel past f g (w.conclude f ending) (v.conclude g ending) := by
  cases ending with
  | outcome outcome =>
    rw [World.conclude, World.conclude, hflight.generation]
    exact (h.emit (.turnEnd g.permit.generation outcome)).leave
  | broken error => exact (h.emit (.error error.message)).leave
  | suspended => exact h

end Parallel

end World

/-! ### The course of a submission -/

namespace Submission

open World

variable {past w v : World} {f g : Flight} {mode : Mode} {transport : Transport}
  {request : List Turn}

/-- Two courses side by side: at the same stage, in worlds that are side by side. -/
def Parallel (past : World) (f g : Flight) (c d : Stage × World) : Prop :=
  c.1 = d.1 ∧ World.Parallel past f g c.2 d.2

theorem parallel_close {ended other : World × Ending}
    (h : World.Parallel past f g ended.1 other.1 ∧ ended.2 = other.2) :
    Parallel past f g (close ended) (close other) :=
  ⟨congrArg Stage.done h.2, h.1⟩

theorem parallel_perform (h : World.Parallel past f g w v) (hflight : f.Delayed past g)
    (next : Stage) (act : Act) :
    Parallel past f g (perform ⟨f, mode, transport, request⟩ next w act)
      (perform ⟨g, mode, transport, request⟩ next v act) := by
  obtain ⟨hacted, hend⟩ := h.perform hflight act
  rw [perform, perform]
  rcases hw : w.perform f act with ⟨w', i⟩
  rcases hv : v.perform g act with ⟨v', j⟩
  rw [hw, hv] at hacted hend
  obtain rfl : i = j := hend
  cases i with
  | none => exact ⟨rfl, hacted⟩
  | some i => exact parallel_close (hacted.interrupted hflight i)

theorem parallel_read (h : World.Parallel past f g w v) (hflight : f.Delayed past g)
    (rest : List Item) (a : Assembler) (item : Item) :
    Parallel past f g (read ⟨f, mode, transport, request⟩ rest a w item)
      (read ⟨g, mode, transport, request⟩ rest a v item) := by
  cases item with
  | act act => exact parallel_perform h hflight _ act
  | opened => exact ⟨rfl, h⟩
  | fail error => exact parallel_close ⟨h.emit (.error error.message), rfl⟩
  | payload raw =>
    rw [read, read, h.isStale hflight]
    cases v.session.gate.isStale g.permit with
    | true => exact parallel_close ⟨h, rfl⟩
    | false =>
      obtain ⟨hfolded, hresult⟩ := h.fold hflight (a.feed raw).1
      dsimp only
      rcases hw : w.fold f (a.feed raw).1 with ⟨w', result⟩
      rcases hv : v.fold g (a.feed raw).1 with ⟨v', other⟩
      rw [hw, hv] at hfolded hresult
      obtain rfl : result = other := hresult
      cases result with
      | some error => exact parallel_close ⟨hfolded, rfl⟩
      | none =>
        cases (a.feed raw).2.state with
        | streaming => exact ⟨rfl, hfolded⟩
        | finished => exact parallel_close ⟨hfolded, rfl⟩
        | halted => exact parallel_close ⟨hfolded.warn hflight haltedText, rfl⟩

theorem parallel_reply (h : World.Parallel past f g w v) (hflight : f.Delayed past g) :
    Parallel past f g (close (reply ⟨f, mode, transport, request⟩ w))
      (close (reply ⟨g, mode, transport, request⟩ v)) := by
  rw [reply, reply, h.isStale hflight]
  cases v.session.gate.isStale g.permit with
  | true => exact parallel_close ⟨h, rfl⟩
  | false =>
    dsimp only
    cases transport.exchange request with
    | error error => exact parallel_close ⟨h.emit (.error error.message), rfl⟩
    | ok reply => exact parallel_close (h.adopt hflight reply)

/-- A step keeps two courses side by side. -/
theorem parallel_step {c d : Stage × World} (h : Parallel past f g c d)
    (hflight : f.Delayed past g) :
    Parallel past f g (step ⟨f, mode, transport, request⟩ c)
      (step ⟨g, mode, transport, request⟩ d) := by
  obtain ⟨stage, w⟩ := c
  obtain ⟨_, v⟩ := d
  obtain ⟨rfl, h⟩ := h
  dsimp only at h
  cases stage with
  | ready =>
    have hcalled : World.Parallel past f g { w with requests := w.requests.push request }
        { v with requests := v.requests.push request } :=
      h.of_gate rfl rfl h.now h.session h.events (by simp [h.requests])
    have hassembler : w.assembler = v.assembler := by
      rw [assembler, assembler, h.conversation, h.session]
    simp only [step, h.interrupt? hflight]
    cases v.interrupt? g with
    | some i => exact parallel_close (h.interrupted hflight i)
    | none =>
      cases mode with
      | streaming => exact ⟨by simp only [hassembler], hcalled⟩
      | batch => exact ⟨rfl, hcalled⟩
  | reading polling items a =>
    simp only [step, h.interrupt? hflight]
    cases (if polling then none else v.interrupt? g) with
    | some i => exact parallel_close (h.interrupted hflight i)
    | none =>
      cases items with
      | nil => exact parallel_close ⟨h.warn hflight closedText, rfl⟩
      | cons item rest => exact parallel_read h hflight rest a item
  | calling acts =>
    cases acts with
    | nil => exact parallel_reply h hflight
    | cons act rest => exact parallel_perform h hflight _ act
  | done ending => exact ⟨rfl, h⟩

theorem parallel_run (mode : Mode) (transport : Transport) (request : List Turn)
    {c d : Stage × World} (h : Parallel past f g c d) (hflight : f.Delayed past g) (n : Nat) :
    Parallel past f g (run ⟨f, mode, transport, request⟩ n c)
      (run ⟨g, mode, transport, request⟩ n d) := by
  induction n generalizing c d with
  | zero => exact h
  | succ n ih => exact ih (parallel_step h hflight)

end Submission

namespace World

variable {past w v : World} {f g : Flight}

/-- Whole submissions stay side by side. -/
theorem Parallel.run (h : Parallel past f g w v) (hflight : f.Delayed past g) (mode : Mode)
    (transport : Transport) (request : List Turn) :
    Parallel past f g (w.run mode f transport request).1 (v.run mode g transport request).1 ∧
      (w.run mode f transport request).2 = (v.run mode g transport request).2 := by
  -- Both courses are over after as many steps as the longer one takes.
  obtain ⟨m, hm⟩ := Submission.run_ready ⟨f, mode, transport, request⟩ w
  obtain ⟨n, hn⟩ := Submission.run_ready ⟨g, mode, transport, request⟩ v
  have hw : Submission.run ⟨f, mode, transport, request⟩ (m + n) (.ready, w) =
      Submission.close (w.run mode f transport request) := by
    rw [Submission.run_add, hm, Submission.run_close]
  have hv : Submission.run ⟨g, mode, transport, request⟩ (m + n) (.ready, v) =
      Submission.close (v.run mode g transport request) := by
    rw [Nat.add_comm, Submission.run_add, hn, Submission.run_close]
  have hran := Submission.parallel_run mode transport request (c := (.ready, w)) (d := (.ready, v))
    ⟨rfl, h⟩ hflight (m + n)
  rw [hw, hv] at hran
  exact ⟨hran.2, Stage.done.inj hran.1⟩

/-! ### The question -/

theorem delayed_flight (w : World) (limit abortAfter : Option Nat) :
    (w.flight limit abortAfter).Delayed w (w.renewed.flight limit abortAfter) where
  generation := rfl
  deadline := by
    rw [flight, flight, renewed_eq]
    cases w.session.timeout <;> simp
  abortAt := by
    rw [flight, flight, renewed_eq]
    cases abortAfter <;> simp
  limit := by
    rw [flight, flight, renewed_eq]
    cases limit <;> simp

/-- The permit of a question is fresh, whatever became of earlier ones. -/
theorem parallel_asked (w : World) (text : String) (limit abortAfter : Option Nat) :
    Parallel w (w.flight limit abortAfter) (w.renewed.flight limit abortAfter) (w.asked text)
      (w.renewed.asked text) where
  now := rfl
  session := rfl
  generation := rfl
  newest := ⟨rfl, rfl⟩
  cancelled := w.session.gate.isCancelled_taken.trans w.renewed.session.gate.isCancelled_taken.symm
  events := by
    simp [asked, renewed_eq, setGate, Event.rename, Gate.nextPermit, conversation]
  requests := by simp [asked, renewed_eq, revise, setGate]

/-- A turn does not depend on how earlier turns ended. Whatever was done with a session before, a
question that is put to it while no submission is in flight is answered as in a new session with the
same settings and the same conversation: it is refused there or here, or it comes to the same
ending, makes the same requests, leaves the same conversation and tells the same events, but for the
number of its generation. -/
theorem submit_renewed (start : World) (history : List Operation)
    (hidle : (start.operateAll history).session.gate.busy = false) (mode : Mode) (text : String)
    (transport : Transport) (limit abortAfter : Option Nat) :
    let w := start.operateAll history
    (Text.isBlankText text = true →
      w.submit mode text transport limit abortAfter = .error .emptyInput ∧
        w.renewed.submit mode text transport limit abortAfter = .error .emptyInput) ∧
    (Text.isBlankText text = false → ∃ ended renewed,
      w.submit mode text transport limit abortAfter = .ok ended ∧
      w.renewed.submit mode text transport limit abortAfter = .ok renewed ∧
      ended.2 = renewed.2 ∧
      ended.1.requests = w.requests ++ renewed.1.requests ∧
      ended.1.conversation = renewed.1.conversation ∧
      ended.1.events =
        w.events ++ renewed.1.events.map (Event.rename (w.session.gate.generation + ·))) := by
  intro w
  refine ⟨fun hblank ↦ ?_, fun htext ↦ ?_⟩
  · exact ⟨submit_of_error (w.beginTurn_of_blank hblank limit abortAfter),
      submit_of_error (w.renewed.beginTurn_of_blank hblank limit abortAfter)⟩
  · have hflight := delayed_flight w limit abortAfter
    obtain ⟨hran, hending⟩ :=
      (parallel_asked w text limit abortAfter).run hflight mode transport (w.request text)
    have hconcluded := hran.conclude hflight
      ((w.asked text).run mode (w.flight limit abortAfter) transport (w.request text)).2
    refine ⟨_, _, submit_eq w mode htext hidle transport limit abortAfter,
      submit_eq w.renewed mode htext rfl transport limit abortAfter, hending, ?_⟩
    rw [hending] at hconcluded ⊢
    exact ⟨hconcluded.requests, hconcluded.conversation, hconcluded.events⟩

/-- A session in which a turn was aborted and another dropped, and which was aborted while it was
idle. -/
theorem submit_renewed_after_aborts :
    let closed : ServiceError := .http "closed"
    let aborting : Transport :=
      { stream := fun _ ↦ .ok [.act .abort, .payload "[0]"], exchange := fun _ ↦ .error closed }
    let hanging : Transport :=
      { connect := [.hang], stream := fun _ ↦ .error closed, exchange := fun _ ↦ .error closed }
    let history : List Operation :=
      [.submit none "a" aborting none none, .abort, .submit none "b" hanging (some 5) none,
        .giveUp, .abort]
    let w := ({} : World).operateAll history
    let silent : Transport := { stream := fun _ ↦ .ok [], exchange := fun _ ↦ .error closed }
    w.session.gate.busy = false ∧ Text.isBlankText "hi" = false ∧ ∃ ended renewed,
      w.submit .streaming "hi" silent = .ok ended ∧
      w.renewed.submit .streaming "hi" silent = .ok renewed ∧
      ended.2 = .outcome .incomplete ∧ renewed.2 = .outcome .incomplete ∧
      ended.1.events = w.events ++ renewed.1.events.map (Event.rename (5 + ·)) := by
  intro closed aborting hanging history w silent
  have htext : Text.isBlankText "hi" = false := by decide
  have hidle : w.session.gate.busy = false := by rfl
  obtain ⟨ended, renewed, hended, hrenewed, hending, -, -, hevents⟩ :=
    (submit_renewed {} history hidle .streaming "hi" silent none none).2 htext
  have hincomplete : renewed.2 = .outcome .incomplete := by
    have hran := hrenewed.symm.trans (submit_eq w.renewed .streaming htext rfl silent none none)
    exact congrArg Prod.snd (Except.ok.inj hran)
  exact ⟨hidle, htext, ended, renewed, hended, hrenewed, hending.trans hincomplete, hincomplete,
    hevents⟩

end World

end CitedChat
