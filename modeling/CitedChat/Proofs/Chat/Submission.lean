import CitedChat.Chat.Submission
import CitedChat.Proofs.Chat.Assembly

/-!
The parts of a submission, one law each. While the transport is at work the conversation stays and
nothing is told (`World.Undisturbed`), and what it does depends on the clock and the gate alone
(`World.SameScene`). Folding a payload changes the conversation and the events and nothing else
(`fold_eq`), so that nobody comes or goes meanwhile (`World.Still`). A streamed turn reads one
script: the acts of the call, then what the call gives (`runStreaming_eq`). A question is refused
before its turn begins or not at all (`beginTurn_cases`); one that is put is refused, submitted or
broken off (`World.Attempts`).
-/

set_option autoImplicit false

namespace CitedChat

namespace World

/-! ### While the transport is at work -/

/-- Of the session at most the gate has changed, and subscribers were told nothing. -/
structure Undisturbed (w v : World) : Prop where
  session : v.session = { w.session with gate := v.session.gate }
  events : v.events = w.events

namespace Undisturbed

variable {u v w : World}

theorem refl (w : World) : Undisturbed w w :=
  ⟨rfl, rfl⟩

theorem trans (hfirst : Undisturbed u v) (hsecond : Undisturbed v w) : Undisturbed u w :=
  ⟨by rw [hsecond.session, hfirst.session], hsecond.events.trans hfirst.events⟩

theorem conversation (h : Undisturbed w v) : v.conversation = w.conversation :=
  (congrArg Session.conversation h.session :)

theorem protocol (h : Undisturbed w v) : v.session.protocol = w.session.protocol :=
  (congrArg Session.protocol h.session :)

theorem policy (h : Undisturbed w v) : v.session.policy = w.session.policy :=
  (congrArg Session.policy h.session :)

end Undisturbed

theorem undisturbed_asking (w : World) (request : List Turn) :
    Undisturbed w { w with requests := w.requests.push request } :=
  ⟨rfl, rfl⟩

theorem undisturbed_suspend (w : World) (f : Flight) (until_ : Option Nat) :
    Undisturbed w (w.suspend f until_).1 := by
  simp only [suspend]
  split <;> exact ⟨rfl, rfl⟩

/-- A wait for idleness is a wait; at most its answer is noted. -/
theorem perform_awaitIdle (w : World) (f : Flight) (ms : Nat) :
    ∃ answers, w.perform f (.awaitIdle ms) =
      ({ (w.suspend f (some (w.now + ms))).1 with idleAnswers := answers },
        (w.suspend f (some (w.now + ms))).2) := by
  rw [perform]
  rcases w.suspend f (some (w.now + ms)) with ⟨v, _ | i⟩
  · exact ⟨v.idleAnswers.push false, rfl⟩
  · exact ⟨v.idleAnswers, rfl⟩

theorem undisturbed_perform (w : World) (f : Flight) (act : Act) :
    Undisturbed w (w.perform f act).1 := by
  cases act with
  | wait ms => exact undisturbed_suspend w f _
  | hang => exact undisturbed_suspend w f _
  | abort => exact ⟨rfl, rfl⟩
  | awaitIdle ms =>
    obtain ⟨answers, hperform⟩ := perform_awaitIdle w f ms
    rw [hperform]
    exact (undisturbed_suspend w f (some (w.now + ms))).trans ⟨rfl, rfl⟩
  | watch => exact ⟨rfl, rfl⟩

theorem undisturbed_of_perform {w v : World} {f : Flight} {act : Act} {i : Option Interrupt}
    (hperform : w.perform f act = (v, i)) : Undisturbed w v := by
  have hact := undisturbed_perform w f act
  rw [hperform] at hact
  exact hact

/-- What every act keeps, acts in order keep. -/
theorem performAll_keeps {R : World → World → Prop} (f : Flight) (hrefl : ∀ w, R w w)
    (htrans : ∀ {u v w}, R u v → R v w → R u w) (hact : ∀ w act, R w (w.perform f act).1)
    (w : World) (acts : List Act) : R w (w.performAll f acts).1 := by
  induction acts generalizing w with
  | nil => exact hrefl w
  | cons act rest ih =>
    have hfirst := hact w act
    rw [performAll]
    rcases hperform : w.perform f act with ⟨v, _ | i⟩
    · rw [hperform] at hfirst
      exact htrans hfirst (ih v)
    · rw [hperform] at hfirst
      exact hfirst

theorem undisturbed_performAll (w : World) (f : Flight) (acts : List Act) :
    Undisturbed w (w.performAll f acts).1 :=
  performAll_keeps f .refl .trans (fun w act ↦ undisturbed_perform w f act) w acts

theorem undisturbed_wake (w : World) : Undisturbed w w.wake := by
  rw [wake]
  split <;> exact ⟨rfl, rfl⟩

theorem undisturbed_leave (w : World) : Undisturbed w w.leave := by
  have hgate : Undisturbed w (w.setGate w.session.gate.leave) := ⟨rfl, rfl⟩
  exact hgate.trans (undisturbed_wake _)

/-! ### Settings -/

/-- Of the session at most the conversation and the gate have changed. -/
structure SameSettings (w v : World) : Prop where
  session : v.session =
    { w.session with conversation := v.session.conversation, gate := v.session.gate }

namespace SameSettings

variable {u v w : World}

theorem refl (w : World) : SameSettings w w :=
  ⟨rfl⟩

theorem trans (hfirst : SameSettings u v) (hsecond : SameSettings v w) : SameSettings u w :=
  ⟨by rw [hsecond.session, hfirst.session]⟩

theorem protocol (h : SameSettings w v) : v.session.protocol = w.session.protocol :=
  (congrArg Session.protocol h.session :)

end SameSettings

theorem sameSettings_emit (w : World) (event : Event) : SameSettings w (w.emit event) :=
  ⟨rfl⟩

theorem Undisturbed.sameSettings {w v : World} (h : Undisturbed w v) : SameSettings w v :=
  ⟨by rw [h.session]⟩

/-! ### What the transport is at work on -/

/-- The same instant and the same gate: all that the transport and the waits depend on. -/
structure SameScene (w v : World) : Prop where
  now : v.now = w.now
  gate : v.session.gate = w.session.gate

namespace SameScene

variable {w v : World}

theorem isCancelled (h : SameScene w v) (f : Flight) : v.isCancelled f = w.isCancelled f := by
  rw [World.isCancelled, World.isCancelled, h.gate]

theorem interrupt? (h : SameScene w v) (f : Flight) : v.interrupt? f = w.interrupt? f := by
  rw [World.interrupt?, World.interrupt?, h.isCancelled, h.now]

theorem suspend (h : SameScene w v) (f : Flight) (until_ : Option Nat) :
    SameScene (w.suspend f until_).1 (v.suspend f until_).1 ∧
      (v.suspend f until_).2 = (w.suspend f until_).2 := by
  have hwake : v.wakening f until_ = w.wakening f until_ := by
    simp only [wakening, h.now, h.isCancelled]
  simp only [World.suspend, hwake]
  split
  · exact ⟨⟨rfl, congrArg Gate.abort h.gate⟩, trivial⟩
  · exact ⟨⟨rfl, h.gate⟩, trivial⟩

theorem perform (h : SameScene w v) (f : Flight) (act : Act) :
    SameScene (w.perform f act).1 (v.perform f act).1 ∧
      (v.perform f act).2 = (w.perform f act).2 := by
  cases act with
  | wait ms =>
    rw [World.perform, World.perform, h.now]
    exact h.suspend f _
  | hang => exact h.suspend f none
  | abort => exact ⟨⟨h.now, congrArg Gate.abort h.gate⟩, rfl⟩
  | awaitIdle ms =>
    obtain ⟨hscene, hend⟩ := h.suspend f (some (w.now + ms))
    rw [World.perform, World.perform, h.now]
    rcases hw : w.suspend f (some (w.now + ms)) with ⟨w', i⟩
    rcases hv : v.suspend f (some (w.now + ms)) with ⟨v', j⟩
    rw [hw, hv] at hscene hend
    obtain rfl : j = i := hend
    cases j with
    | none => exact ⟨⟨hscene.now, hscene.gate⟩, rfl⟩
    | some i => exact ⟨hscene, rfl⟩
  | watch => exact ⟨⟨h.now, h.gate⟩, rfl⟩

end SameScene

/-! ### What is told -/

/-- The conversation and the events move on; all else stays. -/
def revise (w : World) (c : Conversation) (events : List Event) : World :=
  { w with session.conversation := c, events := w.events ++ events.toArray }

variable (w : World) (c : Conversation) (events : List Event)

@[simp] theorem conversation_revise : (w.revise c events).conversation = c := rfl

theorem sameSettings_revise : SameSettings w (w.revise c events) :=
  ⟨rfl⟩

theorem sameScene_revise : SameScene w (w.revise c events) :=
  ⟨rfl, rfl⟩

@[simp] theorem events_revise : (w.revise c events).events = w.events ++ events.toArray := rfl

theorem revise_nil : w.revise w.conversation [] = w := by
  simp [revise, conversation]

theorem revise_revise (next : Conversation) (more : List Event) :
    (w.revise c events).revise next more = w.revise next (events ++ more) := by
  simp [revise]

theorem emit_eq_revise (event : Event) : w.emit event = w.revise w.conversation [event] := by
  simp [emit, revise, conversation]

@[simp] theorem setConversation_revise (next : Conversation) :
    (w.revise c events).setConversation next = w.revise next events := rfl

@[simp] theorem publish_revise (generation : Nat) :
    (w.revise c events).publish generation = w.revise c (events ++ [.updated generation c]) := by
  rw [publish, emit_eq_revise, conversation_revise, revise_revise]

/-! ### Folding a payload -/

/-- What subscribers are told about the payloads among directives that were dropped. -/
def complaints (f : Flight) : List Directive → List Event
  | [] => []
  | .reject error :: rest =>
    .decodeError f.permit.generation error.message :: complaints f rest
  | _ :: rest => complaints f rest

/-- What subscribers are told when directives lead to a conversation. -/
def report (f : Flight) (directives : List Directive) (c : Conversation) : List Event :=
  complaints f directives ++
    if (Directive.actions directives).isEmpty then [] else [.updated f.permit.generation c]

theorem carryOut_eq (f : Flight) (directives : List Directive) (changed : Bool) {w : World}
    {c : Conversation} (happly : w.conversation.applyAll (Directive.actions directives) = .ok c) :
    carryOut f directives changed w =
      (w.revise c (complaints f directives),
        .ok (changed || !(Directive.actions directives).isEmpty)) := by
  induction directives generalizing w changed with
  | nil =>
    cases happly
    rw [carryOut, complaints, revise_nil]
    simp [Directive.actions]
  | cons directive rest ih =>
    cases directive with
    | apply action =>
      cases hnext : w.conversation.apply action with
      | error error =>
        rw [Directive.actions, Conversation.applyAll, hnext] at happly
        cases happly
      | ok next =>
        rw [Directive.actions, Conversation.applyAll_cons hnext] at happly
        have hrest := ih true (w := w.setConversation next) happly
        rw [carryOut, hnext, Directive.actions, List.isEmpty_cons, Bool.not_false, Bool.or_true]
        exact hrest
    | finish signal => exact ih changed happly
    | reject error =>
      have hrest := ih changed (w := w.emit (.decodeError f.permit.generation error.message)) happly
      rw [carryOut, hrest, emit_eq_revise, revise_revise]
      rfl

/-- Folding directives that the conversation takes changes the conversation, adds the report, and
does nothing else. -/
theorem fold_eq (w : World) (f : Flight) {directives : List Directive} {c : Conversation}
    (happly : w.conversation.applyAll (Directive.actions directives) = .ok c) :
    w.fold f directives = (w.revise c (report f directives c), none) := by
  rw [fold, carryOut_eq f directives false happly, report]
  cases hactions : (Directive.actions directives).isEmpty with
  | true => simp
  | false => simp

/-! ### The script of a streamed turn -/

end World

/-- What a streamed turn hears, from the call of its transport on; the call gives a stream, whose
begin is like a connection being opened, or fails. -/
def Transport.script (transport : Transport) (request : List Turn) : List Item :=
  transport.connect.map .act ++
    match transport.stream request with
    | .error error => [.fail error]
    | .ok items => .opened :: items

namespace World

theorem readStream_acts (f : Flight) (acts : List Act) (rest : List Item) (a : Assembler)
    (w : World) :
    readStream f true (acts.map .act ++ rest) a w =
      match w.performAll f acts with
      | (v, some i) => v.interrupted f i
      | (v, none) => readStream f true rest a v := by
  induction acts generalizing w with
  | nil => rfl
  | cons act more ih =>
    rw [List.map_cons, List.cons_append, readStream, performAll]
    rcases w.perform f act with ⟨v, _ | i⟩
    · exact ih v
    · rfl

/-- The assembler that a streamed turn starts with. -/
def assembler (w : World) : Assembler :=
  .start w.session.protocol w.conversation.sourceCount w.session.policy

theorem Undisturbed.assembler {w v : World} (h : Undisturbed w v) : v.assembler = w.assembler := by
  rw [World.assembler, World.assembler, h.protocol, h.conversation, h.policy]

/-- A streamed turn reads its script, the request noted, unless it is over before the call. -/
theorem runStreaming_eq (w : World) (f : Flight) (transport : Transport) (request : List Turn) :
    w.runStreaming f transport request =
      match w.interrupt? f with
      | some i => w.interrupted f i
      | none =>
        readStream f true (transport.script request) w.assembler
          { w with requests := w.requests.push request } := by
  rw [runStreaming]
  cases w.interrupt? f with
  | some i => rfl
  | none =>
    have hcall := undisturbed_performAll { w with requests := w.requests.push request } f
      transport.connect
    rw [Transport.script, readStream_acts]
    rcases hacts : performAll { w with requests := w.requests.push request } f transport.connect
      with ⟨v, _ | i⟩
    · rw [hacts] at hcall
      have hassembler : v.assembler = w.assembler := hcall.assembler
      simp only [hacts]
      cases transport.stream request with
      | error error => rfl
      | ok items =>
        rw [← hassembler]
        rfl
    · simp only [hacts]

/-! ### Beginning and ending -/

/-- The flight of the next submission. -/
def flight (w : World) (limit abortAfter : Option Nat) : Flight where
  permit := w.session.gate.nextPermit
  deadline := w.session.timeout.map fun micros ↦ w.now + Clock.ceilMillis micros
  abortAt := abortAfter.map (w.now + ·)
  limit := limit.map (w.now + ·)

/-- The world once a question is asked. -/
def asked (w : World) (text : String) : World :=
  (w.setGate w.session.gate.taken).revise (w.conversation.ask text)
    [.turnStart w.session.gate.nextPermit.generation,
      .updated w.session.gate.nextPermit.generation (w.conversation.ask text)]

/-- The request that a question makes. -/
def request (w : World) (text : String) : List Turn :=
  w.conversation.turns ++ [.user text]

theorem beginTurn_eq (w : World) {text : String} (htext : Text.isBlankText text = false)
    (hidle : w.session.gate.busy = false) (limit abortAfter : Option Nat) :
    w.beginTurn text limit abortAfter =
      .ok (w.asked text, w.flight limit abortAfter, w.request text) := by
  have hask : (⟨w.conversation.turns ++ [.user text] ++ [.placeholder]⟩ : Conversation) =
      w.conversation.ask text := by
    rw [List.append_assoc]
    rfl
  simp only [beginTurn, htext, Gate.enter, hidle, hask, emit_eq_revise, setConversation_revise,
    publish_revise]
  rfl

/-- A question that is not blank, put to an idle session, begins a turn, which is run and
concluded. -/
theorem submit_eq (w : World) (mode : Mode) {text : String}
    (htext : Text.isBlankText text = false) (hidle : w.session.gate.busy = false)
    (transport : Transport) (limit abortAfter : Option Nat) :
    w.submit mode text transport limit abortAfter =
      let f := w.flight limit abortAfter
      let ran := (w.asked text).run mode f transport (w.request text)
      .ok (ran.1.conclude f ran.2, ran.2) := by
  rw [submit, beginTurn_eq w htext hidle]
  rfl

theorem beginTurn_of_blank (w : World) {text : String} (htext : Text.isBlankText text = true)
    (limit abortAfter : Option Nat) :
    w.beginTurn text limit abortAfter = .error .emptyInput := by
  rw [beginTurn, if_pos htext]

theorem beginTurn_of_busy (w : World) {text : String} (htext : Text.isBlankText text = false)
    (hbusy : w.session.gate.busy = true) (limit abortAfter : Option Nat) :
    w.beginTurn text limit abortAfter = .error .busy := by
  rw [beginTurn, if_neg (by simp [htext]), (Gate.enter_eq_none_iff _).2 hbusy]

section Refused

variable {w : World} {mode : Mode} {text : String} {transport : Transport}
  {limit abortAfter : Option Nat} {error : ChatError}

/-- A question that begins no turn is not submitted. -/
theorem submit_of_error (hbegin : w.beginTurn text limit abortAfter = .error error) :
    w.submit mode text transport limit abortAfter = .error error := by
  rw [submit, hbegin]
  rfl

/-- Whatever the clock says, the same questions are refused. -/
theorem attempt_of_error (hbegin : w.beginTurn text limit abortAfter = .error error) :
    w.attempt mode text transport limit abortAfter = .error error := by
  rw [attempt, submit_of_error hbegin, hbegin]
  split <;> rfl

end Refused

/-- A question is blank, or finds the session held, or begins a turn. -/
theorem beginTurn_cases (w : World) (text : String) (limit abortAfter : Option Nat) :
    w.beginTurn text limit abortAfter = .error .emptyInput ∧ Text.isBlankText text = true ∨
      w.beginTurn text limit abortAfter = .error .busy ∧
        Text.isBlankText text = false ∧ w.session.gate.busy = true ∨
      Text.isBlankText text = false ∧ w.session.gate.busy = false := by
  cases htext : Text.isBlankText text with
  | true => exact .inl ⟨w.beginTurn_of_blank htext limit abortAfter, rfl⟩
  | false =>
    cases hbusy : w.session.gate.busy with
    | true => exact .inr (.inl ⟨w.beginTurn_of_busy htext hbusy limit abortAfter, rfl, rfl⟩)
    | false => exact .inr (.inr ⟨rfl, rfl⟩)

/-- Only a question that is not blank and put to an idle session is accepted. -/
theorem accepted_of_submit {w : World} {mode : Mode} {text : String} {transport : Transport}
    {limit abortAfter : Option Nat} {ended : World × Ending}
    (hsubmit : w.submit mode text transport limit abortAfter = .ok ended) :
    Text.isBlankText text = false ∧ w.session.gate.busy = false := by
  obtain ⟨hbegin, -⟩ | ⟨hbegin, -⟩ | haccepted := w.beginTurn_cases text limit abortAfter
  · cases (submit_of_error hbegin).symm.trans hsubmit
  · cases (submit_of_error hbegin).symm.trans hsubmit
  · exact haccepted

/-! ### Questions that are put -/

section Attempt

variable {w : World} {mode : Mode} {text : String} {transport : Transport}
  {limit abortAfter : Option Nat}

/-- What a question that is put may come to. -/
inductive Attempts (w : World) (mode : Mode) (text : String) (transport : Transport)
    (limit abortAfter : Option Nat) : Except ChatError (World × Option Ending) → Prop where
  | refused {error : ChatError}
      (hsubmit : w.submit mode text transport limit abortAfter = .error error) :
      Attempts w mode text transport limit abortAfter (.error error)
  | submitted {v : World} {ending : Ending}
      (hsubmit : w.submit mode text transport limit abortAfter = .ok (v, ending)) :
      Attempts w mode text transport limit abortAfter (.ok (v, some ending))
  /-- The clock cannot name the deadline. -/
  | brokenOff (hbeyond : w.foreseesDeadline = false) (htext : Text.isBlankText text = false)
      (hidle : w.session.gate.busy = false) :
      Attempts w mode text transport limit abortAfter (.ok ((w.asked text).leave, none))

/-- A question whose deadline the clock can name is submitted. -/
theorem attempt_of_foresees (hforeseen : w.foreseesDeadline = true) {v : World} {ending : Ending}
    (hsubmit : w.submit mode text transport limit abortAfter = .ok (v, ending)) :
    w.attempt mode text transport limit abortAfter = .ok (v, some ending) := by
  rw [attempt, if_pos hforeseen, hsubmit]
  rfl

/-- Any other one is asked, and that is all. -/
theorem attempt_of_beyond (hbeyond : w.foreseesDeadline = false)
    (htext : Text.isBlankText text = false) (hidle : w.session.gate.busy = false) :
    w.attempt mode text transport limit abortAfter = .ok ((w.asked text).leave, none) := by
  rw [attempt, hbeyond, if_neg Bool.false_ne_true, beginTurn_eq w htext hidle]
  rfl

theorem attempts (w : World) (mode : Mode) (text : String) (transport : Transport)
    (limit abortAfter : Option Nat) :
    Attempts w mode text transport limit abortAfter
      (w.attempt mode text transport limit abortAfter) := by
  obtain ⟨hbegin, -⟩ | ⟨hbegin, -⟩ | ⟨htext, hidle⟩ := w.beginTurn_cases text limit abortAfter
  · rw [attempt_of_error hbegin]
    exact .refused (submit_of_error hbegin)
  · rw [attempt_of_error hbegin]
    exact .refused (submit_of_error hbegin)
  · cases hforeseen : w.foreseesDeadline with
    | true =>
      have hsubmit := submit_eq w mode htext hidle transport limit abortAfter
      rw [attempt_of_foresees hforeseen hsubmit]
      exact .submitted hsubmit
    | false =>
      rw [attempt_of_beyond hforeseen htext hidle]
      exact .brokenOff hforeseen htext hidle

end Attempt

theorem sameSettings_conclude (w : World) (f : Flight) (ending : Ending) :
    SameSettings w (w.conclude f ending) := by
  cases ending with
  | outcome outcome => exact (sameSettings_emit w _).trans (undisturbed_leave _).sameSettings
  | broken error => exact (sameSettings_emit w _).trans (undisturbed_leave _).sameSettings
  | suspended => exact .refl w

/-- An interruption at most tells subscribers a warning. -/
theorem session_interrupted (w : World) (f : Flight) (i : Interrupt) :
    (w.interrupted f i).1.session = w.session := by
  cases i <;> rfl

theorem sameSettings_interrupted (w : World) (f : Flight) (i : Interrupt) :
    SameSettings w (w.interrupted f i).1 :=
  ⟨by rw [session_interrupted]⟩

/-! ### What subscribers were told -/

end World

/-- The snapshot of the conversation in an event. -/
def Event.snapshot? : Event → Option Conversation
  | .updated _ c => some c
  | _ => none

namespace World

/-- The snapshots that subscribers were told, in order. -/
def snapshots (w : World) : List Conversation :=
  w.events.toList.filterMap Event.snapshot?

theorem snapshots_emit (w : World) (event : Event) :
    (w.emit event).snapshots = w.snapshots ++ event.snapshot?.toList := by
  simp only [snapshots, events_emit, Array.toList_push, List.filterMap_append]
  cases h : event.snapshot? <;> simp [h]

theorem snapshots_revise (w : World) (c : Conversation) (events : List Event) :
    (w.revise c events).snapshots = w.snapshots ++ events.filterMap Event.snapshot? := by
  simp [snapshots]

theorem snapshots_asked (w : World) (text : String) :
    (w.asked text).snapshots = w.snapshots ++ [w.conversation.ask text] := by
  rw [asked, snapshots_revise]
  rfl

theorem filterMap_report (f : Flight) (directives : List Directive) (c : Conversation) :
    (report f directives c).filterMap Event.snapshot? =
      if (Directive.actions directives).isEmpty then [] else [c] := by
  have hcomplaints : (complaints f directives).filterMap Event.snapshot? = [] := by
    induction directives with
    | nil => rfl
    | cons directive rest ih => cases directive <;> exact ih
  rw [report, List.filterMap_append, hcomplaints, List.nil_append]
  split <;> rfl

/-! ### Worlds that pass quietly -/

/-- The conversation is the same, and subscribers were told none. -/
structure Quiet (w v : World) : Prop where
  conversation : v.conversation = w.conversation
  snapshots : v.snapshots = w.snapshots

variable {u v w : World}

theorem Quiet.refl (w : World) : Quiet w w :=
  ⟨rfl, rfl⟩

theorem Quiet.trans (hfirst : Quiet u v) (hsecond : Quiet v w) : Quiet u w :=
  ⟨hsecond.conversation.trans hfirst.conversation, hsecond.snapshots.trans hfirst.snapshots⟩

theorem Undisturbed.quiet (h : Undisturbed w v) : Quiet w v where
  conversation := h.conversation
  snapshots := by rw [snapshots, h.events, snapshots]

theorem quiet_emit (w : World) {event : Event} (hother : event.snapshot? = none) :
    Quiet w (w.emit event) where
  conversation := rfl
  snapshots := by
    rw [snapshots_emit, hother]
    exact List.append_nil _

theorem quiet_warn (w : World) (f : Flight) (message : String) : Quiet w (w.warn f message) :=
  quiet_emit w rfl

theorem quiet_failed (w : World) (error : ServiceError) : Quiet w (w.failed error).1 :=
  quiet_emit w rfl

theorem quiet_interrupted (w : World) (f : Flight) (i : Interrupt) :
    Quiet w (w.interrupted f i).1 := by
  cases i with
  | cancelled => exact .refl w
  | deadline => exact quiet_warn w f w.timeoutText
  | limit => exact .refl w

theorem quiet_conclude (w : World) (f : Flight) (ending : Ending) :
    Quiet w (w.conclude f ending) := by
  cases ending with
  | outcome outcome => exact (quiet_emit w rfl).trans (undisturbed_leave _).quiet
  | broken error => exact (quiet_emit w rfl).trans (undisturbed_leave _).quiet
  | suspended => exact .refl w

theorem events_conclude (w : World) (f : Flight) (outcome : Outcome) :
    (w.conclude f (.outcome outcome)).events =
      w.events.push (.turnEnd f.permit.generation outcome) :=
  (undisturbed_leave _).events

/-! ### Worlds in which nobody comes or goes -/

/-- Nothing has changed at the gate and among those who wait. -/
structure Still (w v : World) : Prop where
  gate : v.session.gate = w.session.gate
  parked : v.parked = w.parked
  woken : v.woken = w.woken
  answers : v.idleAnswers = w.idleAnswers

theorem Still.trans (hfirst : Still u v) (hsecond : Still v w) : Still u w where
  gate := hsecond.gate.trans hfirst.gate
  parked := hsecond.parked.trans hfirst.parked
  woken := hsecond.woken.trans hfirst.woken
  answers := hsecond.answers.trans hfirst.answers

theorem still_emit (w : World) (event : Event) : Still w (w.emit event) :=
  ⟨rfl, rfl, rfl, rfl⟩

theorem still_interrupted (w : World) (f : Flight) (i : Interrupt) :
    Still w (w.interrupted f i).1 := by
  cases i <;> exact ⟨rfl, rfl, rfl, rfl⟩

theorem still_carryOut (f : Flight) (directives : List Directive) (changed : Bool) (w : World) :
    Still w (carryOut f directives changed w).1 := by
  induction directives generalizing changed w with
  | nil => exact ⟨rfl, rfl, rfl, rfl⟩
  | cons directive rest ih =>
    cases directive with
    | apply action =>
      rw [carryOut]
      split
      · next c happly =>
        have hset : Still w (w.setConversation c) := ⟨rfl, rfl, rfl, rfl⟩
        exact hset.trans (ih _ _)
      · exact ⟨rfl, rfl, rfl, rfl⟩
    | finish signal => exact ih _ _
    | reject error => exact (still_emit w _).trans (ih _ _)

theorem still_of_fold {f : Flight} {directives : List Directive} {error : Option StoreError}
    (hfold : w.fold f directives = (v, error)) : Still w v := by
  have hcarry := still_carryOut f directives false w
  rw [fold] at hfold
  split at hfold
  · next u changed heq =>
    rw [heq] at hcarry
    cases hfold
    cases changed with
    | true => exact hcarry.trans (still_emit u _)
    | false => exact hcarry
  · next u error heq =>
    rw [heq] at hcarry
    cases hfold
    exact hcarry

theorem still_adopt (w : World) (f : Flight) (reply : Reply) : Still w (w.adopt f reply).1 := by
  cases reply with
  | transcript turns => exact ⟨rfl, rfl, rfl, rfl⟩
  | turn turn =>
    cases turn with
    | user text => exact ⟨rfl, rfl, rfl, rfl⟩
    | assistant text sources =>
      rw [adopt]
      split <;> exact ⟨rfl, rfl, rfl, rfl⟩

end World

end CitedChat
