import CitedChat.Proofs.Chat.BatchTurn
import CitedChat.Proofs.Chat.Following
import CitedChat.Proofs.Chat.Growth

/-!
What a turn tells its subscribers, event by event (`World.Tells`). While an answer comes in they are
told what each payload does (`Assembler.told`): the conversation it leads to, if it brings
something, or why it is dropped. At the end they are told how the turn ended
(`World.closing`). A streamed turn tells what the payloads it hears do (`runStreaming_tells`), a
batch turn tells at most the one conversation that it adopts (`runBatch_tells`).
-/

set_option autoImplicit false

namespace CitedChat

/-- The message of an event that a payload was dropped. -/
def Event.complaint? : Event → Option String
  | .decodeError _ message => some message
  | _ => none

/-- An event of a turn while its answer comes in. -/
def Event.IsProgress (generation : Nat) : Event → Prop
  | .updated tagged _ | .decodeError tagged _ => tagged = generation
  | _ => False

/-! ### What payloads tell -/

namespace World

theorem isProgress_report (f : Flight) (directives : List Directive) (c : Conversation) :
    ∀ event ∈ report f directives c, event.IsProgress f.permit.generation := by
  have hcomplaints : ∀ event ∈ complaints f directives, event.IsProgress f.permit.generation := by
    induction directives with
    | nil => exact nofun
    | cons directive rest ih =>
      cases directive with
      | reject error => exact List.forall_mem_cons.2 ⟨rfl, ih⟩
      | apply action => exact ih
      | finish signal => exact ih
  intro event hmem
  obtain hmem | hmem := List.mem_append.1 hmem
  · exact hcomplaints event hmem
  · split at hmem
    · cases hmem
    · rw [List.mem_singleton.1 hmem]
      rfl

/-- Directives that refuse nothing are not complained of. -/
theorem complaints_ofPart (f : Flight) (parts : List Part) :
    complaints f (parts.map Directive.ofPart) = [] := by
  induction parts with
  | nil => rfl
  | cons part rest ih => cases part <;> exact ih

theorem filterMap_complaint?_report (f : Flight) (directives : List Directive) (c : Conversation) :
    (report f directives c).filterMap Event.complaint? =
      (complaints f directives).filterMap Event.complaint? := by
  rw [report, List.filterMap_append]
  split <;> exact List.append_nil _

end World

namespace Assembler

variable {a : Assembler} {c next : Conversation} {raw : String}

/-- What subscribers are told of payloads that are folded in turn. -/
def told (f : Flight) (a : Assembler) (c : Conversation) : List String → List Event
  | [] => []
  | raw :: rest =>
    match c.applyAll (Directive.actions (a.feed raw).1) with
    | .error _ => []
    | .ok next => World.report f (a.feed raw).1 next ++ told f (a.feed raw).2 next rest

theorem told_cons (f : Flight) (happly : c.applyAll (Directive.actions (a.feed raw).1) = .ok next)
    (rest : List String) :
    a.told f c (raw :: rest) =
      World.report f (a.feed raw).1 next ++ (a.feed raw).2.told f next rest := by
  rw [told, happly]

/-- Nothing is told of payloads behind the end of the answer. -/
theorem told_of_isDone (f : Flight) (hdone : a.isDone = true) (c : Conversation)
    (payloads : List String) : a.told f c payloads = [] := by
  induction payloads generalizing a with
  | nil => rfl
  | cons raw rest ih =>
    rw [told, feed_of_isDone a raw hdone]
    exact ih hdone

theorem isProgress_told (f : Flight) (a : Assembler) (c : Conversation) (payloads : List String) :
    ∀ event ∈ a.told f c payloads, event.IsProgress f.permit.generation := by
  induction payloads generalizing a c with
  | nil => exact nofun
  | cons raw rest ih =>
    rw [told]
    split
    · exact nofun
    · exact List.forall_mem_append.2 ⟨World.isProgress_report f _ _, ih _ _⟩

/-- The snapshots told are the conversations that the payloads lead to. -/
theorem snapshots_told (f : Flight) (a : Assembler) (c : Conversation) (payloads : List String) :
    (a.told f c payloads).filterMap Event.snapshot? = a.reached c payloads := by
  induction payloads generalizing a c with
  | nil => rfl
  | cons raw rest ih =>
    rw [told, reached]
    cases c.applyAll (Directive.actions (a.feed raw).1) with
    | error error => rfl
    | ok next =>
      dsimp only
      rw [List.filterMap_append, World.filterMap_report, ih]

/-- Subscribers are told why a payload is dropped, for each that is. -/
theorem complaints_told (f : Flight) (a : Assembler) (hanswer : c.EndsWithAnswer)
    (payloads : List String) :
    (a.told f c payloads).filterMap Event.complaint? =
      (a.refusals payloads).map DecodeError.message := by
  induction payloads generalizing a c with
  | nil => rfl
  | cons raw rest ih =>
    cases hdone : a.isDone with
    | true =>
      rw [told_of_isDone f hdone, refusals_of_isDone hdone]
      rfl
    | false =>
      obtain ⟨next, happly, hnext⟩ := hanswer.applyAll (a.isAppend_of_feed raw)
      rw [told_cons f happly, List.filterMap_append, ih _ hnext,
        World.filterMap_complaint?_report, refusals, hdone]
      cases hread : a.reader.read raw with
      | error error =>
        rw [(feed_error hdone hread).1]
        rfl
      | ok read =>
        rw [feed_read hdone hread]
        simp only [World.complaints_ofPart]
        rfl

end Assembler

namespace World

/-! ### What the end of a turn tells -/

/-- What subscribers are told of how a turn ended, apart from its end itself; `refused` says that
the reply to a batch turn was no answer. -/
def closing (w : World) (f : Flight) (refused : Bool) : Ending → List Event
  | .outcome .incomplete => [.warning f.permit.generation closedText]
  | .outcome .timedOut => [.warning f.permit.generation w.timeoutText]
  | .outcome .halted => [.warning f.permit.generation haltedText]
  | .outcome (.failed detail) =>
    if refused then [.decodeError f.permit.generation detail] else [.error detail]
  | .outcome .finished | .outcome .cancelled | .broken _ | .suspended => []

/-- A turn that ended told its subscribers a body and then how it ended; no action was refused, and
the transport was not called again. -/
structure Tells (f : Flight) (refused : Bool) (w : World) (body : List Event)
    (ended : World × Ending) : Prop where
  events : ended.1.events = w.events ++ (body ++ w.closing f refused ended.2).toArray
  requests : ended.1.requests = w.requests
  unbroken : ∀ error, ended.2 ≠ .broken error

variable {w v : World} {f : Flight} {refused : Bool} {a : Assembler} {ended : World × Ending}

theorem outcome_ne_broken (outcome : Outcome) (error : StoreError) :
    Ending.outcome outcome ≠ .broken error :=
  nofun

theorem SameSettings.closing (h : SameSettings w v) (f : Flight) (refused : Bool)
    (ending : Ending) : v.closing f refused ending = w.closing f refused ending := by
  have htimeout : v.session.timeout = w.session.timeout := (congrArg Session.timeout h.session :)
  have htext : v.timeoutText = w.timeoutText := by
    unfold timeoutText
    rw [htimeout]
  simp only [World.closing, htext]

/-- An event more closes the turn. -/
theorem tells_emit {event : Event} {ending : Ending}
    (hclosing : w.closing f refused ending = [event])
    (hunbroken : ∀ error, ending ≠ .broken error) :
    Tells f refused w [] (w.emit event, ending) where
  events := by rw [hclosing, events_emit, List.nil_append, Array.push_eq_append]
  requests := rfl
  unbroken := hunbroken

/-- Nothing more closes the turn. -/
theorem tells_nothing {ending : Ending} (hclosing : w.closing f refused ending = [])
    (hunbroken : ∀ error, ending ≠ .broken error) : Tells f refused w [] (w, ending) where
  events := by rw [hclosing]; exact Array.append_empty.symm
  requests := rfl
  unbroken := hunbroken

theorem tells_interrupted (w : World) (f : Flight) (refused : Bool) (i : Interrupt) :
    Tells f refused w [] (w.interrupted f i) := by
  cases i with
  | cancelled => exact tells_nothing rfl (outcome_ne_broken _)
  | deadline => exact tells_emit rfl (outcome_ne_broken _)
  | limit => exact tells_nothing rfl nofun

theorem tells_failed (w : World) (f : Flight) (error : ServiceError) :
    Tells f false w [] (w.failed error) :=
  tells_emit rfl (outcome_ne_broken _)

/-- What is told after the transport was at work is told in all. -/
theorem Tells.of_undisturbed {body : List Event} (h : Undisturbed w v)
    (hrequests : v.requests = w.requests) (htells : Tells f refused v body ended) :
    Tells f refused w body ended where
  events := by rw [htells.events, h.events, h.sameSettings.closing]
  requests := htells.requests.trans hrequests
  unbroken := htells.unbroken

/-- What is told after events more, these included. -/
theorem Tells.revise {body : List Event} (next : Conversation) {events : List Event}
    (htells : Tells f refused (w.revise next events) body ended) :
    Tells f refused w (events ++ body) ended where
  events := by
    rw [htells.events, (sameSettings_revise w next events).closing, events_revise]
    simp
  requests := htells.requests
  unbroken := htells.unbroken

/-! ### Requests -/

theorem requests_suspend (w : World) (f : Flight) (until_ : Option Nat) :
    (w.suspend f until_).1.requests = w.requests := by
  simp only [suspend]
  split <;> rfl

theorem requests_perform (w : World) (f : Flight) (act : Act) :
    (w.perform f act).1.requests = w.requests := by
  cases act with
  | wait ms => exact requests_suspend w f _
  | hang => exact requests_suspend w f _
  | abort => rfl
  | awaitIdle ms =>
    obtain ⟨answers, hperform⟩ := perform_awaitIdle w f ms
    rw [hperform]
    exact requests_suspend w f _
  | watch => rfl

theorem requests_performAll (w : World) (f : Flight) (acts : List Act) :
    (w.performAll f acts).1.requests = w.requests := by
  refine performAll_keeps (R := fun w v ↦ v.requests = w.requests) f (fun _ ↦ rfl) ?_
    (fun w act ↦ requests_perform w f act) w acts
  intro u v w hfirst hsecond
  exact hsecond.trans hfirst

/-- The world once the transport is called, unless the turn is over before. -/
def calling (w : World) (f : Flight) (request : List Turn) : World :=
  match w.interrupt? f with
  | some _ => w
  | none => { w with requests := w.requests.push request }

theorem undisturbed_calling (w : World) (f : Flight) (request : List Turn) :
    Undisturbed w (w.calling f request) := by
  rw [calling]
  split
  · exact .refl w
  · exact undisturbed_asking w request

/-! ### Streamed turns -/

/-- Reading a stream tells what the payloads heard do. -/
theorem readStream_tells (f : Flight) (polling : Bool) (items : List Item)
    (hanswer : w.conversation.EndsWithAnswer) (hopen : a.isDone = false) :
    Tells f false w (a.told f w.conversation (listen f polling items w).payloads)
      (readStream f polling items a w) := by
  induction items generalizing polling a w with
  | nil =>
    simp only [listen, readStream]
    cases (if polling then none else w.interrupt? f) with
    | some i => exact tells_interrupted w f false i
    | none => exact tells_emit rfl (outcome_ne_broken _)
  | cons item rest ih =>
    simp only [listen, readStream]
    cases (if polling then none else w.interrupt? f) with
    | some i => exact tells_interrupted w f false i
    | none =>
      cases item with
      | act act =>
        have hact := undisturbed_perform w f act
        have hrequests := requests_perform w f act
        dsimp only
        rcases hperform : w.perform f act with ⟨v, _ | i⟩ <;> rw [hperform] at hact hrequests
        · have hrest := ih true (by rw [hact.conversation]; exact hanswer) hopen
          rw [hact.conversation] at hrest
          exact hrest.of_undisturbed hact hrequests
        · exact (tells_interrupted v f false i).of_undisturbed hact hrequests
      | opened => exact ih false hanswer hopen
      | fail error => exact tells_failed w f error
      | payload raw =>
        obtain ⟨next, happly, hnext⟩ := hanswer.applyAll (a.isAppend_of_feed raw)
        dsimp only
        split
        · exact tells_nothing rfl (outcome_ne_broken _)
        · have hscene := sameScene_revise w next (report f (a.feed raw).1 next)
          rw [fold_eq w f happly, Assembler.told_cons f happly, ← hscene.listen f false rest]
          refine Tells.revise next ?_
          dsimp only
          cases hstate : (a.feed raw).2.state with
          | streaming => exact ih false hnext ((Assembler.isDone_eq_false_iff _).2 hstate)
          | finished =>
            rw [Assembler.told_of_isDone f (by rw [Assembler.isDone, hstate]; rfl)]
            exact tells_nothing rfl (outcome_ne_broken _)
          | halted =>
            rw [Assembler.told_of_isDone f (by rw [Assembler.isDone, hstate]; rfl)]
            exact tells_emit rfl (outcome_ne_broken _)

/-- A streamed turn calls its transport once, unless it is over before, and tells what the payloads
heard do. -/
theorem runStreaming_tells (f : Flight) (transport : Transport) (request : List Turn)
    (hanswer : w.conversation.EndsWithAnswer) :
    Tells f false (w.calling f request)
      (w.assembler.told f w.conversation
        (listen f false (transport.script request) w).payloads)
      (w.runStreaming f transport request) := by
  rw [runStreaming_eq, calling]
  cases hinterrupt : w.interrupt? f with
  | some i =>
    rw [listen_of_interrupt hinterrupt]
    exact tells_interrupted w f false i
  | none =>
    have hscene : SameScene w { w with requests := w.requests.push request } := ⟨rfl, rfl⟩
    have hopen : w.assembler.isDone = false := rfl
    rw [listen_of_none hinterrupt, ← hscene.listen]
    exact readStream_tells (w := { w with requests := w.requests.push request }) f true
      (transport.script request) hanswer hopen

/-! ### Batch turns -/

end World

/-- The reply to a batch turn is no answer. -/
def Transport.refuses (transport : Transport) (mode : Mode) (request : List Turn) : Bool :=
  match mode, transport.exchange request with
  | .batch, .ok (.turn (.user _)) => true
  | _, _ => false

theorem Transport.refuses_iff (transport : Transport) (mode : Mode) (request : List Turn) :
    transport.refuses mode request = true ↔
      mode = .batch ∧ ∃ text, transport.exchange request = .ok (.turn (.user text)) := by
  simp only [refuses]
  split <;> simp_all

namespace World

variable {w v : World} {f : Flight}

/-- A call that ends the turn tells how; one that does not tells nothing. -/
theorem tells_call (w : World) (f : Flight) (refused : Bool) (acts : List Act)
    (request : List Turn) :
    match w.call f acts request with
    | (v, some ending) => Tells f refused (w.calling f request) [] (v, ending)
    | (v, none) => Undisturbed (w.calling f request) v ∧
        v.requests = (w.calling f request).requests := by
  rw [call, calling]
  cases w.interrupt? f with
  | some i => exact tells_interrupted w f refused i
  | none =>
    have hcall := undisturbed_performAll { w with requests := w.requests.push request } f acts
    have hrequests := requests_performAll { w with requests := w.requests.push request } f acts
    dsimp only
    rcases hacts : performAll { w with requests := w.requests.push request } f acts
      with ⟨v, _ | i⟩ <;> rw [hacts] at hcall hrequests <;> dsimp only
    · cases v.session.gate.isStale f.permit with
      | true =>
        have hnothing : Tells f refused v [] (v, .outcome .cancelled) :=
          tells_nothing rfl (outcome_ne_broken _)
        exact hnothing.of_undisturbed hcall hrequests
      | false => exact ⟨hcall, hrequests⟩
    · exact (tells_interrupted v f refused i).of_undisturbed hcall hrequests

/-- A batch turn adopted nothing and told nothing, or told the conversation that it adopted. -/
def TellsAdopted (f : Flight) (w : World) (body : List Event) (ended : World × Ending) : Prop :=
  body = [] ∧ ended.1.conversation = w.conversation ∨
    body = [.updated f.permit.generation ended.1.conversation]

/-- Replacing the conversation is told. -/
theorem tells_replace (w : World) (f : Flight) (refused : Bool) (c : Conversation) :
    Tells f refused w [.updated f.permit.generation c] (w.replace f c) where
  events := by
    rw [replace, events_publish, events_setConversation, Array.push_eq_append]
    rfl
  requests := rfl
  unbroken := outcome_ne_broken _

/-- A reply is adopted and told, or it is refused as none. -/
theorem adopt_tells (f : Flight) {transport : Transport} {request : List Turn} {reply : Reply}
    (hreply : transport.exchange request = .ok reply) (hanswer : w.conversation.EndsWithAnswer) :
    ∃ body, Tells f (transport.refuses .batch request) w body (w.adopt f reply) ∧
      TellsAdopted f w body (w.adopt f reply) := by
  cases reply with
  | transcript turns => exact ⟨_, tells_replace w f _ ⟨turns⟩, .inr rfl⟩
  | turn turn =>
    cases turn with
    | assistant text sources =>
      obtain ⟨next, happly, -⟩ := hanswer.applyAll (isAppend_answerActions text sources)
      rw [adopt, happly]
      exact ⟨_, tells_replace w f _ next, .inr rfl⟩
    | user text =>
      have hrefused : transport.refuses .batch request = true :=
        (transport.refuses_iff .batch request).2 ⟨rfl, text, hreply⟩
      rw [hrefused]
      exact ⟨[], tells_emit rfl (outcome_ne_broken _), .inl ⟨rfl, rfl⟩⟩

/-- A batch turn calls its transport once, unless it is over before, and tells the conversation that
it adopts, if it comes to one. -/
theorem runBatch_tells (f : Flight) (transport : Transport) (request : List Turn)
    (hanswer : w.conversation.EndsWithAnswer) :
    ∃ body, Tells f (transport.refuses .batch request) (w.calling f request) body
        (w.runBatch f transport request) ∧
      TellsAdopted f w body (w.runBatch f transport request) := by
  have hcall := tells_call w f (transport.refuses .batch request) transport.connect request
  have hquiet := quiet_call w f transport.connect request
  rw [runBatch_eq]
  rcases hcalled : w.call f transport.connect request with ⟨v, _ | ending⟩ <;>
    rw [hcalled] at hcall hquiet <;> dsimp only at hcall hquiet ⊢
  · obtain ⟨hundisturbed, hrequests⟩ := hcall
    cases hreply : transport.exchange request with
    | error error =>
      have hrefused : transport.refuses .batch request = false := by
        simp only [Transport.refuses, hreply]
      rw [hrefused]
      exact ⟨[], (tells_failed v f error).of_undisturbed hundisturbed hrequests,
        .inl ⟨rfl, hquiet.conversation⟩⟩
    | ok reply =>
      obtain ⟨body, htells, hadopted⟩ :=
        adopt_tells (w := v) f hreply (by rw [hquiet.conversation]; exact hanswer)
      rw [TellsAdopted, hquiet.conversation] at hadopted
      exact ⟨body, htells.of_undisturbed hundisturbed hrequests, hadopted⟩
  · exact ⟨[], hcall, .inl ⟨rfl, hquiet.conversation⟩⟩

/-! ### Turns of either mode -/

/-- A turn tells progress only before its end, and the last snapshot is the conversation it leaves.
A streamed turn tells what the payloads heard do. -/
theorem run_tells (mode : Mode) (f : Flight) (transport : Transport) (request : List Turn)
    (hanswer : w.conversation.EndsWithAnswer) :
    ∃ body, Tells f (transport.refuses mode request) (w.calling f request) body
        (w.run mode f transport request) ∧
      (∀ event ∈ body, event.IsProgress f.permit.generation) ∧
      (w.conversation :: body.filterMap Event.snapshot?).getLast? =
        some (w.run mode f transport request).1.conversation ∧
      (mode = .streaming → body = w.assembler.told f w.conversation
        (listen f false (transport.script request) w).payloads) := by
  cases mode with
  | streaming =>
    obtain ⟨result, hassemble, hconversation, -⟩ :=
      (runStreaming_follows f transport request hanswer).assembled
    refine ⟨_, runStreaming_tells f transport request hanswer,
      Assembler.isProgress_told f _ _ _, ?_, fun _ ↦ rfl⟩
    rw [Assembler.snapshots_told, List.getLast?_cons, ← assembled_eq_getLast? hanswer hassemble]
    exact congrArg some hconversation.symm
  | batch =>
    obtain ⟨body, htells, hadopted⟩ := runBatch_tells f transport request hanswer
    refine ⟨body, htells, ?_, ?_, nofun⟩
    · obtain ⟨rfl, -⟩ | rfl := hadopted
      · exact nofun
      · exact List.forall_mem_singleton.2 rfl
    · obtain ⟨rfl, hsame⟩ | rfl := hadopted
      · exact congrArg some hsame.symm
      · rfl

/-- A turn that asks now is over before the call only if it may take no time at all. -/
theorem requests_calling_asked (w : World) (text : String) (limit abortAfter : Option Nat) :
    ((w.asked text).calling (w.flight limit abortAfter) (w.request text)).requests =
      if w.session.timeout = some 0 then w.requests else w.requests.push (w.request text) := by
  have hfresh : (w.asked text).isCancelled (w.flight limit abortAfter) = false :=
    w.session.gate.isCancelled_taken
  have hdue : (w.flight limit abortAfter).deadline.any (· ≤ (w.asked text).now) =
      decide (w.session.timeout = some 0) := by
    have hnow : (w.asked text).now = w.now := rfl
    rw [flight, hnow]
    cases w.session.timeout with
    | none => rfl
    | some micros =>
      have hceil : w.now + Clock.ceilMillis micros ≤ w.now ↔ micros = 0 := by
        rw [Clock.ceilMillis]
        omega
      simp [hceil]
  have hasked : (w.asked text).requests = w.requests := rfl
  rw [calling, interrupt?, hfresh, hdue]
  by_cases hzero : w.session.timeout = some 0 <;> simp [hzero, hasked]

/-- What subscribers are told of a turn, from the question to its end. -/
def trace (w : World) (f : Flight) (text : String) (refused : Bool) (body : List Event)
    (outcome : Outcome) : List Event :=
  .turnStart f.permit.generation :: .updated f.permit.generation (w.conversation.ask text) ::
    (body ++ w.closing f refused (.outcome outcome) ++ [.turnEnd f.permit.generation outcome])

theorem requests_conclude (w : World) (f : Flight) (ending : Ending) :
    (w.conclude f ending).requests = w.requests := by
  cases ending with
  | suspended => rfl
  | _ =>
    rw [conclude, leave, wake]
    split <;> rfl

/-- A submission is a turn of the conversation asked, of which subscribers are told the trace. -/
theorem submit_tells (w : World) {text : String} (htext : Text.isBlankText text = false)
    (hidle : w.session.gate.busy = false) (mode : Mode) (transport : Transport)
    (limit abortAfter : Option Nat) :
    ∃ ended body,
      w.submit mode text transport limit abortAfter = .ok ended ∧
      (∀ error, ended.2 ≠ .broken error) ∧
      ended.1.requests =
        (if w.session.timeout = some 0 then w.requests else w.requests.push (w.request text)) ∧
      (∀ outcome, ended.2 = .outcome outcome →
        ended.1.events = w.events ++ (w.trace (w.flight limit abortAfter) text
          (transport.refuses mode (w.request text)) body outcome).toArray) ∧
      (∀ event ∈ body, event.IsProgress (w.flight limit abortAfter).permit.generation) ∧
      (w.conversation.ask text :: body.filterMap Event.snapshot?).getLast? =
        some ended.1.conversation ∧
      (mode = .streaming → body = (w.asked text).assembler.told (w.flight limit abortAfter)
        (w.conversation.ask text) (w.heard text transport limit abortAfter).payloads) := by
  have hanswer : (w.asked text).conversation.EndsWithAnswer :=
    Conversation.endsWithAnswer_ask w.conversation text
  obtain ⟨body, htells, hprogress, hlast, htold⟩ :=
    run_tells mode (w.flight limit abortAfter) transport (w.request text) hanswer
  refine ⟨_, body, submit_eq w mode htext hidle transport limit abortAfter, htells.unbroken, ?_,
    fun outcome houtcome ↦ ?_, hprogress, ?_, htold⟩
  · rw [requests_conclude, htells.requests, requests_calling_asked]
  · have hcalling :=
      undisturbed_calling (w.asked text) (w.flight limit abortAfter) (w.request text)
    have hasked : SameSettings w (w.asked text) := ⟨rfl⟩
    dsimp only at houtcome ⊢
    rw [houtcome, events_conclude, htells.events, houtcome, hcalling.events,
      (hasked.trans hcalling.sameSettings).closing, asked, events_revise, trace]
    simp [setGate, flight]
  · exact hlast.trans (congrArg some (quiet_conclude _ _ _).conversation.symm)

end World

end CitedChat
