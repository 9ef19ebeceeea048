import CitedChat.Proofs.Chat.Operation
import CitedChat.Proofs.Chat.Telling

/-!
Places for answers that stay empty. A turn that ends before anything of its answer came leaves its
place in the conversation, where nothing removes it, so that the requests of all later turns carry
it. A submission either gives its place what came of an answer, or a reply brings a whole transcript
(`World.conversation_submit`). Hence the empty places of a conversation can be counted along its
operations (`World.unanswered`), and a request carries as many of them as there are before its
question: its own place is not among them (`World.requests_unanswered`).
-/

set_option autoImplicit false

namespace CitedChat

/-! ### One turn -/

/-- Assembling an answer changes the last turn only. -/
theorem assembleWith_eq_ok {a : Assembler} {before : List Turn} {text : String}
    {sources : List Source} {payloads : List String} {result : Assembled}
    (hassemble : assembleWith a ⟨before ++ [.assistant text sources]⟩ payloads = .ok result) :
    ∃ answer cited, result.conversation = ⟨before ++ [.assistant answer cited]⟩ := by
  induction payloads generalizing a text sources with
  | nil =>
    cases hassemble
    exact ⟨text, sources, rfl⟩
  | cons raw rest ih =>
    have happly := Conversation.applyAll_appends before text sources _ (a.isAppend_of_feed raw)
    rw [assembleWith_cons happly] at hassemble
    split at hassemble
    · cases hassemble
      exact ⟨_, _, rfl⟩
    · exact ih hassemble

/-- The transcript that a turn with the given ending has adopted. -/
def Transport.transcript? (transport : Transport) (mode : Mode) (request : List Turn)
    (ending : Ending) : Option (List Turn) :=
  match mode, transport.exchange request, ending with
  | .batch, .ok (.transcript turns), .outcome .finished => some turns
  | _, _, _ => none

/-- Only a turn that is finished has adopted one. -/
theorem Transport.transcript?_eq_none {transport : Transport} {mode : Mode} {request : List Turn}
    {ending : Ending} (hending : ending ≠ .outcome .finished) :
    transport.transcript? mode request ending = none := by
  unfold transcript?
  split
  · exact absurd rfl hending
  · rfl

theorem Transport.exchange_of_transcript? (transport : Transport) {mode : Mode}
    {request turns : List Turn} {ending : Ending}
    (htranscript : transport.transcript? mode request ending = some turns) :
    transport.exchange request = .ok (.transcript turns) := by
  unfold transcript? at htranscript
  split at htranscript
  · next hexchange =>
    cases htranscript
    exact hexchange
  · cases htranscript

/-- A turn that asked something leaves the transcript that it adopted, or else the request and what
came of an answer to it. -/
def Conversation.Leaves (c : Conversation) (request : List Turn) : Option (List Turn) → Prop
  | some turns => c = ⟨turns⟩
  | none => ∃ answer cited, c = ⟨request ++ [.assistant answer cited]⟩

namespace World

variable {w : World} {request : List Turn}

theorem leaves_runStreaming (hwaits : w.conversation = ⟨request ++ [.placeholder]⟩) (f : Flight)
    (transport : Transport) :
    (w.runStreaming f transport request).1.conversation.Leaves request none := by
  have hanswer : w.conversation.EndsWithAnswer := ⟨request, "", [], hwaits⟩
  obtain ⟨result, hassemble, hconversation, -⟩ :=
    (runStreaming_follows f transport request hanswer).assembled
  rw [hwaits] at hassemble
  rw [hconversation]
  exact assembleWith_eq_ok hassemble

theorem leaves_adopt (hwaits : w.conversation = ⟨request ++ [.placeholder]⟩) (f : Flight)
    {transport : Transport} {reply : Reply} (hreply : transport.exchange request = .ok reply) :
    (w.adopt f reply).1.conversation.Leaves request
      (transport.transcript? .batch request (w.adopt f reply).2) := by
  cases reply with
  | transcript turns =>
    simp only [Transport.transcript?, hreply, adopt, replace]
    rfl
  | turn turn =>
    cases turn with
    | user text =>
      simp only [Transport.transcript?, hreply]
      exact ⟨"", [], hwaits⟩
    | assistant text sources =>
      rw [adopt_assistant hwaits]
      simp only [Transport.transcript?, hreply]
      exact ⟨text, sources, rfl⟩

theorem leaves_runBatch (hwaits : w.conversation = ⟨request ++ [.placeholder]⟩) (f : Flight)
    (transport : Transport) :
    (w.runBatch f transport request).1.conversation.Leaves request
      (transport.transcript? .batch request (w.runBatch f transport request).2) := by
  have hquiet := quiet_call w f transport.connect request
  have hfinished := call_ne_finished w f transport.connect request
  rw [runBatch_eq]
  rcases hcalled : w.call f transport.connect request with ⟨v, _ | ending⟩ <;>
    rw [hcalled] at hquiet hfinished <;> dsimp only at hquiet hfinished ⊢
  · cases hreply : transport.exchange request with
    | error error =>
      simp only [Transport.transcript?, hreply]
      exact ⟨"", [], hquiet.conversation.trans hwaits⟩
    | ok reply => exact leaves_adopt (hquiet.conversation.trans hwaits) f hreply
  · have hending : ending ≠ .outcome .finished := fun h ↦ hfinished (congrArg some h)
    rw [Transport.transcript?_eq_none hending]
    exact ⟨"", [], hquiet.conversation.trans hwaits⟩

/-- A turn that is accepted leaves a transcript adopted or what came of an answer. -/
theorem conversation_submit {mode : Mode} {text : String} {transport : Transport}
    {limit abortAfter : Option Nat} {ended : World × Ending}
    (hsubmit : w.submit mode text transport limit abortAfter = .ok ended) :
    ended.1.conversation.Leaves (w.request text)
      (transport.transcript? mode (w.request text) ended.2) := by
  obtain ⟨htext, hidle⟩ := accepted_of_submit hsubmit
  rw [submit_eq w mode htext hidle] at hsubmit
  cases hsubmit
  have hwaits := conversation_asked w text
  rw [(quiet_conclude _ _ _).conversation]
  cases mode with
  | streaming => exact leaves_runStreaming hwaits _ transport
  | batch => exact leaves_runBatch hwaits _ transport

/-! ### Empty places -/

/-- The empty places of a conversation after an operation, where there were so many before it. -/
def unanswered (w : World) (before : Nat) : Operation → Nat
  | .submit mode text transport limit abortAfter =>
    match w.attempt (mode.getD w.session.mode) text transport limit abortAfter with
    | .ok (v, ending) =>
      match ending.bind (transport.transcript? (mode.getD w.session.mode) (w.request text)) with
      | some turns => turns.count .placeholder
      | none => if v.conversation.last? = some .placeholder then before + 1 else before
    | .error _ => before
  | .clear => if w.session.gate.busy then before else 0
  | .setConversation c => if w.session.gate.busy then before else c.turns.count .placeholder
  | _ => before

/-- The same after operations in order. -/
def unansweredAll (w : World) (before : Nat) : List Operation → Nat
  | [] => before
  | operation :: rest => unansweredAll (w.operate operation) (w.unanswered before operation) rest

/-- The empty places of a conversation. -/
def places (w : World) : Nat :=
  w.conversation.turns.count .placeholder

theorem Quiet.places {v : World} (hquiet : Quiet w v) : v.places = w.places := by
  rw [World.places, hquiet.conversation, World.places]

theorem count_request (w : World) (text : String) :
    (w.request text).count .placeholder = w.places := by
  have hquestion : [Turn.user text].count .placeholder = 0 := rfl
  rw [request, List.count_append, hquestion, Nat.add_zero, places]

theorem places_submit {mode : Mode} {text : String} {transport : Transport}
    {limit abortAfter : Option Nat} {ended : World × Ending}
    (hsubmit : w.submit mode text transport limit abortAfter = .ok ended) :
    ended.1.places =
      match transport.transcript? mode (w.request text) ended.2 with
      | some turns => turns.count .placeholder
      | none =>
        if ended.1.conversation.last? = some .placeholder then w.places + 1 else w.places := by
  have hleaves := conversation_submit hsubmit
  cases htranscript : transport.transcript? mode (w.request text) ended.2 with
  | some turns =>
    rw [htranscript] at hleaves
    rw [places, show ended.1.conversation = ⟨turns⟩ from hleaves]
  | none =>
    rw [htranscript] at hleaves
    obtain ⟨answer, cited, hconversation⟩ := hleaves
    have hlast : ended.1.conversation.last? = some (.assistant answer cited) := by
      rw [hconversation]
      exact List.getLast?_concat
    have hcount : ended.1.places = w.places + [Turn.assistant answer cited].count .placeholder := by
      rw [places, hconversation, List.count_append, count_request]
    rw [hcount, hlast]
    by_cases hplace : Turn.assistant answer cited = .placeholder
    · rw [hplace]
      rfl
    · simp [hplace]

/-- A turn that breaks off leaves its own place empty. -/
theorem places_brokenOff (w : World) (text : String) :
    (w.asked text).leave.places =
      if (w.asked text).leave.conversation.last? = some .placeholder then w.places + 1
      else w.places := by
  have hleave := (undisturbed_leave (w.asked text)).quiet
  have hlast : (w.asked text).conversation.last? = some .placeholder := by
    rw [conversation_asked]
    exact List.getLast?_concat
  rw [hleave.conversation, if_pos hlast, hleave.places, places, conversation_asked,
    List.count_append, count_request]
  rfl

/-- The places are counted operation by operation. -/
theorem places_operate (w : World) (operation : Operation) :
    (w.operate operation).places = w.unanswered w.places operation := by
  cases operation with
  | submit mode text transport limit abortAfter =>
    rw [operate, unanswered]
    have hput := w.attempts (mode.getD w.session.mode) text transport limit abortAfter
    generalize w.attempt (mode.getD w.session.mode) text transport limit abortAfter = result
      at hput ⊢
    cases hput with
    | refused hsubmit => rfl
    | submitted hsubmit => exact places_submit hsubmit
    | brokenOff hbeyond htext hidle => exact places_brokenOff w text
  | giveUp => exact (undisturbed_leave w).quiet.places
  | abort => rfl
  | clear =>
    simp only [operate, unanswered, Session.clear, Session.setConversation]
    cases w.session.gate.busy <;> rfl
  | setConversation c =>
    simp only [operate, unanswered, Session.setConversation]
    cases w.session.gate.busy <;> rfl
  | setMode mode => rfl
  | setTimeout timeout => rfl
  | awaitIdle ms =>
    rw [operate, awaitIdle]
    split <;> rfl
  | watch =>
    have hwatch : Undisturbed w w.watch := ⟨rfl, rfl⟩
    exact (hwatch.trans (undisturbed_wake w.watch)).quiet.places

theorem places_operateAll (w : World) (operations : List Operation) :
    (w.operateAll operations).places = w.unansweredAll w.places operations := by
  induction operations generalizing w with
  | nil => rfl
  | cons operation rest ih =>
    show ((w.operate operation).operateAll rest).places = _
    rw [ih, places_operate, unansweredAll]

/-! ### Requests -/

theorem requests_wake (w : World) : w.wake.requests = w.requests := by
  rw [wake]
  split <;> rfl

/-- A question makes one request at most, and nothing else makes any. -/
theorem mem_requests_operate {operation : Operation} {request : List Turn}
    (hmem : request ∈ (w.operate operation).requests) :
    request ∈ w.requests ∨ ∃ mode text transport limit abortAfter,
      operation = .submit mode text transport limit abortAfter ∧ request = w.request text := by
  cases operation with
  | submit mode text transport limit abortAfter =>
    rw [operate] at hmem
    have hput := w.attempts (mode.getD w.session.mode) text transport limit abortAfter
    generalize w.attempt (mode.getD w.session.mode) text transport limit abortAfter = result
      at hput hmem
    cases hput with
    | refused hsubmit => exact .inl hmem
    | submitted hsubmit =>
      obtain ⟨htext, hidle⟩ := accepted_of_submit hsubmit
      obtain ⟨same, body, hsame, -, hrequests, -⟩ :=
        w.submit_tells htext hidle (mode.getD w.session.mode) transport limit abortAfter
      obtain rfl := Except.ok.inj (hsubmit.symm.trans hsame)
      dsimp only at hmem hrequests
      rw [hrequests] at hmem
      split at hmem
      · exact .inl hmem
      · obtain hmem | rfl := Array.mem_push.1 hmem
        · exact .inl hmem
        · exact .inr ⟨mode, text, transport, limit, abortAfter, rfl, rfl⟩
    | brokenOff hbeyond htext hidle =>
      dsimp only at hmem
      rw [leave, requests_wake] at hmem
      exact .inl hmem
  | giveUp =>
    rw [operate, leave, requests_wake] at hmem
    exact .inl hmem
  | clear =>
    rw [operate] at hmem
    split at hmem <;> exact .inl hmem
  | setConversation c =>
    rw [operate] at hmem
    split at hmem <;> exact .inl hmem
  | awaitIdle ms =>
    rw [operate, awaitIdle] at hmem
    split at hmem <;> exact .inl hmem
  | watch =>
    rw [operate, requests_wake] at hmem
    exact .inl hmem
  | _ => exact .inl hmem

theorem mem_requests_operateAll {operations : List Operation} {request : List Turn}
    (hmem : request ∈ (w.operateAll operations).requests) :
    request ∈ w.requests ∨ ∃ before mode text transport limit abortAfter after,
      operations = before ++ .submit mode text transport limit abortAfter :: after ∧
        request = (w.operateAll before).request text := by
  induction operations generalizing w with
  | nil => exact .inl hmem
  | cons operation rest ih =>
    obtain hmade | ⟨before, mode, text, transport, limit, abortAfter, after, rfl, hrequest⟩ :=
      ih hmem
    · obtain hmade | ⟨mode, text, transport, limit, abortAfter, rfl, hrequest⟩ :=
        mem_requests_operate hmade
      · exact .inl hmade
      · exact .inr ⟨[], mode, text, transport, limit, abortAfter, rest, rfl, hrequest⟩
    · exact .inr ⟨operation :: before, mode, text, transport, limit, abortAfter, after, rfl,
        hrequest⟩

/-- The operation brings no empty place about: a turn leaves an answer, and a transcript has
none. -/
def Answers (w : World) : Operation → Prop
  | .submit mode text transport limit abortAfter =>
    (∀ turns, transport.exchange (w.request text) = .ok (.transcript turns) →
      .placeholder ∉ turns) ∧
    ∀ v ending,
      w.attempt (mode.getD w.session.mode) text transport limit abortAfter = .ok (v, ending) →
        v.conversation.last? ≠ some .placeholder
  | .setConversation c => .placeholder ∉ c.turns
  | _ => True

/-- So do operations in order. -/
def AnswersAll (w : World) : List Operation → Prop
  | [] => True
  | operation :: rest => w.Answers operation ∧ AnswersAll (w.operate operation) rest

theorem unanswered_of_answers {operation : Operation} (hanswers : w.Answers operation) :
    w.unanswered 0 operation = 0 := by
  cases operation with
  | submit mode text transport limit abortAfter =>
    obtain ⟨hfilled, hlast⟩ := hanswers
    rw [unanswered]
    rcases hput : w.attempt (mode.getD w.session.mode) text transport limit abortAfter with
      error | ⟨v, ending⟩
    · rfl
    · dsimp only
      split
      · next turns htranscript =>
        obtain ⟨ended, -, htranscript⟩ := Option.bind_eq_some_iff.1 htranscript
        have hexchange := transport.exchange_of_transcript? htranscript
        exact List.count_eq_zero.2 (hfilled turns hexchange)
      · exact if_neg (hlast v ending hput)
  | clear =>
    rw [unanswered]
    split <;> rfl
  | setConversation c =>
    rw [unanswered]
    split
    · rfl
    · exact List.count_eq_zero.2 hanswers
  | _ => rfl

theorem unansweredAll_of_answersAll {operations : List Operation}
    (hanswers : w.AnswersAll operations) : w.unansweredAll 0 operations = 0 := by
  induction operations generalizing w with
  | nil => rfl
  | cons operation rest ih =>
    obtain ⟨hfirst, hrest⟩ := hanswers
    rw [unansweredAll, unanswered_of_answers hfirst]
    exact ih hrest

/-- A request of a session that starts empty is the conversation before its question, and the
question; the place for its own answer is not in it. But it has all the places that earlier turns
left empty since a whole conversation was put in place, so that it has none if all were answered. -/
theorem requests_unanswered {start : World} (hempty : start.conversation = {})
    (hfresh : start.requests = #[]) (operations : List Operation) :
    ∀ request ∈ (start.operateAll operations).requests,
      ∃ before mode text transport limit abortAfter after,
        operations = before ++ .submit mode text transport limit abortAfter :: after ∧
        request = (start.operateAll before).conversation.turns ++ [.user text] ∧
        request.count .placeholder = start.unansweredAll 0 before ∧
        (start.AnswersAll before → .placeholder ∉ request) := by
  intro request hmem
  obtain hold | ⟨before, mode, text, transport, limit, abortAfter, after, hoperations, rfl⟩ :=
    mem_requests_operateAll hmem
  · simp [hfresh] at hold
  · have hcount : ((start.operateAll before).request text).count .placeholder =
        start.unansweredAll 0 before := by
      have hnone : start.places = 0 := by
        rw [places, hempty]
        rfl
      rw [count_request, places_operateAll, hnone]
    refine ⟨before, mode, text, transport, limit, abortAfter, after, hoperations, rfl, hcount,
      fun hanswers ↦ ?_⟩
    rw [unansweredAll_of_answersAll hanswers] at hcount
    exact List.count_eq_zero.1 hcount

/-- A question that was not answered leaves an empty place in the request of the next one. -/
theorem requests_unanswered_closed :
    let answering : Transport :=
      { stream := fun _ ↦ .ok []
        exchange := fun _ ↦ .ok (.turn (.assistant "a" [])) }
    let operations : List Operation :=
      [.submit (some .batch) "hi" answering none none, .submit none "well" answering none none,
        .submit none "now" answering none none]
    let request : List Turn :=
      [.user "hi", .assistant "a" [], .user "well", .placeholder, .user "now"]
    ({} : World).conversation = {} ∧ ({} : World).requests = #[] ∧
      request ∈ (({} : World).operateAll operations).requests ∧ request.count .placeholder = 1 ∧
      ∃ before after, operations = before ++ after ∧ ({} : World).unansweredAll 0 before = 1 := by
  intro answering operations request
  have hmade : request ∈ (({} : World).operateAll operations).requests := by
    have hrequests : (({} : World).operateAll operations).requests =
        #[[.user "hi"], [.user "hi", .assistant "a" [], .user "well"], request] := rfl
    simp [hrequests]
  obtain ⟨before, mode, text, transport, limit, abortAfter, after, hoperations, -, hcount, -⟩ :=
    requests_unanswered rfl rfl operations request hmade
  exact ⟨rfl, rfl, hmade, rfl, before, _, hoperations, hcount.symm⟩

/-- After a transport that failed the next request has the empty place of its answer. -/
theorem request_carries_placeholder :
    let failing : Transport :=
      { stream := fun _ ↦ .ok [.fail (.sse "reset")]
        exchange := fun _ ↦ .error (.http "closed") }
    let operations : List Operation :=
      [.submit none "hi" failing none none, .submit none "again" failing none none]
    ∃ request ∈ (({} : World).operateAll operations).requests,
      request = [.user "hi", .assistant "" [], .user "again"] ∧ .assistant "" [] ∈ request := by
  intro failing operations
  have hrequests : (({} : World).operateAll operations).requests =
      #[[.user "hi"], [.user "hi", .assistant "" [], .user "again"]] := rfl
  rw [hrequests]
  simp

end World

end CitedChat
