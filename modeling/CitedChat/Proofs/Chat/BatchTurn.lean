import CitedChat.Proofs.Chat.Listening

/-!
A batch turn calls its transport (`World.call`) and, unless something ends it there, adopts the one
reply it gets (`runBatch_eq`). The call itself leaves the conversation alone, and an answering turn
is adopted in the place of its answer (`adopt_assistant`).
-/

set_option autoImplicit false

namespace CitedChat

namespace World

/-- Calls the transport of a batch turn, up to the moment at which the reply is asked for; tells how
the turn ended before, if it did. -/
def call (w : World) (f : Flight) (acts : List Act) (request : List Turn) : World × Option Ending :=
  match w.interrupt? f with
  | some i => ((w.interrupted f i).1, some (w.interrupted f i).2)
  | none =>
    match performAll { w with requests := w.requests.push request } f acts with
    | (v, some i) => ((v.interrupted f i).1, some (v.interrupted f i).2)
    | (v, none) =>
      (v, if v.session.gate.isStale f.permit then some (.outcome .cancelled) else none)

/-- A batch turn is a call and, if that does not end it, the adoption of the reply. -/
theorem runBatch_eq (w : World) (f : Flight) (transport : Transport) (request : List Turn) :
    w.runBatch f transport request =
      match w.call f transport.connect request with
      | (v, some ending) => (v, ending)
      | (v, none) =>
        match transport.exchange request with
        | .error error => v.failed error
        | .ok reply => v.adopt f reply := by
  rw [runBatch, call]
  cases w.interrupt? f with
  | some i => rfl
  | none =>
    dsimp only
    rcases performAll { w with requests := w.requests.push request } f transport.connect
      with ⟨v, _ | i⟩
    · cases hstale : v.session.gate.isStale f.permit with
      | true => simp only [hstale, if_true]
      | false => simp only [hstale]; rfl
    · rfl

/-- A call changes at most the gate of the session, and tells subscribers no conversation. -/
theorem sameSettings_call (w : World) (f : Flight) (acts : List Act) (request : List Turn) :
    SameSettings w (w.call f acts request).1 ∧ Quiet w (w.call f acts request).1 := by
  have hcall := undisturbed_performAll { w with requests := w.requests.push request } f acts
  have hasking := undisturbed_asking w request
  rw [call]
  cases w.interrupt? f with
  | some i => exact ⟨sameSettings_interrupted w f i, quiet_interrupted w f i⟩
  | none =>
    dsimp only
    rcases hacts : performAll { w with requests := w.requests.push request } f acts
      with ⟨v, _ | i⟩
    · rw [hacts] at hcall
      exact ⟨(hasking.trans hcall).sameSettings, (hasking.trans hcall).quiet⟩
    · rw [hacts] at hcall
      exact ⟨(hasking.trans hcall).sameSettings.trans (sameSettings_interrupted v f i),
        (hasking.trans hcall).quiet.trans (quiet_interrupted v f i)⟩

theorem quiet_call (w : World) (f : Flight) (acts : List Act) (request : List Turn) :
    Quiet w (w.call f acts request).1 :=
  (sameSettings_call w f acts request).2

theorem interrupted_ne_finished (w : World) (f : Flight) (i : Interrupt) :
    (w.interrupted f i).2 ≠ .outcome .finished := by
  cases i <;> exact fun h ↦ by cases h

/-- What ends a batch turn before its reply comes does not finish it. -/
theorem call_ne_finished (w : World) (f : Flight) (acts : List Act) (request : List Turn) :
    (w.call f acts request).2 ≠ some (.outcome .finished) := by
  rw [call]
  cases w.interrupt? f with
  | some i => exact fun h ↦ interrupted_ne_finished w f i (Option.some.inj h)
  | none =>
    dsimp only
    rcases performAll { w with requests := w.requests.push request } f acts with ⟨v, _ | i⟩
    · dsimp only
      split <;> exact fun h ↦ by cases h
    · exact fun h ↦ interrupted_ne_finished v f i (Option.some.inj h)

/-- Nothing ends a batch turn that asks a question now before its reply comes. -/
def Awaits (w : World) (text : String) (transport : Transport) (limit abortAfter : Option Nat) :
    Prop :=
  ((w.asked text).call (w.flight limit abortAfter) transport.connect (w.request text)).2 = none

theorem awaits_of_isPlain (w : World) (text : String) {transport : Transport}
    (hplain : transport.IsPlain) (htimeout : w.session.timeout = none) :
    w.Awaits text transport none none := by
  have hundated := undated_asked w text htimeout
  have hasking : Undated
      { w.asked text with requests := (w.asked text).requests.push (w.request text) }
      (w.flight none none) := hundated.of_gate rfl
  obtain ⟨hend, hcalled⟩ := hasking.performAll hplain
  rw [Awaits, call, hundated.interrupt?]
  dsimp only
  rcases hacts : performAll
    { w.asked text with requests := (w.asked text).requests.push (w.request text) }
    (w.flight none none) transport.connect with ⟨v, _ | i⟩
  · rw [hacts] at hcalled
    dsimp only
    rw [hcalled.stale]
    rfl
  · rw [hacts] at hend
    exact absurd hend (by simp)

/-! ### Adopting an answer -/

theorem isAppend_answerActions (text : String) (sources : List Source) :
    ∀ action ∈ answerActions text sources, action.IsAppend := by
  intro action hmem
  rw [answerActions, List.mem_append, List.mem_map] at hmem
  obtain htext | ⟨source, -, rfl⟩ := hmem
  · split at htext
    · cases htext
    · rw [List.mem_singleton.1 htext]
      trivial
  · trivial

theorem cited_map_appendSource (sources : List Source) :
    Action.cited (sources.map .appendSource) = sources ∧
      Action.joined (sources.map .appendSource) = "" := by
  induction sources with
  | nil => exact ⟨rfl, rfl⟩
  | cons source rest ih => exact ⟨congrArg (source :: ·) ih.1, ih.2⟩

/-- The actions for an answer append it as it is. -/
theorem applyAll_answerActions (before : List Turn) (text answer : String)
    (cited sources : List Source) :
    Conversation.applyAll ⟨before ++ [.assistant text cited]⟩ (answerActions answer sources) =
      .ok ⟨before ++ [.assistant (text ++ answer) (cited ++ sources)]⟩ := by
  have hjoined : Action.joined (answerActions answer sources) = answer := by
    rw [answerActions]
    by_cases hempty : answer = ""
    · simp [hempty, cited_map_appendSource]
    · simp [hempty, Action.joined, cited_map_appendSource]
  have hcited : Action.cited (answerActions answer sources) = sources := by
    rw [answerActions]
    by_cases hempty : answer = ""
    · simp [hempty, cited_map_appendSource]
    · simp [hempty, Action.cited, cited_map_appendSource]
  rw [Conversation.applyAll_appends _ _ _ _ (isAppend_answerActions answer sources), hjoined,
    hcited]

/-- An answering turn is adopted in the place of its answer. -/
theorem adopt_assistant {w : World} {before : List Turn}
    (hwaits : w.conversation = ⟨before ++ [.placeholder]⟩) (f : Flight) (answer : String)
    (sources : List Source) :
    w.adopt f (.turn (.assistant answer sources)) =
      w.replace f ⟨before ++ [.assistant answer sources]⟩ := by
  have happly := applyAll_answerActions before "" answer [] sources
  rw [String.empty_append, List.nil_append] at happly
  rw [adopt, hwaits, Turn.placeholder, happly]

theorem snapshots_replace (w : World) (f : Flight) (c : Conversation) :
    (w.replace f c).1.snapshots = w.snapshots ++ [c] := by
  rw [replace, publish, snapshots_emit]
  rfl

/-- The sources before an answer are those of the conversation. -/
theorem sourceCount_request (w : World) (text : String) :
    sourceCount (w.request text) = w.conversation.sourceCount := by
  rw [request, sourceCount_append]
  rfl

theorem conversation_asked (w : World) (text : String) :
    (w.asked text).conversation = ⟨w.request text ++ [.placeholder]⟩ := by
  rw [asked, conversation_revise, Conversation.ask, request, List.append_assoc]
  rfl

end World

end CitedChat
