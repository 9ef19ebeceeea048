import CitedChat.Proofs.Chat.Telling

/-!
The trace of a submission. Whatever the mode, the transport's script and the way the turn ends,
subscribers are told its `World.trace`: the start of the turn, the conversation with the question,
progress, how the turn ended, and its end. Everything in it is tagged with the generation that the
submission claimed, as far as it is tagged (`generation?_trace`); the snapshots and complaints of a
streamed turn are those of its payloads (`trace_streamed`); and nothing in it is terminal but the
end of the turn and, right before that, the error of a transport that failed (`trace_eq_failure`).
-/

set_option autoImplicit false

namespace CitedChat

/-- The generation that an event is tagged with. -/
def Event.generation? : Event → Option Nat
  | .turnStart generation | .updated generation _ | .decodeError generation _ |
    .warning generation _ | .turnEnd generation _ => some generation
  | .error _ => none

namespace World

variable {f : Flight} {body : List Event}

/-! ### Generations -/

theorem generation?_progress {generation : Nat} {event : Event}
    (hprogress : event.IsProgress generation) : event.generation? = some generation := by
  cases event with
  | updated tagged c => exact congrArg some hprogress
  | decodeError tagged message => exact congrArg some hprogress
  | _ => exact hprogress.elim

theorem generation?_closing (w : World) (f : Flight) (refused : Bool) (ending : Ending) :
    ∀ event ∈ w.closing f refused ending, ∀ generation, event.generation? = some generation →
      generation = f.permit.generation := by
  intro event hmem generation hgeneration
  have hsame : event.generation? = some f.permit.generation ∨ event.generation? = none := by
    simp only [closing] at hmem
    grind [Event.generation?]
  obtain hsame | hsame := hsame
  · exact Option.some.inj (hgeneration.symm.trans hsame)
  · rw [hsame] at hgeneration
    cases hgeneration

/-- Every event of a trace that is tagged is tagged with the generation of the submission. -/
theorem generation?_trace (w : World) (text : String) (refused : Bool)
    (hprogress : ∀ event ∈ body, event.IsProgress f.permit.generation) (outcome : Outcome) :
    ∀ event ∈ w.trace f text refused body outcome, ∀ generation,
      event.generation? = some generation → generation = f.permit.generation := by
  intro event hmem generation hgeneration
  simp only [trace, List.mem_cons, List.mem_append, List.not_mem_nil, or_false] at hmem
  obtain rfl | rfl | (hmem | hmem) | rfl := hmem
  · exact (Option.some.inj hgeneration).symm
  · exact (Option.some.inj hgeneration).symm
  · have htagged := generation?_progress (hprogress event hmem)
    exact Option.some.inj (hgeneration.symm.trans htagged)
  · exact generation?_closing w f refused _ event hmem generation hgeneration
  · exact (Option.some.inj hgeneration).symm

/-! ### Snapshots and complaints -/

theorem snapshots_closing (w : World) (f : Flight) (refused : Bool) (ending : Ending) :
    (w.closing f refused ending).filterMap Event.snapshot? = [] := by
  simp only [closing]
  grind [Event.snapshot?]

theorem snapshots_trace (w : World) (f : Flight) (text : String) (refused : Bool)
    (body : List Event) (outcome : Outcome) :
    (w.trace f text refused body outcome).filterMap Event.snapshot? =
      w.conversation.ask text :: body.filterMap Event.snapshot? := by
  rw [trace, List.filterMap_cons, List.filterMap_cons, List.filterMap_append,
    List.filterMap_append, snapshots_closing]
  simp [Event.snapshot?]

/-- A trace complains of the payloads of its body, unless a reply is refused. -/
theorem complaints_trace (w : World) (f : Flight) (text : String) (body : List Event)
    (outcome : Outcome) :
    (w.trace f text false body outcome).filterMap Event.complaint? =
      body.filterMap Event.complaint? := by
  have hclosing : (w.closing f false (.outcome outcome)).filterMap Event.complaint? = [] := by
    cases outcome <;> rfl
  rw [trace, List.filterMap_cons, List.filterMap_cons, List.filterMap_append,
    List.filterMap_append, hclosing]
  simp [Event.complaint?]

/-- In the trace of a streamed turn each snapshot has more in its last turn than the one before, and
there is one complaint for each payload that is refused, of which there is at most one under the
policy that halts. -/
theorem trace_streamed (w : World) (f : Flight) (text : String) (payloads : List String)
    (outcome : Outcome) :
    let told := w.trace f text false
      ((w.asked text).assembler.told f (w.conversation.ask text) payloads) outcome
    (told.filterMap Event.snapshot?).IsChain Conversation.Grows ∧
      told.filterMap Event.complaint? =
        ((w.asked text).assembler.refusals payloads).map DecodeError.message ∧
      (w.session.policy = .halt → (told.filterMap Event.complaint?).length ≤ 1) := by
  intro told
  have hanswer : (w.conversation.ask text).EndsWithAnswer :=
    Conversation.endsWithAnswer_ask w.conversation text
  have hcomplaints : told.filterMap Event.complaint? =
      ((w.asked text).assembler.refusals payloads).map DecodeError.message := by
    rw [complaints_trace, Assembler.complaints_told f _ hanswer]
  refine ⟨?_, hcomplaints, fun hhalt ↦ ?_⟩
  · rw [snapshots_trace, Assembler.snapshots_told]
    exact (w.asked text).assembler.isChain_reached hanswer payloads
  · have hpolicy : (w.asked text).assembler.policy = .halt := hhalt
    rw [hcomplaints, List.length_map]
    exact Assembler.length_refusals_le_one hpolicy payloads

/-- The trace of a submission. Whatever the mode, the transport's script and the way the turn ends,
subscribers are told the start of the turn, the conversation with the question, then snapshots and
complaints only, how the turn ended, and the end of the turn, all of it tagged with the generation
that the submission claimed. The last snapshot is the conversation that is left. In a streamed turn
each snapshot has more in its last turn than the one before, and there is one complaint for each
payload refused. The transport is called once, with the turns before and the question, unless the
turn may take no time at all. -/
theorem submit_trace (w : World) {text : String} (htext : Text.isBlankText text = false)
    (hidle : w.session.gate.busy = false) (mode : Mode) (transport : Transport)
    (limit abortAfter : Option Nat) :
    let f := w.flight limit abortAfter
    let g := w.session.gate.nextPermit.generation
    let refused := transport.refuses mode (w.request text)
    ∃ ended,
      w.submit mode text transport limit abortAfter = .ok ended ∧
      (∀ error, ended.2 ≠ .broken error) ∧
      ended.1.requests =
        (if w.session.timeout = some 0 then w.requests else w.requests.push (w.request text)) ∧
      ∀ outcome, ended.2 = .outcome outcome → ∃ body,
        let told := .turnStart g :: .updated g (w.conversation.ask text) ::
          (body ++ w.closing f refused (.outcome outcome) ++ [.turnEnd g outcome])
        ended.1.events = w.events ++ told.toArray ∧
        (∀ event ∈ body, event.IsProgress g) ∧
        (∀ event ∈ told, ∀ generation, event.generation? = some generation → generation = g) ∧
        (told.filterMap Event.snapshot?).getLast? = some ended.1.conversation ∧
        (mode = .streaming →
          (told.filterMap Event.snapshot?).IsChain Conversation.Grows ∧
          told.filterMap Event.complaint? =
            ((w.asked text).assembler.refusals
              (w.heard text transport limit abortAfter).payloads).map DecodeError.message ∧
          (w.session.policy = .halt → (told.filterMap Event.complaint?).length ≤ 1)) := by
  intro f g refused
  obtain ⟨ended, body, hsubmit, hunbroken, hrequests, hevents, hprogress, hlast, htold⟩ :=
    submit_tells w htext hidle mode transport limit abortAfter
  refine ⟨ended, hsubmit, hunbroken, hrequests, fun outcome houtcome ↦
    ⟨body, hevents outcome houtcome, hprogress,
      generation?_trace w text refused hprogress outcome, ?_, fun hstreaming ↦ ?_⟩⟩
  · exact (congrArg List.getLast? (snapshots_trace w f text refused body outcome)).trans hlast
  · subst hstreaming
    rw [htold rfl]
    exact trace_streamed w f text _ outcome

/-- A transport that fails at once. -/
theorem submit_trace_failure :
    let transport : Transport :=
      { stream := fun _ ↦ .ok [.fail (.sse "reset")]
        exchange := fun _ ↦ .error (.http "closed") }
    Text.isBlankText "hi" = false ∧ ({} : World).session.gate.busy = false ∧
      ∃ ended body,
        ({} : World).submit .streaming "hi" transport = .ok ended ∧
        ended.2 = .outcome (.failed "SSE error: reset") ∧
        ended.1.requests = #[[.user "hi"]] ∧
        let told := .turnStart 1 :: .updated 1 ⟨[.user "hi", .placeholder]⟩ ::
          (body ++ [.error "SSE error: reset"] ++ [.turnEnd 1 (.failed "SSE error: reset")])
        ended.1.events = #[] ++ told.toArray ∧ told.filterMap Event.complaint? = [] := by
  intro transport
  have htext : Text.isBlankText "hi" = false := by decide
  obtain ⟨ended, hsubmit, -, hrequests, htrace⟩ :=
    submit_trace {} htext rfl .streaming transport none none
  have hended : ended.2 = .outcome (.failed "SSE error: reset") := by
    have hran := hsubmit.symm.trans (submit_eq {} .streaming htext rfl transport none none)
    exact congrArg Prod.snd (Except.ok.inj hran)
  obtain ⟨body, hevents, -, -, -, hstreaming⟩ := htrace _ hended
  obtain ⟨-, hcomplaints, -⟩ := hstreaming rfl
  exact ⟨htext, rfl, ended, body, hsubmit, hended, hrequests, hevents, hcomplaints⟩

/-! ### Terminal events -/

/-- The error that subscribers are told of a transport that failed. -/
def failure (refused : Bool) : Outcome → List Event
  | .failed detail => if refused then [] else [.error detail]
  | _ => []

theorem failure_eq_nil_iff (refused : Bool) (outcome : Outcome) :
    failure refused outcome = [] ↔ ∀ detail, outcome = .failed detail → refused = true := by
  cases outcome with
  | failed detail => cases refused <;> simp [failure]
  | _ => simp [failure]

theorem filter_isTerminal_failure (refused : Bool) (outcome : Outcome) :
    (failure refused outcome).filter Event.isTerminal = failure refused outcome := by
  cases outcome with
  | failed detail => cases refused <;> rfl
  | _ => rfl

/-- What is told of how a turn ended is terminal where the transport failed, and else not. -/
theorem closing_eq_failure (w : World) (f : Flight) (refused : Bool) (outcome : Outcome) :
    ∃ before, (∀ event ∈ before, event.isTerminal = false) ∧
      w.closing f refused (.outcome outcome) = before ++ failure refused outcome := by
  cases outcome with
  | failed detail =>
    cases refused with
    | true => exact ⟨_, List.forall_mem_singleton.2 rfl, (List.append_nil _).symm⟩
    | false => exact ⟨[], nofun, rfl⟩
  | finished => exact ⟨[], nofun, rfl⟩
  | cancelled => exact ⟨[], nofun, rfl⟩
  | incomplete => exact ⟨_, List.forall_mem_singleton.2 rfl, (List.append_nil _).symm⟩
  | timedOut => exact ⟨_, List.forall_mem_singleton.2 rfl, (List.append_nil _).symm⟩
  | halted => exact ⟨_, List.forall_mem_singleton.2 rfl, (List.append_nil _).symm⟩

theorem isTerminal_progress {generation : Nat} {event : Event}
    (hprogress : event.IsProgress generation) : event.isTerminal = false := by
  cases event with
  | turnEnd tagged outcome => exact hprogress.elim
  | error message => exact hprogress.elim
  | _ => rfl

/-- Up to the error of a transport that failed, or else up to the end of the turn, nothing that a
trace tells is terminal. -/
theorem trace_eq_failure (w : World) (text : String) (refused : Bool)
    (hprogress : ∀ event ∈ body, event.IsProgress f.permit.generation) (outcome : Outcome) :
    ∃ before, (∀ event ∈ before, event.isTerminal = false) ∧
      w.trace f text refused body outcome =
        before ++ failure refused outcome ++ [.turnEnd f.permit.generation outcome] := by
  obtain ⟨before, hbefore, hclosing⟩ := closing_eq_failure w f refused outcome
  refine ⟨.turnStart f.permit.generation ::
    .updated f.permit.generation (w.conversation.ask text) :: (body ++ before), ?_, ?_⟩
  · intro event hmem
    simp only [List.mem_cons, List.mem_append] at hmem
    obtain rfl | rfl | hmem | hmem := hmem
    · rfl
    · rfl
    · exact isTerminal_progress (hprogress event hmem)
    · exact hbefore event hmem
  · rw [trace, hclosing]
    simp

/-- The terminal events of a submission. The end of the turn is the last event, and terminal. Before
it nothing is terminal but the error of a transport that failed, which comes right before it; so the
end of the turn is the one terminal event exactly of those turns that do not end in such an
error. -/
theorem submit_terminal (w : World) {text : String} (htext : Text.isBlankText text = false)
    (hidle : w.session.gate.busy = false) (mode : Mode) (transport : Transport)
    (limit abortAfter : Option Nat) :
    let g := w.session.gate.nextPermit.generation
    let refused := transport.refuses mode (w.request text)
    ∃ ended,
      w.submit mode text transport limit abortAfter = .ok ended ∧
      (∀ error, ended.2 ≠ .broken error) ∧
      ∀ outcome, ended.2 = .outcome outcome → ∃ before,
        let told := before ++ failure refused outcome ++ [Event.turnEnd g outcome]
        ended.1.events = w.events ++ told.toArray ∧
        (∀ event ∈ before, event.isTerminal = false) ∧
        told.filter Event.isTerminal = failure refused outcome ++ [.turnEnd g outcome] ∧
        ((told.filter Event.isTerminal).length = 1 ↔
          ∀ detail, outcome = .failed detail → refused = true) := by
  intro g refused
  obtain ⟨ended, body, hsubmit, hunbroken, -, hevents, hprogress, -⟩ :=
    submit_tells w htext hidle mode transport limit abortAfter
  refine ⟨ended, hsubmit, hunbroken, fun outcome houtcome ↦ ?_⟩
  obtain ⟨before, hbefore, htrace⟩ := trace_eq_failure w text refused hprogress outcome
  have hterminal : (before ++ failure refused outcome ++ [Event.turnEnd g outcome]).filter
      Event.isTerminal = failure refused outcome ++ [.turnEnd g outcome] := by
    have hnone : before.filter Event.isTerminal = [] := by
      simpa [List.filter_eq_nil_iff] using hbefore
    rw [List.filter_append, List.filter_append, hnone, filter_isTerminal_failure, List.nil_append]
    rfl
  refine ⟨before, ?_, hbefore, hterminal, ?_⟩
  · rw [hevents outcome houtcome]
    exact congrArg (fun told ↦ w.events ++ told.toArray) htrace
  · rw [hterminal, List.length_append, List.length_singleton, Nat.add_eq_right,
      List.length_eq_zero_iff]
    exact failure_eq_nil_iff refused outcome

/-- A stream that ends at once has one terminal event. -/
theorem submit_terminal_closed :
    let transport : Transport :=
      { stream := fun _ ↦ .ok []
        exchange := fun _ ↦ .error (.http "closed") }
    Text.isBlankText "hi" = false ∧ ({} : World).session.gate.busy = false ∧
      ∃ ended before,
        ({} : World).submit .streaming "hi" transport = .ok ended ∧
        ended.2 = .outcome .incomplete ∧
        ended.1.events = #[] ++ (before ++ [Event.turnEnd 1 .incomplete]).toArray ∧
        ∀ event ∈ before, event.isTerminal = false := by
  intro transport
  have htext : Text.isBlankText "hi" = false := by decide
  obtain ⟨ended, hsubmit, -, hterminal⟩ :=
    submit_terminal {} htext rfl .streaming transport none none
  have hended : ended.2 = .outcome .incomplete := by
    have hran := hsubmit.symm.trans (submit_eq {} .streaming htext rfl transport none none)
    exact congrArg Prod.snd (Except.ok.inj hran)
  obtain ⟨before, hevents, hbefore, -⟩ := hterminal _ hended
  have hnone : failure (transport.refuses .streaming (({} : World).request "hi")) .incomplete =
      [] := rfl
  rw [hnone, List.append_nil] at hevents
  exact ⟨htext, rfl, ended, before, hsubmit, hended, hevents, hbefore⟩

/-- A transport that fails makes for two terminal events, the first of which does not tell that the
turn is over. -/
theorem failure_told_before_end :
    let transport : Transport :=
      { stream := fun _ ↦ .ok [.fail (.sse "reset")]
        exchange := fun _ ↦ .error (.http "closed") }
    ∃ ended,
      ({} : World).submit .streaming "hi" transport = .ok ended ∧
      ended.2 = .outcome (.failed "SSE error: reset") ∧
      ended.1.events.toList.filter Event.isTerminal =
        [.error "SSE error: reset", .turnEnd 1 (.failed "SSE error: reset")] := by
  intro transport
  have htext : Text.isBlankText "hi" = false := by decide
  exact ⟨_, submit_eq {} .streaming htext rfl transport none none, rfl, rfl⟩

end World

end CitedChat
