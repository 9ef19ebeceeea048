import CitedChat.Proofs.Chat.Operation
import CitedChat.Proofs.Chat.Timetable
import CitedChat.Proofs.Chat.Trace

/-!
The deadline of a turn. While nobody aborts it, a turn takes in what its transport delivers before
the deadline and nothing else (`World.Cut`): it ends where one of these deliveries ends it, and if
none does, then at the deadline, with what it has. What carries this through waits, payloads and the
call alike is that the transport is never asked once the deadline is over (`World.OnTime`), so that
a wait is the only thing that a deadline can end (`World.OnTime.perform`). This is said of deadlines
that the clock can name; a turn with a later one breaks off when it has begun
(`World.attempt_deadline`).
-/

set_option autoImplicit false

namespace CitedChat

/-- The message of a warning. -/
def Event.warning? : Event → Option String
  | .warning _ message => some message
  | _ => none

/-- What ends a turn that nobody aborts and that nothing which is delivered ends. -/
def Flight.expiry (f : Flight) : Interrupt :=
  if f.deadline.isSome then .deadline else .limit

namespace World

variable {u v w : World} {f g : Flight} {text : String}

/-! ### Worlds in which the same was told -/

/-- The same conversation, and the same was told; clock, gate and settings may differ. -/
structure Alike (u w : World) : Prop where
  conversation : w.conversation = u.conversation
  events : w.events = u.events

namespace Alike

theorem refl (w : World) : Alike w w :=
  ⟨rfl, rfl⟩

theorem symm (h : Alike u w) : Alike w u :=
  ⟨h.conversation.symm, h.events.symm⟩

theorem trans (hfirst : Alike u v) (hsecond : Alike v w) : Alike u w :=
  ⟨hsecond.conversation.trans hfirst.conversation, hsecond.events.trans hfirst.events⟩

theorem revise (h : Alike u w) (c : Conversation) (events : List Event) :
    Alike (u.revise c events) (w.revise c events) :=
  ⟨rfl, by rw [events_revise, events_revise, h.events]⟩

theorem emit (h : Alike u w) (event : Event) : Alike (u.emit event) (w.emit event) :=
  ⟨h.conversation, by rw [events_emit, events_emit, h.events]⟩

theorem replace (h : Alike u w) (c : Conversation) :
    Alike (u.replace f c).1 (w.replace f c).1 :=
  ⟨rfl, congrArg (Array.push · _) h.events⟩

theorem adopt (h : Alike u w) (reply : Reply) :
    Alike (u.adopt f reply).1 (w.adopt f reply).1 ∧ (w.adopt f reply).2 = (u.adopt f reply).2 := by
  cases reply with
  | transcript turns => exact ⟨h.replace ⟨turns⟩, rfl⟩
  | turn turn =>
    cases turn with
    | user text => exact ⟨h.emit _, rfl⟩
    | assistant text sources =>
      rw [World.adopt, World.adopt, h.conversation]
      cases u.conversation.applyAll (answerActions text sources) with
      | ok c => exact ⟨h.replace c, rfl⟩
      | error error => exact ⟨h, rfl⟩

end Alike

theorem Undisturbed.alike (h : Undisturbed u w) : Alike u w :=
  ⟨h.conversation, h.events⟩

/-! ### Waiting on time -/

/-- A turn that is not over time, and that nobody aborts or stops driving; `text` is the warning
that it would give if it ran out of time. -/
structure OnTime (f : Flight) (text : String) (w : World) : Prop where
  uncancelled : w.isCancelled f = false
  fresh : w.session.gate.isStale f.permit = false
  unaborted : f.abortAt = none
  unlimited : f.limit = none
  before : f.deadline.all (w.now < ·) = true
  warning : w.timeoutText = text

namespace OnTime

theorem interrupt?_eq_none (h : OnTime f text w) : w.interrupt? f = none := by
  have hbefore := h.before
  rw [interrupt?, h.uncancelled]
  cases hdeadline : f.deadline with
  | none => rfl
  | some deadline =>
    rw [hdeadline] at hbefore
    have hlt : w.now < deadline := of_decide_eq_true hbefore
    simp [Nat.not_le.2 hlt]

/-- Whether it polls the transport or looks about before, it goes on. -/
theorem look_eq_none (h : OnTime f text w) (polling : Bool) :
    (if polling then none else w.interrupt? f) = none := by
  rw [h.interrupt?_eq_none, ite_self]

/-- The turn is on time wherever gate and settings are the same and the deadline is ahead. -/
theorem of_session (h : OnTime f text w) (hgate : v.session.gate = w.session.gate)
    (htimeout : v.session.timeout = w.session.timeout)
    (hbefore : f.deadline.all (v.now < ·) = true) : OnTime f text v where
  uncancelled := by
    have huncancelled := h.uncancelled
    rw [isCancelled] at huncancelled ⊢
    rw [hgate, huncancelled]
  fresh := by rw [hgate, h.fresh]
  unaborted := h.unaborted
  unlimited := h.unlimited
  before := hbefore
  warning := by
    rw [← h.warning]
    unfold timeoutText
    rw [htimeout]

theorem revise (h : OnTime f text w) (c : Conversation) (events : List Event) :
    OnTime f text (w.revise c events) :=
  h.of_session rfl rfl h.before

/-- A wait on time comes to its end, or to the deadline if that is not later, and else it has no
end. -/
theorem suspend (h : OnTime f text w) (span : Option Nat) :
    w.suspend f (span.map (w.now + ·)) =
      match span, f.deadline with
      | none, none => (w, some .limit)
      | some ms, none => ({ w with now := w.now + ms }, none)
      | none, some deadline => ({ w with now := deadline }, some .deadline)
      | some ms, some deadline =>
        if w.now + ms < deadline then ({ w with now := w.now + ms }, none)
        else ({ w with now := deadline }, some .deadline) := by
  have hbefore := h.before
  simp only [World.suspend, wakening, h.uncancelled, h.unaborted, h.unlimited]
  cases span with
  | none =>
    cases hdeadline : f.deadline with
    | none => rfl
    | some deadline => simp [earlier]
  | some ms =>
    obtain rfl | hpositive := Nat.eq_zero_or_pos ms
    · cases hdeadline : f.deadline with
      | none => simp
      | some deadline =>
        rw [hdeadline] at hbefore
        have hlt : w.now < deadline := of_decide_eq_true hbefore
        simp [hlt]
    · have hahead : ¬ w.now + ms ≤ w.now := by omega
      cases hdeadline : f.deadline with
      | none => simp [earlier, hahead]
      | some deadline =>
        obtain hsooner | hlater := Nat.lt_or_ge (w.now + ms) deadline
        · have hmin : min deadline (w.now + ms) = w.now + ms := by omega
          have hne : deadline ≠ w.now + ms := by omega
          simp [earlier, hahead, hsooner, hmin, hne]
        · have hmin : min deadline (w.now + ms) = deadline := by omega
          simp [earlier, hahead, Nat.not_lt.2 hlater, hmin]

end OnTime

/-- What an act on time comes to: either the turn is still on time and what follows is delivered as
foreseen, or the turn expires and nothing that follows is in time. -/
theorem OnTime.perform (h : OnTime f text w) (last : Arrival) {act : Act} (hact : act ≠ .abort)
    (rest : List Item) :
    let v := (w.perform f act).1
    Alike w v ∧ v.timeoutText = text ∧
      match (w.perform f act).2 with
      | none => OnTime f text v ∧
          timetable last w.now (.act act :: rest) = timetable last v.now rest
      | some i => i = f.expiry ∧ (∀ deadline ∈ f.deadline, v.now = deadline) ∧
          inTime f.deadline (timetable last w.now (.act act :: rest)) = [] := by
  obtain ⟨answers, parked, hperform⟩ := perform_eq_suspend w f hact
  have hwarning : ∀ v : World, v.session = w.session → v.timeoutText = text := by
    intro v hsession
    rw [← h.warning]
    unfold timeoutText
    rw [hsession]
  intro v
  simp only [v, hperform, h.suspend act.span, timetable]
  cases act.span with
  | none =>
    cases hdeadline : f.deadline with
    | none =>
      exact ⟨⟨rfl, rfl⟩, hwarning _ rfl, by simp [Flight.expiry, hdeadline],
        fun _ h ↦ absurd h (Option.not_mem_none _), rfl⟩
    | some deadline =>
      exact ⟨⟨rfl, rfl⟩, hwarning _ rfl, by simp [Flight.expiry, hdeadline],
        fun _ ↦ Option.some.inj, rfl⟩
  | some ms =>
    cases hdeadline : f.deadline with
    | none => exact ⟨⟨rfl, rfl⟩, hwarning _ rfl, h.of_session rfl rfl (by simp [hdeadline]), rfl⟩
    | some deadline =>
      dsimp only
      split
      · next hsooner =>
        exact ⟨⟨rfl, rfl⟩, hwarning _ rfl, h.of_session rfl rfl (by simp [hdeadline, hsooner]),
          rfl⟩
      · next hlater =>
        exact ⟨⟨rfl, rfl⟩, hwarning _ rfl, by simp [Flight.expiry, hdeadline],
          fun _ ↦ Option.some.inj, inTime_timetable_of_le last (Nat.le_of_not_lt hlater) rest⟩

/-! ### The cut -/

/-- How a turn ends of which `taken` is what it came to with what was delivered in time: if a
delivery ended it, then so; if not, it expires, at its deadline if it has one. -/
def Cut (f : Flight) (text : String) (taken : Except (World × Ending) (Assembler × World))
    (ended : World × Ending) : Prop :=
  match taken with
  | .error (v, ending) => Alike v ended.1 ∧ ended.2 = ending
  | .ok (_, v) =>
    match f.deadline with
    | none => Alike v ended.1 ∧ ended.2 = .suspended
    | some deadline =>
      Alike (v.warn f text) ended.1 ∧ ended.2 = .outcome .timedOut ∧ ended.1.now = deadline

/-- A turn that expires has taken in what was in time. -/
theorem cut_expired {a : Assembler} (halike : Alike u w) (hwarning : w.timeoutText = text)
    (hnow : ∀ deadline ∈ f.deadline, w.now = deadline) :
    Cut f text (.ok (a, u)) (w.interrupted f f.expiry) := by
  rw [Cut, Flight.expiry]
  cases hdeadline : f.deadline with
  | none => exact ⟨halike, rfl⟩
  | some deadline =>
    dsimp only [Option.isSome_some]
    rw [if_pos rfl, interrupted, hwarning]
    exact ⟨halike.emit _, rfl, hnow deadline hdeadline⟩

theorem receiveAll_cons (f : Flight) (start : Assembler × World) (instant : Nat)
    (arrival : Arrival) (rest : List (Nat × Arrival)) :
    receiveAll f start ((instant, arrival) :: rest) =
      match receive f start arrival with
      | .error ended => .error ended
      | .ok reached => receiveAll f reached rest := by
  rw [receiveAll, List.foldlM_cons]
  cases receive f start arrival <;> rfl

theorem receiveAll_congr (hpermit : f.permit = g.permit) : receiveAll f = receiveAll g := by
  funext start entries
  rw [receiveAll, receiveAll, receive_congr hpermit]

/-- What ends a turn ends it whatever is delivered later. -/
theorem receiveAll_of_isPrefix {start : Assembler × World} {first entries : List (Nat × Arrival)}
    {ended : World × Ending} (hinitial : first <+: entries)
    (htaken : receiveAll f start first = .error ended) :
    receiveAll f start entries = .error ended := by
  obtain ⟨rest, rfl⟩ := hinitial
  rw [receiveAll] at htaken
  rw [receiveAll, List.foldlM_append, htaken]
  rfl

/-- Reading a stream on time takes in what is in time. -/
theorem cut_readStream {items : List Item} (hquiet : .act .abort ∉ items) {polling : Bool}
    {a : Assembler} (hanswer : u.conversation.EndsWithAnswer) (halike : Alike u w)
    (h : OnTime f text w) :
    Cut f text (receiveAll f (a, u) (inTime f.deadline (timetable .closed w.now items)))
      (readStream f polling items a w) := by
  induction items generalizing polling a u w with
  | nil =>
    rw [timetable, inTime_cons h.before, receiveAll_cons, receive]
    simp only [readStream, h.look_eq_none]
    exact ⟨halike.emit _, rfl⟩
  | cons item rest ih =>
    have hrest : Item.act .abort ∉ rest := List.not_mem_of_not_mem_cons hquiet
    simp only [readStream, h.look_eq_none]
    cases item with
    | act act =>
      have hact : act ≠ .abort := fun heq ↦ hquiet (heq ▸ List.mem_cons_self)
      obtain ⟨hacted, hwarning, hcase⟩ := h.perform .closed hact rest
      dsimp only
      rcases hperform : w.perform f act with ⟨v, _ | i⟩ <;> rw [hperform] at hacted hwarning hcase
      · rw [hcase.2]
        exact ih hrest hanswer (halike.trans hacted) hcase.1
      · obtain ⟨rfl, hnow, hnothing⟩ := hcase
        rw [hnothing]
        exact cut_expired (halike.trans hacted) hwarning hnow
    | opened =>
      rw [timetable, inTime_cons h.before, receiveAll_cons, receive]
      exact ih hrest hanswer halike h
    | fail error =>
      rw [timetable, inTime_cons h.before, receiveAll_cons, receive]
      exact ⟨halike.emit _, rfl⟩
    | payload raw =>
      obtain ⟨next, happly, hnext⟩ := hanswer.applyAll (a.isAppend_of_feed raw)
      have hrevised := halike.revise next (report f (a.feed raw).1 next)
      have honward := h.revise next (report f (a.feed raw).1 next)
      dsimp only
      rw [timetable, inTime_cons h.before, receiveAll_cons, receive, fold_eq u f happly, h.fresh,
        fold_eq w f (by rw [halike.conversation, happly])]
      dsimp only
      cases (a.feed raw).2.state with
      | streaming => exact ih (u := u.revise next _) hrest hnext hrevised honward
      | finished => exact ⟨hrevised, rfl⟩
      | halted => exact ⟨hrevised.emit _, rfl⟩

/-- Calling the transport of a batch turn on time comes to the end of the call or to the end of the
turn. -/
theorem OnTime.performAll {acts : List Act} (hquiet : .abort ∉ acts) (h : OnTime f text w)
    (last : Arrival) :
    let v := (w.performAll f acts).1
    Alike w v ∧ v.timeoutText = text ∧
      match (w.performAll f acts).2 with
      | none => OnTime f text v ∧
          timetable last w.now (acts.map .act) = timetable last v.now []
      | some i => i = f.expiry ∧ (∀ deadline ∈ f.deadline, v.now = deadline) ∧
          inTime f.deadline (timetable last w.now (acts.map .act)) = [] := by
  induction acts generalizing w with
  | nil => exact ⟨.refl w, h.warning, h, rfl⟩
  | cons act rest ih =>
    have hact : act ≠ .abort := fun heq ↦ hquiet (heq ▸ List.mem_cons_self)
    obtain ⟨hacted, hwarning, hcase⟩ := h.perform last hact (rest.map .act)
    rw [World.performAll, List.map_cons]
    rcases hperform : w.perform f act with ⟨v, _ | i⟩ <;> rw [hperform] at hacted hwarning hcase
    · obtain ⟨honward, htimetable⟩ := hcase
      obtain ⟨hrest, hlast, hcase⟩ := ih (List.not_mem_of_not_mem_cons hquiet) honward
      rw [htimetable]
      exact ⟨hacted.trans hrest, hlast, hcase⟩
    · exact ⟨hacted, hwarning, hcase⟩

/-- Waiting for a reply on time takes in what is in time. -/
theorem cut_runBatch {transport : Transport} {request : List Turn}
    (hquiet : .abort ∉ transport.connect) (a : Assembler) (halike : Alike u w)
    (h : OnTime f text w) :
    Cut f text (receiveAll f (a, u)
        (inTime f.deadline (transport.timetable .batch request w.now)))
      (w.runBatch f transport request) := by
  have hcalled : OnTime f text { w with requests := w.requests.push request } :=
    h.of_session rfl rfl h.before
  obtain ⟨hacted, hwarning, hcase⟩ :=
    hcalled.performAll hquiet (transport.last .batch request)
  have hcall : Alike w { w with requests := w.requests.push request } := ⟨rfl, rfl⟩
  rw [runBatch, h.interrupt?_eq_none, Transport.timetable, Transport.items]
  dsimp only
  rcases hacts : World.performAll { w with requests := w.requests.push request } f
      transport.connect with ⟨v, _ | i⟩ <;> rw [hacts] at hacted hwarning hcase
  · obtain ⟨honward, htimetable⟩ := hcase
    have hreached : Alike u v := (halike.trans hcall).trans hacted
    dsimp only at htimetable ⊢
    rw [htimetable, timetable, inTime_cons honward.before, receiveAll_cons, honward.fresh,
      Transport.last]
    cases transport.exchange request with
    | error error => exact ⟨hreached.emit _, rfl⟩
    | ok reply => exact hreached.adopt reply
  · obtain ⟨rfl, hnow, hnothing⟩ := hcase
    dsimp only at hnothing ⊢
    rw [hnothing]
    exact cut_expired ((halike.trans hcall).trans hacted) hwarning hnow

/-- A turn that is on time when its question is asked takes in what is in time. -/
theorem cut_run (mode : Mode) {transport : Transport} {request : List Turn}
    (hquiet : .act .abort ∉ transport.items mode request)
    (hanswer : u.conversation.EndsWithAnswer) (halike : Alike u w) (h : OnTime f text w) :
    Cut f text (receiveAll f (w.assembler, u)
        (inTime f.deadline (transport.timetable mode request w.now)))
      (w.run mode f transport request) := by
  cases mode with
  | streaming =>
    have hcalled : OnTime f text { w with requests := w.requests.push request } :=
      h.of_session rfl rfl h.before
    rw [run, runStreaming_eq, h.interrupt?_eq_none]
    exact cut_readStream (w := { w with requests := w.requests.push request }) hquiet hanswer
      (halike.trans ⟨rfl, rfl⟩) hcalled
  | batch =>
    refine cut_runBatch (fun hmem ↦ hquiet ?_) w.assembler halike h
    exact List.mem_map_of_mem hmem

/-- A turn that may take no time takes in nothing. -/
theorem cut_run_due (mode : Mode) (transport : Transport) (request : List Turn) (a : Assembler)
    (halike : Alike u w) (huncancelled : w.isCancelled f = false)
    (hdue : f.deadline = some w.now) :
    Cut f w.timeoutText (receiveAll f (a, u)
        (inTime f.deadline (transport.timetable mode request w.now)))
      (w.run mode f transport request) := by
  have hinterrupt : w.interrupt? f = some .deadline := by
    simp [interrupt?, huncancelled, hdue]
  have hrun : w.run mode f transport request = w.interrupted f f.expiry := by
    rw [Flight.expiry, hdue]
    cases mode with
    | streaming =>
      rw [run, runStreaming, hinterrupt]
      rfl
    | batch =>
      rw [run, runBatch, hinterrupt]
      rfl
  rw [hrun, hdue, Transport.timetable, inTime_timetable_of_le _ (Nat.le_refl _)]
  exact cut_expired halike rfl fun _ hmem ↦ Option.some.inj (hdue.symm.trans hmem)

/-! ### Submissions -/

/-- What a question comes to with what is delivered for it, whatever the clock says. -/
def answered (w : World) (text : String) (entries : List (Nat × Arrival)) :
    Except (World × Ending) (Assembler × World) :=
  receiveAll (w.flight none none) ((w.asked text).assembler, w.asked text) entries

/-- With any timeout the turn of a question takes in what is in time. -/
theorem cut_asked (w : World) (text : String) (mode : Mode) {transport : Transport}
    (hquiet : .act .abort ∉ transport.items mode (w.request text)) (timeout : Option Nat) :
    let timed := w.operate (.setTimeout timeout)
    Cut (timed.flight none none) timed.timeoutText
      (w.answered text (inTime (timed.flight none none).deadline
        (transport.timetable mode (w.request text) w.now)))
      ((timed.asked text).run mode (timed.flight none none) transport (w.request text)) := by
  intro timed
  have hpermit : (w.flight none none).permit = (timed.flight none none).permit := rfl
  have halike : Alike (w.asked text) (timed.asked text) := ⟨rfl, rfl⟩
  have huncancelled : (timed.asked text).isCancelled (timed.flight none none) = false :=
    w.session.gate.isCancelled_taken
  rw [answered, receiveAll_congr hpermit]
  cases hbefore : (timed.flight none none).deadline.all (w.now < ·) with
  | true =>
    have hanswer : (w.asked text).conversation.EndsWithAnswer :=
      Conversation.endsWithAnswer_ask w.conversation text
    exact cut_run mode hquiet hanswer halike
      ⟨huncancelled, w.session.gate.isStale_taken, rfl, rfl, hbefore, rfl⟩
  | false =>
    refine cut_run_due mode transport _ _ halike huncancelled ?_
    simp only [timed, flight, operate] at hbefore ⊢
    cases timeout with
    | none => cases hbefore
    | some micros =>
      simp only [Option.map_some, Option.all_some, decide_eq_false_iff_not] at hbefore ⊢
      refine congrArg some ?_
      change w.now + Clock.ceilMillis micros = w.now
      omega

theorem ne_timedOut_of_receive {reached : Assembler × World} {arrival : Arrival}
    {ended : World × Ending} (hreceive : receive f reached arrival = .error ended) :
    ended.2 ≠ .outcome .timedOut := by
  obtain ⟨a, w⟩ := reached
  cases arrival with
  | opened => cases hreceive
  | payload raw =>
    rw [receive] at hreceive
    split at hreceive
    · cases hreceive
      exact fun h ↦ by cases h
    · split at hreceive <;> cases hreceive <;> exact fun h ↦ by cases h
  | failed error =>
    cases hreceive
    exact fun h ↦ by cases h
  | closed =>
    cases hreceive
    exact fun h ↦ by cases h
  | replied reply =>
    cases hreceive
    cases reply with
    | transcript turns => exact fun h ↦ by cases h
    | turn turn =>
      cases turn with
      | user text => exact fun h ↦ by cases h
      | assistant text sources =>
        rw [adopt]
        split <;> exact fun h ↦ by cases h

/-- What comes to an end without the clock does not end in a timeout. -/
theorem ne_timedOut_of_receiveAll {start : Assembler × World} {entries : List (Nat × Arrival)}
    {ended : World × Ending} (htaken : receiveAll f start entries = .error ended) :
    ended.2 ≠ .outcome .timedOut := by
  induction entries generalizing start with
  | nil => cases htaken
  | cons entry rest ih =>
    obtain ⟨instant, arrival⟩ := entry
    rw [receiveAll_cons] at htaken
    cases hreceive : receive f start arrival with
    | ok reached =>
      rw [hreceive] at htaken
      exact ih htaken
    | error stopped =>
      rw [hreceive] at htaken
      obtain rfl : stopped = ended := Except.error.inj htaken
      exact ne_timedOut_of_receive hreceive

/-- The whole milliseconds of the clock before a deadline are those at which less time than the span
is over. -/
theorem inTime_span (now micros : Nat) (entries : List (Nat × Arrival)) :
    inTime (some (now + Clock.ceilMillis micros)) entries =
      entries.filter fun entry ↦ 1000 * entry.1 < 1000 * now + micros := by
  refine List.filter_congr fun entry _ ↦ ?_
  simp only [Option.all_some, Clock.ceilMillis]
  exact decide_eq_decide.2 (by omega)

theorem Alike.conclude (h : Alike u w) (hpermit : f.permit = g.permit) (ending : Ending) :
    Alike (u.conclude f ending) (w.conclude g ending) := by
  cases ending with
  | outcome outcome =>
    rw [World.conclude, World.conclude, hpermit]
    exact ((undisturbed_leave _).alike.symm.trans (h.emit _)).trans (undisturbed_leave _).alike
  | broken error =>
    exact ((undisturbed_leave _).alike.symm.trans (h.emit _)).trans (undisturbed_leave _).alike
  | suspended => exact h

theorem now_conclude (w : World) (f : Flight) (ending : Ending) :
    (w.conclude f ending).now = w.now := by
  cases ending with
  | suspended => rfl
  | _ =>
    rw [World.conclude, leave, wake]
    split <;> rfl

/-- A submission that nobody aborts ends as what is delivered for it in time ends it, and else it
expires. -/
theorem submit_cut (w : World) {text : String} (htext : Text.isBlankText text = false)
    (hidle : w.session.gate.busy = false) (mode : Mode) {transport : Transport}
    (hquiet : .act .abort ∉ transport.items mode (w.request text)) (timeout : Option Nat) :
    let f := w.flight none none
    let timed := w.operate (.setTimeout timeout)
    let taken := w.answered text (inTime (timeout.map (w.now + Clock.ceilMillis ·))
      (transport.timetable mode (w.request text) w.now))
    ∃ ended, timed.submit mode text transport = .ok ended ∧
      (∀ v ending, taken = .error (v, ending) →
        ended.2 = ending ∧ Alike (v.conclude f ending) ended.1) ∧
      ∀ a v, taken = .ok (a, v) →
        match timeout with
        | none => ended.2 = .suspended
        | some micros =>
          ended.2 = .outcome .timedOut ∧ ended.1.now = w.now + Clock.ceilMillis micros ∧
            Alike ((v.warn f timed.timeoutText).conclude f (.outcome .timedOut)) ended.1 := by
  intro f timed taken
  have hcut : Cut (timed.flight none none) timed.timeoutText taken
      ((timed.asked text).run mode (timed.flight none none) transport (timed.request text)) :=
    cut_asked w text mode hquiet timeout
  refine ⟨_, submit_eq timed mode htext hidle transport none none, fun v ending htaken ↦ ?_,
    fun a v htaken ↦ ?_⟩ <;> rw [htaken] at hcut
  · obtain ⟨halike, rfl⟩ := hcut
    exact ⟨rfl, halike.conclude rfl _⟩
  · cases timeout with
    | none => exact hcut.2
    | some micros =>
      obtain ⟨halike, hending, hnow⟩ := hcut
      refine ⟨hending, (now_conclude _ _ _).trans hnow, ?_⟩
      dsimp only
      rw [hending]
      exact halike.conclude rfl (.outcome .timedOut)

/-- Without a timeout all that is delivered is in time, and nothing is timed out. -/
theorem submit_untimed (w : World) {text : String} (htext : Text.isBlankText text = false)
    (hidle : w.session.gate.busy = false) (mode : Mode) {transport : Transport}
    (hquiet : .act .abort ∉ transport.items mode (w.request text)) :
    ∃ free, (w.operate (.setTimeout none)).submit mode text transport = .ok free ∧
      free.2 ≠ .outcome .timedOut ∧
      ∀ v ending,
        w.answered text (transport.timetable mode (w.request text) w.now) = .error (v, ending) →
          free.2 = ending ∧ Alike (v.conclude (w.flight none none) ending) free.1 := by
  obtain ⟨free, hfree, hends, hendless⟩ := submit_cut w htext hidle mode hquiet none
  rw [Option.map_none, inTime_none] at hends hendless
  refine ⟨free, hfree, ?_, hends⟩
  rcases htaken : w.answered text (transport.timetable mode (w.request text) w.now) with
    ⟨v, ending⟩ | ⟨a, v⟩
  · rw [(hends v ending htaken).1]
    exact ne_timedOut_of_receiveAll htaken
  · rw [hendless a v htaken]
    exact nofun

/-- With a timeout a turn is timed out exactly if nothing that is delivered in time ends it. -/
theorem submit_timed (w : World) {text : String} (htext : Text.isBlankText text = false)
    (hidle : w.session.gate.busy = false) (mode : Mode) {transport : Transport}
    (hquiet : .act .abort ∉ transport.items mode (w.request text)) (micros : Nat) :
    let f := w.flight none none
    let timed := w.operate (.setTimeout (some micros))
    let taken := w.answered text ((transport.timetable mode (w.request text) w.now).filter
      fun entry ↦ 1000 * entry.1 < 1000 * w.now + micros)
    ∃ ended, timed.submit mode text transport = .ok ended ∧
      (ended.2 = .outcome .timedOut ↔ ∃ reached, taken = .ok reached) ∧
      (∀ v ending, taken = .error (v, ending) →
        ended.2 = ending ∧ Alike (v.conclude f ending) ended.1) ∧
      ∀ a v, taken = .ok (a, v) →
        ended.2 = .outcome .timedOut ∧ ended.1.now = w.now + Clock.ceilMillis micros ∧
          Alike ((v.warn f timed.timeoutText).conclude f (.outcome .timedOut)) ended.1 := by
  intro f timed taken
  obtain ⟨ended, hended, hends, hexpires⟩ := submit_cut w htext hidle mode hquiet (some micros)
  rw [Option.map_some, inTime_span] at hends hexpires
  refine ⟨ended, hended, ?_, hends, hexpires⟩
  rcases htaken : taken with ⟨v, ending⟩ | ⟨a, v⟩
  · rw [(hends v ending htaken).1]
    exact iff_of_false (ne_timedOut_of_receiveAll htaken) (by simp)
  · exact iff_of_true (hexpires a v htaken).1 ⟨(a, v), rfl⟩

/-- The trace of a turn that is timed out holds the one warning that it is. -/
theorem warnings_trace (w : World) (text : String) (refused : Bool) {body : List Event}
    (hprogress : ∀ event ∈ body, event.IsProgress f.permit.generation) :
    (w.trace f text refused body .timedOut).filterMap Event.warning? = [w.timeoutText] := by
  have hbody : body.filterMap Event.warning? = [] := by
    refine List.filterMap_eq_nil_iff.2 fun event hmem ↦ ?_
    have htold := hprogress event hmem
    cases event with
    | warning generation message => exact htold.elim
    | _ => rfl
  rw [trace, List.filterMap_cons, List.filterMap_cons, List.filterMap_append,
    List.filterMap_append, hbody]
  rfl

/-- The deadline cuts a turn exactly where it should. Let nobody abort the turn, whatever the
transport does: then, with a timeout whose end the clock can name, what the transport delivers at
instants strictly before the deadline is taken in, up to what ends the turn, and nothing else. If
one of these deliveries ends the turn, then it ends like the same turn without a timeout: in the
same way, with the same conversation and the same events. If none does, and only then, the turn is
timed out: at the deadline, with the conversation that it has come to, and with one warning. Without
a timeout no turn is timed out. A turn whose deadline the clock cannot name breaks off, with the
question asked, before the transport is. -/
theorem attempt_deadline (w : World) {text : String} (htext : Text.isBlankText text = false)
    (hidle : w.session.gate.busy = false) (mode : Mode) (transport : Transport)
    (hquiet : .act .abort ∉ transport.items mode (w.request text)) :
    let f := w.flight none none
    let entries := transport.timetable mode (w.request text) w.now
    ∃ free freely,
      (w.operate (.setTimeout none)).attempt mode text transport = .ok (free, some freely) ∧
      freely ≠ .outcome .timedOut ∧
      ∀ micros,
        let timed := w.operate (.setTimeout (some micros))
        let taken :=
          w.answered text (entries.filter fun entry ↦ 1000 * entry.1 < 1000 * w.now + micros)
        (1000 * w.now + micros < Clock.limit → ∃ cut ending,
          timed.attempt mode text transport = .ok (cut, some ending) ∧
          (ending = .outcome .timedOut ↔ ∃ reached, taken = .ok reached) ∧
          (∀ a v, taken = .ok (a, v) →
            cut.now = w.now + Clock.ceilMillis micros ∧
            cut.conversation = v.conversation ∧
            cut.events = v.events ++ #[.warning f.permit.generation timed.timeoutText,
              .turnEnd f.permit.generation .timedOut] ∧
            ∃ told : List Event, cut.events = w.events ++ told.toArray ∧
              told.filterMap Event.warning? = [timed.timeoutText]) ∧
          (∀ v reason, taken = .error (v, reason) →
            ending = reason ∧ cut.conversation = v.conversation ∧
            cut.events = (v.conclude f reason).events ∧
            freely = ending ∧ free.conversation = cut.conversation ∧
            free.events = cut.events)) ∧
        (Clock.limit ≤ 1000 * w.now + micros → ∃ broken,
          timed.attempt mode text transport = .ok (broken, none) ∧
          broken.conversation = w.conversation.ask text ∧ broken.requests = w.requests ∧
          broken.events = w.events ++ #[.turnStart f.permit.generation,
            .updated f.permit.generation (w.conversation.ask text)] ∧
          broken.session.gate.busy = false) := by
  intro f entries
  obtain ⟨⟨free, freely⟩, hfree, hnever, hfreely⟩ := submit_untimed w htext hidle mode hquiet
  refine ⟨free, freely, attempt_of_foresees rfl hfree, hnever, fun micros ↦ ?_⟩
  intro timed taken
  refine ⟨fun hforeseen ↦ ?_, fun hbeyond ↦ ?_⟩
  · have hforeseen : timed.foreseesDeadline = true := decide_eq_true hforeseen
    obtain ⟨⟨cut, ending⟩, hcut, htimedOut, hends, hexpires⟩ :=
      submit_timed w htext hidle mode hquiet micros
    refine ⟨cut, ending, attempt_of_foresees hforeseen hcut, htimedOut,
      fun a v htaken ↦ ?_, fun v reason htaken ↦ ?_⟩
    · obtain ⟨hending, hnow, halike⟩ := hexpires a v htaken
      obtain ⟨told, body, htold, -, -, hevents, hprogress, -, -⟩ :=
        submit_tells timed htext hidle mode transport none none
      obtain rfl := Except.ok.inj (htold.symm.trans hcut)
      refine ⟨hnow, ?_, ?_, _, hevents .timedOut hending, warnings_trace timed text _ hprogress⟩
      · exact halike.conversation.trans (quiet_conclude _ _ _).conversation
      · rw [halike.events, events_conclude, warn, events_emit, Array.push_eq_append,
          Array.push_eq_append, Array.append_assoc]
        rfl
    · obtain ⟨hending, halike⟩ := hends v reason htaken
      -- What is in time comes first, so that the turn without a timeout ends at the same delivery.
      have hinitial : entries.filter (fun entry ↦ 1000 * entry.1 < 1000 * w.now + micros) <+:
          entries := by
        rw [← inTime_span]
        exact inTime_timetable_isPrefix _ _ _ _
      obtain ⟨hsame, hother⟩ := hfreely v reason (receiveAll_of_isPrefix hinitial htaken)
      exact ⟨hending, halike.conversation.trans (quiet_conclude _ _ _).conversation,
        halike.events, hsame.trans hending.symm,
        hother.conversation.trans halike.conversation.symm,
        hother.events.trans halike.events.symm⟩
  · have hbeyond : timed.foreseesDeadline = false := decide_eq_false (Nat.not_lt.2 hbeyond)
    exact ⟨_, attempt_of_beyond hbeyond htext hidle, rfl, rfl, rfl, rfl⟩

/-- A payload that comes at the very instant of the deadline comes too late. -/
theorem attempt_deadline_tie :
    let transport : Transport :=
      { stream := fun _ ↦ .ok [.payload "\x7b\"content\":\"a\"\x7d", .act (.wait 5),
          .payload "\x7b\"content\":\"b\"\x7d"]
        exchange := fun _ ↦ .error (.http "closed") }
    Text.isBlankText "hi" = false ∧ ({} : World).session.gate.busy = false ∧
      .act .abort ∉ transport.items .streaming (({} : World).request "hi") ∧ ∃ cut,
        (({} : World).operate (.setTimeout (some 5000))).attempt .streaming "hi" transport =
          .ok (cut, some (.outcome .timedOut)) ∧
        cut.now = 5 ∧ cut.conversation = ⟨[.user "hi", .assistant "a" []]⟩ := by
  intro transport
  have htext : Text.isBlankText "hi" = false := by decide
  have hquiet : .act .abort ∉ transport.items .streaming (({} : World).request "hi") := by
    simp [transport, Transport.items, Transport.script]
  obtain ⟨free, freely, -, -, hspan⟩ := attempt_deadline {} htext rfl .streaming transport hquiet
  obtain ⟨cut, ending, hattempt, htimedOut, htaking, -⟩ := (hspan 5000).1 (by decide)
  have hconversation : ((({} : World).answered "hi"
      ((transport.timetable .streaming (({} : World).request "hi") 0).filter
        fun entry ↦ 1000 * entry.1 < 1000 * 0 + 5000)).map (·.2.conversation)).toOption =
      some ⟨[.user "hi", .assistant "a" []]⟩ := by decide +kernel
  rcases htaken : ({} : World).answered "hi"
    ((transport.timetable .streaming (({} : World).request "hi") 0).filter
      fun entry ↦ 1000 * entry.1 < 1000 * 0 + 5000) with stopped | ⟨a, v⟩ <;>
    rw [htaken] at hconversation
  · cases hconversation
  · obtain ⟨hnow, hsame, -⟩ := htaking a v htaken
    obtain rfl := htimedOut.2 ⟨_, htaken⟩
    exact ⟨htext, rfl, hquiet, cut, hattempt, hnow,
      hsame.trans (Option.some.inj hconversation)⟩

/-- The longest timeout that can be asked for ends at an instant that the clock cannot name. A reply
that is there at once is then not asked for, which without a timeout finishes the turn. -/
theorem attempt_breaks_off :
    let transport : Transport :=
      { stream := fun _ ↦ .ok [], exchange := fun _ ↦ .ok (.turn (.assistant "a" [])) }
    let micros := (Word.limit - 1) * 1000000
    Text.isBlankText "hi" = false ∧ ({} : World).session.gate.busy = false ∧
      .act .abort ∉ transport.items .batch (({} : World).request "hi") ∧
      (∃ free, (({} : World).operate (.setTimeout none)).attempt .batch "hi" transport =
          .ok (free, some (.outcome .finished)) ∧
        free.conversation = ⟨[.user "hi", .assistant "a" []]⟩ ∧
        free.requests = #[[.user "hi"]]) ∧
      ∃ broken, (({} : World).operate (.setTimeout (some micros))).attempt .batch "hi" transport =
          .ok (broken, none) ∧
        broken.conversation = ⟨[.user "hi", .assistant "" []]⟩ ∧ broken.requests = #[] := by
  intro transport micros
  have hquiet : .act .abort ∉ transport.items .batch (({} : World).request "hi") := by
    simp [transport, Transport.items]
  have htext : Text.isBlankText "hi" = false := by decide
  have hbeyond : (({} : World).operate (.setTimeout (some micros))).foreseesDeadline = false := by
    decide
  exact ⟨htext, rfl, hquiet, ⟨_, rfl, rfl, rfl⟩, _, attempt_of_beyond hbeyond htext rfl, rfl, rfl⟩

end World

end CitedChat
