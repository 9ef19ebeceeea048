import CitedChat.Proofs.Chat.Submission

/-!
What a streamed turn hears. `World.listen` follows the transport alone, without looking into
payloads, up to whatever ends the turn from outside; it depends on the clock and the gate and on
nothing else of the world (`SameScene.listen`). A recorded stream that nothing disturbs is heard to
its end (`heard_replay`).
-/

set_option autoImplicit false

namespace CitedChat

/-- The payload that an item delivers. -/
def Item.payload? : Item → Option String
  | .payload raw => some raw
  | _ => none

/-- What a streamed turn hears: payloads, and what ends it if none of them does. -/
structure Delivery where
  payloads : List String
  ending : Ending

namespace World

/-! ### Listening to the transport -/

/-- Listens to the transport: the payloads that a streamed turn takes in until something other than
they ends it, and how that does. `polling` is as for `readStream`. -/
def listen (f : Flight) : Bool → List Item → World → Delivery
  | polling, [], w =>
    match if polling then none else w.interrupt? f with
    | some i => ⟨[], (w.interrupted f i).2⟩
    | none => ⟨[], .outcome .incomplete⟩
  | polling, item :: rest, w =>
    match if polling then none else w.interrupt? f with
    | some i => ⟨[], (w.interrupted f i).2⟩
    | none =>
      match item with
      | .act act =>
        match w.perform f act with
        | (w, none) => listen f true rest w
        | (w, some i) => ⟨[], (w.interrupted f i).2⟩
      | .opened => listen f false rest w
      | .fail error => ⟨[], (w.failed error).2⟩
      | .payload raw =>
        if w.session.gate.isStale f.permit then ⟨[], .outcome .cancelled⟩
        else
          let later := listen f false rest w
          ⟨raw :: later.payloads, later.ending⟩

/-- No payload is skipped before the end. -/
theorem payloads_listen_isPrefix (f : Flight) (polling : Bool) (items : List Item) (w : World) :
    (listen f polling items w).payloads <+: items.filterMap Item.payload? := by
  induction items generalizing polling w with
  | nil =>
    simp only [listen]
    split <;> exact List.nil_prefix
  | cons item rest ih =>
    simp only [listen]
    split
    · exact List.nil_prefix
    · cases item with
      | act act =>
        dsimp only
        split
        · exact ih true _
        · exact List.nil_prefix
      | opened => exact ih false w
      | fail error => exact List.nil_prefix
      | payload raw =>
        dsimp only
        split
        · exact List.nil_prefix
        · exact (List.prefix_cons_inj raw).2 (ih false w)

theorem ending_interrupted (w v : World) (f : Flight) (i : Interrupt) :
    (w.interrupted f i).2 = (v.interrupted f i).2 := by
  cases i <;> rfl

/-- What the transport delivers depends on the clock and the gate alone. -/
theorem SameScene.listen {w v : World} (h : SameScene w v) (f : Flight) (polling : Bool)
    (items : List Item) : listen f polling items v = listen f polling items w := by
  induction items generalizing polling w v with
  | nil =>
    simp only [World.listen, h.interrupt?]
    cases (if polling then none else w.interrupt? f) with
    | none => rfl
    | some i => simp only [ending_interrupted v w]
  | cons item rest ih =>
    simp only [World.listen, h.interrupt?]
    cases (if polling then none else w.interrupt? f) with
    | some i => simp only [ending_interrupted v w]
    | none =>
      cases item with
      | act act =>
        obtain ⟨hscene, hend⟩ := h.perform f act
        dsimp only
        rcases hw : w.perform f act with ⟨w', i⟩
        rcases hv : v.perform f act with ⟨v', j⟩
        rw [hw, hv] at hscene hend
        obtain rfl : j = i := hend
        cases j with
        | none => exact ih hscene true
        | some i => simp only [ending_interrupted v' w']
      | opened => exact ih h false
      | fail error => rfl
      | payload raw => simp only [h.gate, ih h false]

variable {w v : World}

theorem listen_of_interrupt {f : Flight} {i : Interrupt} (hinterrupt : w.interrupt? f = some i)
    (items : List Item) : listen f false items w = ⟨[], (w.interrupted f i).2⟩ := by
  cases items <;> simp [listen, hinterrupt]

theorem listen_of_none {f : Flight} (hinterrupt : w.interrupt? f = none) (items : List Item) :
    listen f false items w = listen f true items w := by
  cases items <;> simp [listen, hinterrupt]

/-! ### Streams that nothing disturbs -/

theorem listen_acts (f : Flight) (acts : List Act) (rest : List Item) (w : World) :
    listen f true (acts.map .act ++ rest) w =
      match w.performAll f acts with
      | (v, some i) => ⟨[], (v.interrupted f i).2⟩
      | (v, none) => listen f true rest v := by
  induction acts generalizing w with
  | nil => rfl
  | cons act more ih =>
    rw [List.map_cons, List.cons_append, listen, performAll]
    rcases w.perform f act with ⟨v, _ | i⟩
    · exact ih v
    · rfl

/-- A permit that is neither cancelled nor stale, and no instant at which the turn is to end. -/
structure Undated (w : World) (f : Flight) : Prop where
  cancelled : w.isCancelled f = false
  stale : w.session.gate.isStale f.permit = false
  deadline : f.deadline = none
  abortAt : f.abortAt = none
  limit : f.limit = none

namespace Undated

variable {f : Flight}

theorem interrupt? (h : Undated w f) : w.interrupt? f = none := by
  simp [World.interrupt?, h.cancelled, h.deadline]

theorem of_gate (h : Undated w f) (hgate : v.session.gate = w.session.gate) : Undated v f where
  cancelled := by rw [isCancelled, hgate]; exact h.cancelled
  stale := by rw [hgate]; exact h.stale
  deadline := h.deadline
  abortAt := h.abortAt
  limit := h.limit

/-- Nothing ends a wait for an instant early. -/
theorem suspend (h : Undated w f) (instant : Nat) :
    (w.suspend f (some instant)).2 = none ∧ Undated (w.suspend f (some instant)).1 f := by
  have hwake : ∃ now, w.wakening f (some instant) = ⟨now, none, false⟩ := by
    by_cases hpassed : instant ≤ w.now
    · exact ⟨w.now, by simp [wakening, hpassed]⟩
    · exact ⟨instant, by
        simp [wakening, hpassed, h.cancelled, h.deadline, h.abortAt, h.limit, earlier]⟩
  obtain ⟨now, hwake⟩ := hwake
  rw [World.suspend, hwake]
  exact ⟨rfl, h.of_gate rfl⟩

theorem perform (h : Undated w f) {act : Act} (hact : act ≠ .abort ∧ act ≠ .hang) :
    (w.perform f act).2 = none ∧ Undated (w.perform f act).1 f := by
  cases act with
  | wait ms => exact h.suspend _
  | hang => exact absurd rfl hact.2
  | abort => exact absurd rfl hact.1
  | awaitIdle ms =>
    obtain ⟨hend, hundated⟩ := h.suspend (w.now + ms)
    rw [World.perform]
    rcases hwait : w.suspend f (some (w.now + ms)) with ⟨v, _ | i⟩
    · rw [hwait] at hundated
      exact ⟨rfl, hundated.of_gate rfl⟩
    · rw [hwait] at hend
      exact absurd hend (by simp)
  | watch => exact ⟨rfl, h.of_gate rfl⟩

theorem performAll (h : Undated w f) {acts : List Act}
    (hacts : ∀ act ∈ acts, act ≠ .abort ∧ act ≠ .hang) :
    (w.performAll f acts).2 = none ∧ Undated (w.performAll f acts).1 f := by
  induction acts generalizing w with
  | nil => exact ⟨rfl, h⟩
  | cons act rest ih =>
    obtain ⟨hfirst, hrest⟩ := List.forall_mem_cons.1 hacts
    obtain ⟨hend, hundated⟩ := h.perform hfirst
    rw [World.performAll]
    rcases hperform : w.perform f act with ⟨v, _ | i⟩
    · rw [hperform] at hundated
      exact ih hundated hrest
    · rw [hperform] at hend
      exact absurd hend (by simp)

/-- A recorded stream is heard to its end. -/
theorem listen_replay (h : Undated w f) (polling : Bool) (payloads : List String) :
    listen f polling (replay payloads) w = ⟨payloads, .outcome .incomplete⟩ := by
  have hhead : (if polling then none else w.interrupt? f) = none := by
    rw [h.interrupt?, ite_self]
  induction payloads generalizing polling with
  | nil => simp only [replay, List.map_nil, listen, hhead]
  | cons raw rest ih =>
    have hrest := ih false (by rw [h.interrupt?, ite_self])
    rw [replay] at hrest
    simp only [replay, List.map_cons, listen, hhead, h.stale, hrest]
    rfl

end Undated

theorem undated_asked (w : World) (text : String) (htimeout : w.session.timeout = none) :
    Undated (w.asked text) (w.flight none none) where
  cancelled := w.session.gate.isCancelled_taken
  stale := w.session.gate.isStale_taken
  deadline := by rw [flight, htimeout]; rfl
  abortAt := rfl
  limit := rfl

end World

/-- The call of the transport neither aborts the turn nor hangs. -/
def Transport.IsPlain (transport : Transport) : Prop :=
  ∀ act ∈ transport.connect, act ≠ .abort ∧ act ≠ .hang

namespace World

/-- What a streamed turn would hear that asks a question now. -/
def heard (w : World) (text : String) (transport : Transport) (limit abortAfter : Option Nat) :
    Delivery :=
  listen (w.flight limit abortAfter) false (transport.script (w.request text)) (w.asked text)

theorem heard_replay (w : World) (text : String) {transport : Transport}
    (hplain : transport.IsPlain) (htimeout : w.session.timeout = none) (payloads : List String)
    (hstream : transport.stream (w.request text) = .ok (replay payloads)) :
    w.heard text transport none none = ⟨payloads, .outcome .incomplete⟩ := by
  have hundated := undated_asked w text htimeout
  obtain ⟨hend, hcalled⟩ := hundated.performAll hplain
  rw [heard, Transport.script, hstream, listen_of_none hundated.interrupt?, listen_acts]
  rcases hacts : (w.asked text).performAll (w.flight none none) transport.connect with ⟨v, _ | i⟩
  · rw [hacts] at hcalled
    exact hcalled.listen_replay false payloads
  · rw [hacts] at hend
    exact absurd hend (by simp)

end World

end CitedChat
