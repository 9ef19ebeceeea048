import CitedChat.Proofs.Chat.Submission

/-!
What a transport delivers and when. A script says how long everything takes, so that the instants of
its deliveries are known beforehand (`Transport.timetable`); nothing in it comes before what stands
before it (`le_of_mem_timetable`), so that what is in time for a deadline stands first
(`inTime_timetable_isPrefix`). `World.receiveAll` takes deliveries in without a clock, one after the
other until one of them ends the turn.
-/

set_option autoImplicit false

namespace CitedChat

/-- How long an act takes while a submission is in flight; who hangs never comes to an end. -/
def Act.span : Act → Option Nat
  | .wait ms | .awaitIdle ms => some ms
  | .hang => none
  | .abort | .watch => some 0

/-- What a transport delivers. -/
inductive Arrival where
  /-- The call of a streamed turn gives a stream, or a connection is opened. -/
  | opened
  | payload (raw : String)
  | failed (error : ServiceError)
  /-- The stream is at its end. -/
  | closed
  | replied (reply : Reply)

/-- What the call of a batch turn delivers. -/
def Arrival.ofExchange : Except ServiceError Reply → Arrival
  | .error error => .failed error
  | .ok reply => .replied reply

/-- What items deliver from an instant on, each delivery with its instant; `last` is delivered at
their end, and nothing behind a failure. -/
def timetable (last : Arrival) (instant : Nat) : List Item → List (Nat × Arrival)
  | [] => [(instant, last)]
  | .act act :: rest =>
    match act.span with
    | none => []
    | some ms => timetable last (instant + ms) rest
  | .opened :: rest => (instant, .opened) :: timetable last instant rest
  | .payload raw :: rest => (instant, .payload raw) :: timetable last instant rest
  | .fail error :: _ => [(instant, .failed error)]

/-- What a transport is asked to do for a request: the script of a streamed turn, or the acts of the
call of a batch turn. -/
def Transport.items (transport : Transport) (mode : Mode) (request : List Turn) : List Item :=
  match mode with
  | .streaming => transport.script request
  | .batch => transport.connect.map .act

/-- What a transport delivers at the end of what it is asked to do. -/
def Transport.last (transport : Transport) (mode : Mode) (request : List Turn) : Arrival :=
  match mode with
  | .streaming => .closed
  | .batch => .ofExchange (transport.exchange request)

/-- What a transport delivers for a request made at an instant. -/
def Transport.timetable (transport : Transport) (mode : Mode) (request : List Turn)
    (instant : Nat) : List (Nat × Arrival) :=
  CitedChat.timetable (transport.last mode request) instant (transport.items mode request)

/-- The deliveries before a deadline, where none means that there is none. -/
def inTime (deadline : Option Nat) (entries : List (Nat × Arrival)) : List (Nat × Arrival) :=
  entries.filter fun entry ↦ deadline.all (entry.1 < ·)

@[simp] theorem inTime_none (entries : List (Nat × Arrival)) : inTime none entries = entries :=
  List.filter_eq_self.2 fun _ _ ↦ rfl

theorem inTime_cons {deadline : Option Nat} {instant : Nat}
    (hbefore : deadline.all (instant < ·) = true) (arrival : Arrival)
    (rest : List (Nat × Arrival)) :
    inTime deadline ((instant, arrival) :: rest) = (instant, arrival) :: inTime deadline rest :=
  List.filter_cons_of_pos hbefore

/-! ### The order of a timetable -/

section Order

variable (last : Arrival)

theorem le_of_mem_timetable (items : List Item) (instant : Nat) :
    ∀ entry ∈ timetable last instant items, instant ≤ entry.1 := by
  induction items generalizing instant with
  | nil => exact List.forall_mem_singleton.2 (Nat.le_refl _)
  | cons item rest ih =>
    cases item with
    | act act =>
      rw [timetable]
      cases act.span with
      | none => exact nofun
      | some ms =>
        intro entry hmem
        have hlater := ih (instant + ms) entry hmem
        omega
    | opened => exact List.forall_mem_cons.2 ⟨Nat.le_refl _, ih instant⟩
    | payload raw => exact List.forall_mem_cons.2 ⟨Nat.le_refl _, ih instant⟩
    | fail error => exact List.forall_mem_singleton.2 (Nat.le_refl _)

/-- Nothing is in time once the deadline is over. -/
theorem inTime_timetable_of_le {deadline instant : Nat} (hover : deadline ≤ instant)
    (items : List Item) : inTime (some deadline) (timetable last instant items) = [] := by
  rw [inTime, List.filter_eq_nil_iff]
  intro entry hmem
  have hlater := le_of_mem_timetable last items instant entry hmem
  have hlate : ¬ entry.1 < deadline := by omega
  simpa using hlate

/-- What is delivered in time is delivered first. -/
theorem inTime_timetable_isPrefix (deadline : Option Nat) (items : List Item) (instant : Nat) :
    inTime deadline (timetable last instant items) <+: timetable last instant items := by
  cases deadline with
  | none => exact ⟨[], by rw [inTime_none, List.append_nil]⟩
  | some deadline =>
    induction items generalizing instant with
    | nil =>
      obtain hbefore | hover := Nat.lt_or_ge instant deadline
      · have hfirst : (some deadline).all (instant < ·) = true := decide_eq_true hbefore
        rw [timetable, inTime_cons hfirst]
        exact List.prefix_rfl
      · rw [inTime_timetable_of_le last hover]
        exact List.nil_prefix
    | cons item rest ih =>
      obtain hbefore | hover := Nat.lt_or_ge instant deadline
      · have hfirst : (some deadline).all (instant < ·) = true := decide_eq_true hbefore
        cases item with
        | act act =>
          rw [timetable]
          cases act.span with
          | none => exact List.nil_prefix
          | some ms => exact ih (instant + ms)
        | opened =>
          rw [timetable, inTime_cons hfirst]
          exact (List.prefix_cons_inj _).2 (ih instant)
        | payload raw =>
          rw [timetable, inTime_cons hfirst]
          exact (List.prefix_cons_inj _).2 (ih instant)
        | fail error =>
          rw [timetable, inTime_cons hfirst]
          exact List.prefix_rfl
      · rw [inTime_timetable_of_le last hover]
        exact List.nil_prefix

end Order

namespace World

/-- An act that is no abort is a wait of its span, but for what is noted of waits for idleness. -/
theorem perform_eq_suspend (w : World) (f : Flight) {act : Act} (hact : act ≠ .abort) :
    ∃ answers parked, w.perform f act =
      ({ (w.suspend f (act.span.map (w.now + ·))).1 with idleAnswers := answers, parked := parked },
        (w.suspend f (act.span.map (w.now + ·))).2) := by
  cases act with
  | wait ms => exact ⟨_, _, rfl⟩
  | hang => exact ⟨_, _, rfl⟩
  | abort => exact absurd rfl hact
  | awaitIdle ms =>
    obtain ⟨answers, hperform⟩ := perform_awaitIdle w f ms
    exact ⟨answers, _, hperform⟩
  | watch =>
    refine ⟨w.idleAnswers, w.parked + 1, ?_⟩
    simp [perform, watch, World.suspend, wakening, Act.span]

/-! ### Taking deliveries in -/

/-- Takes in one delivery, whatever the clock says: the turn goes on with another assembler and
world, or it is over. -/
def receive (f : Flight) : Assembler × World → Arrival → Except (World × Ending) (Assembler × World)
  | (a, w), .opened => .ok (a, w)
  | (a, w), .payload raw =>
    match w.fold f (a.feed raw).1 with
    | (v, some error) => .error (v, .broken error)
    | (v, none) =>
      match (a.feed raw).2.state with
      | .streaming => .ok ((a.feed raw).2, v)
      | .finished => .error (v, .outcome .finished)
      | .halted => .error (v.warn f haltedText, .outcome .halted)
  | (_, w), .failed error => .error (w.failed error)
  | (_, w), .closed => .error (w.warn f closedText, .outcome .incomplete)
  | (_, w), .replied reply => .error (w.adopt f reply)

/-- Takes in deliveries in order up to the one that ends the turn. -/
def receiveAll (f : Flight) (start : Assembler × World) (entries : List (Nat × Arrival)) :
    Except (World × Ending) (Assembler × World) :=
  entries.foldlM (fun reached entry ↦ receive f reached entry.2) start

variable {f g : Flight}

/-- Of a flight only the permit matters for what it takes in. -/
theorem receive_congr (hpermit : f.permit = g.permit) : receive f = receive g := by
  have hcarry (directives : List Directive) (changed : Bool) (w : World) :
      carryOut f directives changed w = carryOut g directives changed w := by
    induction directives generalizing changed w with
    | nil => rfl
    | cons directive rest ih =>
      cases directive with
      | apply action =>
        rw [carryOut, carryOut]
        cases w.conversation.apply action with
        | ok c => exact ih true _
        | error error => rfl
      | finish signal => exact ih changed w
      | reject error =>
        rw [carryOut, carryOut, hpermit]
        exact ih changed _
  have hfold (w : World) (directives : List Directive) :
      w.fold f directives = w.fold g directives := by
    rw [fold, fold, hcarry, hpermit]
  have hadopt (w : World) (reply : Reply) : w.adopt f reply = w.adopt g reply := by
    unfold adopt replace
    rw [hpermit]
  funext reached arrival
  obtain ⟨a, w⟩ := reached
  cases arrival with
  | payload raw =>
    rw [receive, receive, hfold]
    unfold warn
    rw [hpermit]
  | replied reply => rw [receive, receive, hadopt]
  | closed =>
    rw [receive, receive]
    unfold warn
    rw [hpermit]
  | opened => rfl
  | failed error => rfl

end World

end CitedChat
