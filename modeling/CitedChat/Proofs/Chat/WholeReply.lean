import CitedChat.Proofs.Chat.Cancellation
import CitedChat.Proofs.Chat.Timetable

/-!
A batch turn is all or nothing. Its call comes to the reply exactly if nothing on the way aborts or
holds up the turn for too long (`World.passes_iff`), and the reply is then adopted whole or leaves
the conversation alone (`Reply.adopted?`). At every point of the course, whoever aborts in between,
the conversation is the one with the question and an empty answer, or the one that the whole reply
gives (`Submission.WholeOrNone`).
-/

set_option autoImplicit false

namespace CitedChat

/-- The conversation that a reply to a request gives, unless it is no answer. -/
def Reply.adopted? (request : List Turn) : Reply → Option Conversation
  | .transcript turns => some ⟨turns⟩
  | .turn (.assistant text sources) => some ⟨request ++ [.assistant text sources]⟩
  | .turn (.user _) => none

/-! ### The call -/

/-- A flight that goes on at an instant may wait for a later one: that one comes before an abort
from outside and before the deadline, and not after the flight is dropped. -/
def Flight.Allows (f : Flight) (now instant : Nat) : Prop :=
  instant ≤ now ∨
    f.abortAt.all (instant < ·) ∧ f.deadline.all (instant < ·) ∧ f.limit.all (instant ≤ ·)

/-- To wait for an instant is to wait for any instant on the way first. -/
theorem Flight.allows_trans_iff (f : Flight) {now middle instant : Nat} (hfirst : now ≤ middle)
    (hsecond : middle ≤ instant) :
    f.Allows now middle ∧ f.Allows middle instant ↔ f.Allows now instant := by
  simp only [Allows, Option.all_eq_true, decide_eq_true_eq]
  constructor
  · rintro ⟨hearly | hbounds, hlate | hbounds'⟩
    · exact .inl (by omega)
    · exact .inr hbounds'
    · obtain rfl : instant = middle := by omega
      exact .inr hbounds
    · exact .inr hbounds'
  · rintro (hearly | ⟨habort, hdeadline, hlimit⟩)
    · exact ⟨.inl (by omega), .inl (by omega)⟩
    · refine ⟨.inr ⟨fun a ha ↦ ?_, fun a ha ↦ ?_, fun a ha ↦ ?_⟩, .inr ⟨habort, hdeadline, hlimit⟩⟩
      · exact Nat.lt_of_le_of_lt hsecond (habort a ha)
      · exact Nat.lt_of_le_of_lt hsecond (hdeadline a ha)
      · exact Nat.le_trans hsecond (hlimit a ha)

namespace World

variable {u v w : World} {f : Flight}

/-- A wait of a turn that is not cancelled comes to its end exactly if the turn may wait so long. -/
theorem suspend_eq_none_iff (hgood : w.isCancelled f = false) (ms : Nat) :
    (w.suspend f (some (w.now + ms))).2 = none ↔ f.Allows w.now (w.now + ms) := by
  obtain ⟨permit, deadline, abortAt, limit⟩ := f
  simp only [suspend, wakening, hgood, Flight.Allows]
  cases abortAt <;> cases deadline <;> cases limit <;> simp only [earlier] <;> grind

/-- A wait that comes to its end takes its time and does nothing else. -/
theorem suspend_of_eq_none {ms : Nat} (hend : (w.suspend f (some (w.now + ms))).2 = none) :
    (w.suspend f (some (w.now + ms))).1 = { w with now := w.now + ms } := by
  have hwake : (w.wakening f (some (w.now + ms))).instant = w.now + ms ∧
      (w.wakening f (some (w.now + ms))).aborts = false := by
    simp only [suspend, wakening] at hend ⊢
    grind
  simp only [suspend, hwake.1, hwake.2]
  rfl

theorem suspend_none_ne_none (hgood : w.isCancelled f = false) : (w.suspend f none).2 ≠ none := by
  obtain ⟨permit, deadline, abortAt, limit⟩ := f
  simp only [suspend, wakening, hgood]
  cases abortAt <;> cases deadline <;> cases limit <;> simp only [earlier] <;> grind

/-- Once a permit is called off it stays so in a call. -/
theorem CalledOff.performAll (h : CalledOff w f) (acts : List Act) :
    CalledOff (w.performAll f acts).1 f := by
  induction acts generalizing w with
  | nil => exact h
  | cons act rest ih =>
    have hstep : CalledOff (w.perform f act).1 f := h.of_gate (gate_perform w f act)
    rw [World.performAll]
    rcases hperform : w.perform f act with ⟨v, _ | i⟩ <;> rw [hperform] at hstep
    · exact ih hstep
    · exact hstep

/-- A call comes to its reply, which is not too late. -/
def Passes (w : World) (f : Flight) (acts : List Act) : Prop :=
  (w.performAll f acts).2 = none ∧
    (w.performAll f acts).1.session.gate.isStale f.permit = false

theorem passes_cons (act : Act) (rest : List Act) :
    w.Passes f (act :: rest) ↔
      (w.perform f act).2 = none ∧ (w.perform f act).1.Passes f rest := by
  rw [Passes, Passes, performAll]
  rcases w.perform f act with ⟨v, _ | i⟩ <;> simp

/-- A call comes to its reply exactly if the transport does not abort the turn on the way and the
turn may wait for the instant of the reply. -/
theorem passes_iff (hholds : Holds w f) (hgood : w.isCancelled f = false)
    (hfresh : w.session.gate.isStale f.permit = false) (last : Arrival) (acts : List Act) :
    w.Passes f acts ↔
      .abort ∉ acts ∧ ∃ instant, timetable last w.now (acts.map .act) = [(instant, last)] ∧
        f.Allows w.now instant := by
  induction acts generalizing w with
  | nil => exact iff_of_true ⟨rfl, hfresh⟩ ⟨List.not_mem_nil, w.now, rfl, .inl (Nat.le_refl _)⟩
  | cons act rest ih =>
    rw [passes_cons, List.mem_cons, List.map_cons]
    by_cases hact : act = .abort
    · have hoff : CalledOff (w.perform f act).1 f := hholds.calledOff (by rw [hact]; rfl)
      refine iff_of_false ?_ fun ⟨hquiet, _⟩ ↦ hquiet (.inl hact.symm)
      rintro ⟨-, -, hfresh⟩
      rw [(hoff.performAll rest).isStale] at hfresh
      cases hfresh
    · obtain ⟨answers, parked, hperform⟩ := perform_eq_suspend w f hact
      rw [hperform, timetable]
      cases act.span with
      | none =>
        refine iff_of_false (fun hpasses ↦ suspend_none_ne_none hgood hpasses.1) ?_
        rintro ⟨-, instant, hnothing, -⟩
        cases hnothing
      | some ms =>
        have hend := suspend_eq_none_iff hgood ms
        have hsplit (instant : Nat)
            (honly : timetable last (w.now + ms) (rest.map .act) = [(instant, last)]) :
            f.Allows w.now (w.now + ms) ∧ f.Allows (w.now + ms) instant ↔ f.Allows w.now instant :=
          f.allows_trans_iff (Nat.le_add_right _ _)
            (le_of_mem_timetable last (rest.map .act) _ (instant, last) (by simp [honly]))
        have hother : .abort ∉ rest ↔ ¬ (.abort = act ∨ .abort ∈ rest) := by
          simp [Ne.symm hact]
        rw [← hother]
        dsimp only [Option.map_some]
        by_cases hallows : f.Allows w.now (w.now + ms)
        · rw [suspend_of_eq_none (hend.2 hallows)]
          refine (and_iff_right (hend.2 hallows)).trans ((ih
            (w := { w with now := w.now + ms, idleAnswers := answers, parked := parked })
            (hholds.of_gate (.inl rfl)) hgood hfresh).trans (and_congr_right fun _ ↦ ?_))
          refine exists_congr fun instant ↦ and_congr_right fun honly ↦ ?_
          rw [← hsplit instant honly]
          exact (and_iff_right hallows).symm
        · refine iff_of_false (fun hpasses ↦ hallows (hend.1 hpasses.1)) ?_
          rintro ⟨-, instant, honly, hlate⟩
          exact hallows ((hsplit instant honly).2 hlate).1

/-- A batch turn that asks a question now may wait for its reply until an instant: the transport
does not abort the turn, nor does anybody outside before that instant or at it, unless the turn
does not wait at all; the instant is before the deadline, and the turn is not dropped before it. -/
structure InTime (w : World) (transport : Transport) (limit abortAfter : Option Nat)
    (instant : Nat) : Prop where
  quiet : .abort ∉ transport.connect
  unaborted : instant = w.now ∨ abortAfter.all (instant < w.now + ·)
  before : w.session.timeout.all (1000 * instant < 1000 * w.now + ·)
  driven : limit.all (instant ≤ w.now + ·)

theorem inTime_iff (w : World) (transport : Transport) (limit abortAfter : Option Nat)
    {instant : Nat} (hlater : w.now ≤ instant) :
    w.InTime transport limit abortAfter instant ↔
      (w.flight limit abortAfter).deadline.all (w.now < ·) = true ∧
      .abort ∉ transport.connect ∧ (w.flight limit abortAfter).Allows w.now instant := by
  have hceil (micros : Nat) : 1000 * instant < 1000 * w.now + micros ↔
      instant < w.now + Clock.ceilMillis micros := by
    rw [Clock.ceilMillis]
    omega
  have hunfold : w.InTime transport limit abortAfter instant ↔
      .abort ∉ transport.connect ∧ (instant = w.now ∨ abortAfter.all (instant < w.now + ·)) ∧
      w.session.timeout.all (1000 * instant < 1000 * w.now + ·) ∧
      limit.all (instant ≤ w.now + ·) :=
    ⟨fun h ↦ ⟨h.quiet, h.unaborted, h.before, h.driven⟩, fun h ↦ ⟨h.1, h.2.1, h.2.2.1, h.2.2.2⟩⟩
  rw [hunfold, Flight.Allows, flight]
  cases w.session.timeout <;> cases abortAfter <;> cases limit <;>
    simp only [Option.all_none, Option.all_some, Option.map_none, Option.map_some,
      decide_eq_true_eq, hceil] <;> grind

/-- A transport delivers its one reply at one instant, or never. -/
theorem timetable_acts (last : Arrival) (instant : Nat) (acts : List Act) :
    timetable last instant (acts.map .act) = [] ∨
      ∃ later, timetable last instant (acts.map .act) = [(later, last)] := by
  induction acts generalizing instant with
  | nil => exact .inr ⟨instant, rfl⟩
  | cons act rest ih =>
    rw [List.map_cons, timetable]
    cases act.span with
    | none => exact .inl rfl
    | some ms => exact ih _

theorem replied_mem_timetable_iff (transport : Transport) (request : List Turn)
    (now instant : Nat) (reply : Reply) :
    (instant, .replied reply) ∈ transport.timetable .batch request now ↔
      transport.timetable .batch request now =
          [(instant, .ofExchange (transport.exchange request))] ∧
        transport.exchange request = .ok reply := by
  have hreplied : .replied reply = Arrival.ofExchange (transport.exchange request) ↔
      transport.exchange request = .ok reply := by
    cases transport.exchange request <;> simp [Arrival.ofExchange, eq_comm]
  obtain hnone | ⟨later, honly⟩ :=
    timetable_acts (.ofExchange (transport.exchange request)) now transport.connect
  · have htable : transport.timetable .batch request now = [] := hnone
    simp [htable]
  · have htable : transport.timetable .batch request now =
        [(later, .ofExchange (transport.exchange request))] := honly
    rw [htable, List.mem_singleton, Prod.mk.injEq, hreplied, List.cons.injEq, Prod.mk.injEq]
    simp [eq_comm]

/-- Nothing ends a batch turn before its reply comes exactly if that comes in time. -/
theorem awaits_iff (w : World) (text : String) (transport : Transport)
    (limit abortAfter : Option Nat) :
    w.Awaits text transport limit abortAfter ↔
      ∃ instant, transport.timetable .batch (w.request text) w.now =
          [(instant, .ofExchange (transport.exchange (w.request text)))] ∧
        w.InTime transport limit abortAfter instant := by
  have hgood : (w.asked text).isCancelled (w.flight limit abortAfter) = false :=
    w.session.gate.isCancelled_taken
  have hstart : (w.asked text).interrupt? (w.flight limit abortAfter) = none ↔
      (w.flight limit abortAfter).deadline.all (w.now < ·) = true := by
    rw [interrupt?, hgood]
    cases (w.flight limit abortAfter).deadline <;> grind [asked, setGate, revise]
  have hcall : w.Awaits text transport limit abortAfter ↔
      (w.asked text).interrupt? (w.flight limit abortAfter) = none ∧
        Passes { w.asked text with requests := (w.asked text).requests.push (w.request text) }
          (w.flight limit abortAfter) transport.connect := by
    rw [Awaits, call, Passes]
    cases (w.asked text).interrupt? (w.flight limit abortAfter) with
    | some i => simp
    | none =>
      dsimp only
      rcases World.performAll _ (w.flight limit abortAfter) transport.connect with ⟨v, _ | i⟩ <;>
        simp
  rw [hcall, hstart, passes_iff (w := { w.asked text with
      requests := (w.asked text).requests.push (w.request text) })
    ((holds_asked w text limit abortAfter).of_gate (.inl rfl)) hgood w.session.gate.isStale_taken
    (transport.last .batch (w.request text))]
  constructor
  · rintro ⟨hbefore, hquiet, instant, honly, hallows⟩
    refine ⟨instant, honly, (w.inTime_iff transport limit abortAfter ?_).2
      ⟨hbefore, hquiet, hallows⟩⟩
    exact le_of_mem_timetable _ _ w.now _ (honly ▸ List.mem_singleton_self _)
  · rintro ⟨instant, honly, hintime⟩
    have hlater : w.now ≤ instant :=
      le_of_mem_timetable _ _ w.now _ (honly ▸ List.mem_singleton_self _)
    obtain ⟨hbefore, hquiet, hallows⟩ := (w.inTime_iff transport limit abortAfter hlater).1 hintime
    exact ⟨hbefore, hquiet, instant, honly, hallows⟩

/-! ### The reply -/

/-- What a reply does to a turn that waits for it: it is adopted whole, or the turn fails and the
conversation stays. -/
theorem adopt_cases {before : List Turn} (hwaits : w.conversation = ⟨before ++ [.placeholder]⟩)
    (f : Flight) (reply : Reply) :
    match reply.adopted? before with
    | some c => w.adopt f reply = w.replace f c
    | none => (w.adopt f reply).2 ≠ .outcome .finished ∧ Quiet w (w.adopt f reply).1 := by
  cases reply with
  | transcript turns => rfl
  | turn turn =>
    cases turn with
    | user text =>
      exact ⟨fun h ↦ (by cases h), quiet_emit w rfl⟩
    | assistant text sources => exact adopt_assistant hwaits f text sources

/-- A batch turn finishes exactly if nothing ends it before its reply comes and that is adopted. -/
theorem finished_runBatch_iff (w : World) (text : String) (transport : Transport)
    (limit abortAfter : Option Nat) :
    ((w.asked text).runBatch (w.flight limit abortAfter) transport (w.request text)).2 =
        .outcome .finished ↔
      w.Awaits text transport limit abortAfter ∧
        ∃ reply c, transport.exchange (w.request text) = .ok reply ∧
          reply.adopted? (w.request text) = some c := by
  have hearly := call_ne_finished (w.asked text) (w.flight limit abortAfter) transport.connect
    (w.request text)
  have hwaits := (quiet_call (w.asked text) (w.flight limit abortAfter) transport.connect
    (w.request text)).conversation.trans (conversation_asked w text)
  rw [runBatch_eq, Awaits]
  rcases hcall : call (w.asked text) (w.flight limit abortAfter) transport.connect
    (w.request text) with ⟨v, _ | ending⟩ <;> rw [hcall] at hearly hwaits
  · rw [eq_self, true_and]
    dsimp only
    cases transport.exchange (w.request text) with
    | error error =>
      refine iff_of_false (fun h ↦ by cases h) ?_
      rintro ⟨reply, c, hreply, -⟩
      cases hreply
    | ok reply =>
      have hadopt := adopt_cases hwaits (w.flight limit abortAfter) reply
      cases hadopted : reply.adopted? (w.request text) with
      | some c =>
        rw [hadopted] at hadopt
        refine iff_of_true ?_ ⟨reply, c, rfl, hadopted⟩
        exact congrArg Prod.snd hadopt
      | none =>
        rw [hadopted] at hadopt
        refine iff_of_false hadopt.1 ?_
        rintro ⟨other, c, hother, hsome⟩
        obtain rfl : reply = other := Except.ok.inj hother
        rw [hadopted] at hsome
        cases hsome
  · refine iff_of_false (fun h ↦ hearly (congrArg some h)) ?_
    rintro ⟨hnone, -⟩
    cases hnone

end World

open World

namespace Submission

variable {s : Submission} {c d : Stage × World}

/-- A batch turn stands with the conversation that the whole reply gives if it is finished, and
else with the question and an empty answer. -/
def WholeOrNone (s : Submission) (c : Stage × World) : Prop :=
  match c.1 with
  | .done (.outcome .finished) => ∃ reply, s.transport.exchange s.request = .ok reply ∧
      reply.adopted? s.request = some c.2.conversation
  | .reading _ _ _ => False
  | _ => c.2.conversation = ⟨s.request ++ [.placeholder]⟩

theorem wholeOrNone_close {w : World} {ending : Ending} (hending : ending ≠ .outcome .finished)
    (hnone : w.conversation = ⟨s.request ++ [.placeholder]⟩) :
    s.WholeOrNone (close (w, ending)) := by
  cases ending with
  | outcome outcome =>
    cases outcome with
    | finished => exact absurd rfl hending
    | _ => exact hnone
  | _ => exact hnone

/-- A reply is taken in whole or not at all. -/
theorem wholeOrNone_reply {w : World} (hwaits : w.conversation = ⟨s.request ++ [.placeholder]⟩) :
    s.WholeOrNone (close (s.reply w)) := by
  rw [reply]
  cases w.session.gate.isStale s.flight.permit with
  | true => exact wholeOrNone_close (fun h ↦ by cases h) hwaits
  | false =>
    rw [if_neg Bool.false_ne_true]
    cases hreply : s.transport.exchange s.request with
    | error error => exact wholeOrNone_close (fun h ↦ by cases h) hwaits
    | ok reply =>
      have hadopt := adopt_cases hwaits s.flight reply
      cases hadopted : reply.adopted? s.request with
      | some c =>
        rw [hadopted] at hadopt
        dsimp only at hadopt ⊢
        rw [hadopt]
        exact ⟨reply, hreply, hadopted⟩
      | none =>
        rw [hadopted] at hadopt
        exact wholeOrNone_close hadopt.1 (hadopt.2.conversation.trans hwaits)

theorem wholeOrNone_step (hbatch : s.mode = .batch) (h : s.WholeOrNone c) :
    s.WholeOrNone (s.step c) := by
  obtain ⟨stage, w⟩ := c
  cases stage with
  | ready =>
    simp only [step]
    cases w.interrupt? s.flight with
    | some i =>
      exact wholeOrNone_close (interrupted_ne_finished w s.flight i)
        ((quiet_interrupted w s.flight i).conversation.trans h)
    | none =>
      rw [hbatch]
      exact h
  | reading polling items a => exact h.elim
  | calling acts =>
    cases acts with
    | nil => exact wholeOrNone_reply h
    | cons act rest =>
      have hquiet := (undisturbed_perform w s.flight act).quiet
      rw [step, perform]
      rcases hperform : w.perform s.flight act with ⟨v, _ | i⟩ <;> rw [hperform] at hquiet
      · exact hquiet.conversation.trans h
      · exact wholeOrNone_close (interrupted_ne_finished v s.flight i)
          ((quiet_interrupted v s.flight i).conversation.trans (hquiet.conversation.trans h))
  | done ending => exact h

theorem Leads.wholeOrNone (hleads : s.Leads c d) (hbatch : s.mode = .batch)
    (h : s.WholeOrNone c) : s.WholeOrNone d := by
  induction hleads with
  | refl c => exact h
  | step hrest ih => exact ih (wholeOrNone_step hbatch h)
  | abort hrest ih => exact ih h

theorem WholeOrNone.of_finished (h : s.WholeOrNone c) (hdone : c.1 = .done (.outcome .finished)) :
    ∃ reply, s.transport.exchange s.request = .ok reply ∧
      reply.adopted? s.request = some c.2.conversation := by
  rw [WholeOrNone, hdone] at h
  exact h

theorem WholeOrNone.of_not_finished (h : s.WholeOrNone c)
    (hother : c.1 ≠ .done (.outcome .finished)) :
    c.2.conversation = ⟨s.request ++ [.placeholder]⟩ := by
  obtain ⟨stage, w⟩ := c
  cases stage with
  | reading polling items a => exact h.elim
  | done ending =>
    cases ending with
    | outcome outcome =>
      cases outcome with
      | finished => exact absurd rfl hother
      | _ => exact h
    | _ => exact h
  | _ => exact h

/-- No abort of a batch turn is overtaken. -/
theorem WholeOrNone.overtaking? (h : s.WholeOrNone c) : c.1.overtaking? s.flight = none := by
  obtain ⟨stage, w⟩ := c
  cases stage with
  | reading polling items a => exact h.elim
  | _ => rfl

theorem Aborts.wholeOrNone (habort : s.Aborts c d) (hbatch : s.mode = .batch)
    (h : s.WholeOrNone c) : s.WholeOrNone d := by
  cases habort with
  | between hopen => exact h
  | within habort => exact wholeOrNone_step hbatch h

end Submission

namespace World

/-- A batch turn is all or nothing. Whatever the transport does, and whoever aborts the turn or
drops it: it finishes if and only if a reply that is a transcript or an answering turn comes before
any abort, strictly before the deadline and while the turn is still driven. The conversation is then
the transcript, or the one before with the question and that answer. With every other ending it is
the one before with the question and an empty answer, and so it is when the turn is left at any
point before its end. A turn that is aborted ends as cancelled and takes in no reply. -/
theorem submit_batch_whole_or_none (w : World) {text : String}
    (htext : Text.isBlankText text = false) (hidle : w.session.gate.busy = false)
    (transport : Transport) (limit abortAfter : Option Nat) :
    let s := w.submission .batch text transport limit abortAfter
    let nothing : Conversation := ⟨w.conversation.turns ++ [.user text, .assistant "" []]⟩
    let Adopts (c : Conversation) : Prop := ∃ instant reply,
      (instant, .replied reply) ∈ transport.timetable .batch (w.request text) w.now ∧
        w.InTime transport limit abortAfter instant ∧ reply.adopted? (w.request text) = some c
    ∃ ended, w.submit .batch text transport limit abortAfter = .ok ended ∧
      (ended.2 = .outcome .finished ↔ ∃ c, Adopts c) ∧
      (∀ c, Adopts c → ended.1.conversation = c) ∧
      (ended.2 ≠ .outcome .finished →
        ended.1.conversation = nothing ∧ ended.1.leave.conversation = nothing) ∧
      ∀ c, s.Leads (.ready, w.asked text) c →
        (c.1 = .done (.outcome .finished) →
          ∃ reply, transport.exchange (w.request text) = .ok reply ∧
            reply.adopted? (w.request text) = some c.2.conversation) ∧
        (c.1 ≠ .done (.outcome .finished) →
          c.2.conversation = nothing ∧ c.2.leave.conversation = nothing) ∧
        ∀ d, s.Aborts c d → ∀ ending u, s.Leads d (.done ending, u) →
          ending = .outcome .cancelled ∧ u.conversation = nothing := by
  intro s nothing Adopts
  have hnothing : (⟨s.request ++ [.placeholder]⟩ : Conversation) = nothing :=
    congrArg Conversation.mk (List.append_assoc _ _ _)
  have hstart : s.WholeOrNone (.ready, w.asked text) := conversation_asked w text
  have hadopts (c : Conversation) : Adopts c ↔
      (∃ instant, transport.timetable .batch (w.request text) w.now =
          [(instant, .ofExchange (transport.exchange (w.request text)))] ∧
        w.InTime transport limit abortAfter instant) ∧
      ∃ reply, transport.exchange (w.request text) = .ok reply ∧
        reply.adopted? (w.request text) = some c := by
    simp only [Adopts, replied_mem_timetable_iff]
    grind
  have hsubmit := submit_eq w .batch htext hidle transport limit abortAfter
  obtain ⟨n, v, hrun, hended⟩ := run_of_submit hsubmit
  have hfinished := finished_runBatch_iff w text transport limit abortAfter
  rw [awaits_iff] at hfinished
  have hend : s.WholeOrNone (.done _, v) := hrun ▸ (s.leads_run n _).wholeOrNone rfl hstart
  have hkept : ∀ ending, (v.conclude s.flight ending).conversation = v.conversation :=
    fun ending ↦ (quiet_conclude v s.flight ending).conversation
  refine ⟨_, hsubmit, hfinished.trans ?_, fun c hc ↦ ?_, fun hother ↦ ?_, fun c hleads ↦ ?_⟩
  · simp only [hadopts]
    grind
  · obtain ⟨hintime, reply, hreply, hadopted⟩ := (hadopts c).1 hc
    obtain ⟨other, hother, hwhole⟩ :=
      hend.of_finished (congrArg Stage.done (hfinished.2 ⟨hintime, reply, c, hreply, hadopted⟩))
    obtain rfl : reply = other := Except.ok.inj (hreply.symm.trans hother)
    rw [hended]
    exact (hkept _).trans (Option.some.inj (hwhole.symm.trans hadopted))
  · have hnone := (hend.of_not_finished fun h ↦ hother (Stage.done.inj h)).trans hnothing
    have hconversation := (congrArg conversation hended).trans ((hkept _).trans hnone)
    exact ⟨hconversation, (undisturbed_leave _).conversation.trans hconversation⟩
  · have hpoint := hleads.wholeOrNone rfl hstart
    refine ⟨hpoint.of_finished, fun hother ↦ ?_, fun d habort ending u hafter ↦ ?_⟩
    · have hnone := (hpoint.of_not_finished hother).trans hnothing
      exact ⟨hnone, (undisturbed_leave _).conversation.trans hnone⟩
    · have haborted := habort.wholeOrNone rfl hpoint
      have hends := habort.endsAborted (hleads.holds (holds_asked w text limit abortAfter)) hafter
      rw [haborted.overtaking?] at hends
      obtain rfl : ending = .outcome .cancelled := hends.1
      exact ⟨rfl, ((hafter.wholeOrNone rfl haborted).of_not_finished fun h ↦ by cases h).trans
        hnothing⟩

/-- A reply comes after a wait; the turn would be dropped at that very instant. -/
theorem submit_batch_whole_answer :
    let transport : Transport :=
      { connect := [.wait 5], stream := fun _ ↦ .ok []
        exchange := fun _ ↦ .ok (.turn (.assistant "" [⟨3, 0, "a", "b", "c"⟩])) }
    Text.isBlankText "hi" = false ∧ ({} : World).session.gate.busy = false ∧
      ∃ ended, ({} : World).submit .batch "hi" transport (some 5) (some 6) = .ok ended ∧
        ended.2 = .outcome .finished ∧
        ended.1.conversation = ⟨[.user "hi", .assistant "" [⟨3, 0, "a", "b", "c"⟩]]⟩ := by
  intro transport
  have htext : Text.isBlankText "hi" = false := by decide
  obtain ⟨ended, hsubmit, hfinished, hadopts, -⟩ :=
    submit_batch_whole_or_none {} htext rfl transport (some 5) (some 6)
  have hreply : (5, Arrival.replied (.turn (.assistant "" [⟨3, 0, "a", "b", "c"⟩]))) ∈
      transport.timetable .batch (({} : World).request "hi") 0 := List.mem_singleton_self _
  have hintime : ({} : World).InTime transport (some 5) (some 6) 5 :=
    ⟨by decide, .inr (by decide), rfl, by decide⟩
  exact ⟨htext, rfl, ended, hsubmit, hfinished.2 ⟨_, 5, _, hreply, hintime, rfl⟩,
    hadopts _ ⟨5, _, hreply, hintime, rfl⟩⟩

end World

end CitedChat
