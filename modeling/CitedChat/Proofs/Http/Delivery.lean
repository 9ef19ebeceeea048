import CitedChat.Http.Connection
import CitedChat.Proofs.Chat.Listening

/-!
What a connection delivers. Signals are handed on one by one (`deliver_cons`, `deliver_append`), so
what is delivered is known at every moment: an item for each signal before the first error
(`Signal.item?`), and behind these what the error itself is told as (`Signal.failure?`). An event
source that reconnects goes on with signals behind the error; none of them is seen
(`deliver_cut`).
-/

set_option autoImplicit false

namespace CitedChat

namespace Signal

/-- What is handed on of a signal that is no error. -/
def item? : Signal → Option Item
  | .opened => some .opened
  | .message m => if m.event = "message" then some (.payload m.data) else none
  | .ended | .refused _ _ | .broken _ => none

/-- How an error is told; the end of the stream is not told. -/
def failure? : Signal → Option Item
  | .opened | .message _ | .ended => none
  | .refused status body => some (.fail (.status status body))
  | .broken detail => some (.fail (.sse detail))

/-- What a signal carries for the answer. -/
def data? : Signal → Option String
  | .message m => if m.event = "message" then some m.data else none
  | _ => none

end Signal

/-! ### One signal -/

variable {signal : Signal}

/-- An error is told, and that is all; another signal is handed on before the rest. -/
theorem deliver_cons (signal : Signal) (rest : List Signal) :
    deliver (signal :: rest) =
      if signal.isError = true then signal.failure?.toList
      else signal.item?.toList ++ deliver rest := by
  cases signal with
  | message m =>
    by_cases hevent : m.event = "message" <;>
      simp [deliver, Signal.isError, Signal.item?, hevent]
  | _ => rfl

theorem Signal.item?_ne_fail (signal : Signal) (error : ServiceError) :
    signal.item? ≠ some (.fail error) := by
  cases signal with
  | message m => by_cases hevent : m.event = "message" <;> simp [item?, hevent]
  | _ => simp [item?]

theorem Signal.payload?_item? (signal : Signal) :
    signal.item?.bind Item.payload? = signal.data? := by
  cases signal with
  | message m =>
    by_cases hevent : m.event = "message" <;> simp [item?, data?, hevent, Item.payload?]
  | _ => rfl

theorem Signal.payload?_failure? (signal : Signal) :
    signal.failure?.bind Item.payload? = none := by
  cases signal <;> rfl

/-! ### All signals -/

/-- The signals before the first error. -/
def beforeError (signals : List Signal) : List Signal :=
  signals.takeWhile fun signal ↦ !signal.isError

theorem beforeError_cons (signal : Signal) (rest : List Signal) :
    beforeError (signal :: rest) =
      if signal.isError = true then [] else signal :: beforeError rest := by
  cases herror : signal.isError <;> simp [beforeError, herror]

/-- Without an error, what is delivered of more signals comes behind; after one nothing does. -/
theorem deliver_append (signals more : List Signal) :
    deliver (signals ++ more) =
      deliver signals ++ if signals.any Signal.isError = true then [] else deliver more := by
  induction signals with
  | nil => rfl
  | cons signal rest ih =>
    rw [List.cons_append, deliver_cons, deliver_cons, ih, List.any_cons]
    by_cases herror : signal.isError = true
    · simp [herror]
    · simp [herror]

theorem deliver_eq (signals : List Signal) :
    deliver signals = (beforeError signals).filterMap Signal.item? ++
      ((signals.find? Signal.isError).bind Signal.failure?).toList := by
  induction signals with
  | nil => rfl
  | cons signal rest ih =>
    rw [deliver_cons, beforeError_cons, ih, List.find?_cons]
    by_cases herror : signal.isError = true
    · simp [herror]
    · cases hitem : signal.item? <;> simp [herror, hitem]

/-- What is handed on of signals that are no errors has no failure in it. -/
theorem fail_not_mem_items (signals : List Signal) (error : ServiceError) :
    .fail error ∉ signals.filterMap Signal.item? := by
  intro hmem
  obtain ⟨signal, -, hitem⟩ := List.mem_filterMap.1 hmem
  exact signal.item?_ne_fail error hitem

/-- A failure that is delivered is the last of what is delivered, and the only one. -/
theorem eq_nil_of_deliver_eq {signals : List Signal} {before after : List Item}
    {error : ServiceError} (hdeliver : deliver signals = before ++ .fail error :: after) :
    after = [] ∧ ∀ other, .fail other ∉ before := by
  rw [deliver_eq] at hdeliver
  cases hfailure : (signals.find? Signal.isError).bind Signal.failure? with
  | none =>
    rw [hfailure, Option.toList_none, List.append_nil] at hdeliver
    refine absurd ?_ (fail_not_mem_items (beforeError signals) error)
    rw [hdeliver]
    exact List.mem_append_right _ List.mem_cons_self
  | some failure =>
    rw [hfailure, Option.toList_some] at hdeliver
    -- The failure cannot be among the items before the last one.
    obtain rfl | ⟨earlier, last, rfl⟩ := after.eq_nil_or_concat
    · obtain ⟨hitems, -⟩ := List.append_inj' hdeliver rfl
      refine ⟨rfl, fun other ↦ ?_⟩
      rw [← hitems]
      exact fail_not_mem_items (beforeError signals) other
    · rw [List.concat_eq_append, ← List.cons_append, ← List.append_assoc] at hdeliver
      obtain ⟨hitems, -⟩ := List.append_inj' hdeliver rfl
      refine absurd ?_ (fail_not_mem_items (beforeError signals) error)
      rw [hitems]
      exact List.mem_append_right _ List.mem_cons_self

/-- The payloads are what the messages before the first error carry, each of them once. -/
theorem payloads_deliver (signals : List Signal) :
    (deliver signals).filterMap Item.payload? =
      (beforeError signals).filterMap Signal.data? := by
  rw [deliver_eq, List.filterMap_append, List.filterMap_filterMap]
  simp only [Signal.payload?_item?]
  cases herror : signals.find? Signal.isError with
  | none => exact List.append_nil _
  | some signal =>
    have hnone := signal.payload?_failure?
    cases hfailure : signal.failure? with
    | none => simp [hfailure]
    | some failure =>
      rw [hfailure] at hnone
      have hpayload : failure.payload? = none := hnone
      simp [hfailure, hpayload]

/-- A connection is delivered in order and cut at its first error, whatever signals its source goes
on to yield. For the signals before the first error there is an opening for each that opens, and a
payload with its data for each message of the event `message`; then the error is told, unless it is
the end of the stream; and that is all. So a failure comes last and comes once, no payload comes
twice, what was delivered stays, and nothing that is received behind an error is ever seen, nor is
anything waited for. -/
theorem deliver_cut (signals : List Signal) :
    deliver signals = (beforeError signals).filterMap Signal.item? ++
      ((signals.find? Signal.isError).bind Signal.failure?).toList ∧
    (∀ before error after, deliver signals = before ++ .fail error :: after →
      after = [] ∧ ∀ other, .fail other ∉ before) ∧
    (deliver signals).filterMap Item.payload? =
      (beforeError signals).filterMap Signal.data? ∧
    (∀ more, deliver signals <+: deliver (signals ++ more)) ∧
    ∀ error more silence, error.isError = true →
      deliver (signals ++ error :: more) = deliver (signals ++ [error]) ∧
      deliverAll silence (signals ++ error :: more) = deliver (signals ++ [error]) := by
  refine ⟨deliver_eq signals, fun before error after ↦ eq_nil_of_deliver_eq,
    payloads_deliver signals, fun more ↦ ?_, fun error more silence herror ↦ ?_⟩
  · rw [deliver_append]
    exact List.prefix_append _ _
  · have hcut := deliver_append_of_isError signals error more herror
    refine ⟨hcut, ?_⟩
    have hany : (signals ++ error :: more).any Signal.isError = true := by simp [herror]
    rw [deliverAll, if_pos hany, List.append_nil, hcut]

/-- Messages of other events are passed over, and the source's second connection is not seen. -/
example : deliver [.opened, .message ⟨"message", "a"⟩, .message ⟨"ping", "b"⟩, .broken "reset",
    .opened, .message ⟨"message", "a"⟩] = [.opened, .payload "a", .fail (.sse "reset")] := by
  decide

end CitedChat
