import CitedChat.Chat.Submission

/-!
What may be done with a session from outside: questions are put, a suspended submission is dropped,
the turn in flight is aborted, the conversation is replaced, the settings are changed. An operation
is carried out whole, so that a run of operations is a list.
-/

set_option autoImplicit false

namespace CitedChat

/-- What may be done with a session. -/
inductive Operation where
  /-- A question is put, in the mode given or else in that of the session. -/
  | submit (mode : Option Mode) (text : String) (transport : Transport)
      (limit abortAfter : Option Nat)
  /-- A submission that is suspended is dropped. -/
  | giveUp
  | abort
  | clear
  | setConversation (conversation : Conversation)
  | setMode (mode : Mode)
  | setTimeout (timeout : Option Nat)
  | awaitIdle (ms : Nat)
  | watch

namespace World

/-- Carries out an operation; one that the session refuses changes nothing. -/
def operate (w : World) : Operation → World
  | .submit mode text transport limit abortAfter =>
    match w.attempt (mode.getD w.session.mode) text transport limit abortAfter with
    | .ok (v, _) => v
    | .error _ => w
  | .giveUp => w.leave
  | .abort => w.abort
  | .clear =>
    match w.session.clear with
    | .ok session => { w with session }
    | .error _ => w
  | .setConversation conversation =>
    match w.session.setConversation conversation with
    | .ok session => { w with session }
    | .error _ => w
  | .setMode mode => { w with session.mode := mode }
  | .setTimeout timeout => { w with session.timeout := timeout }
  | .awaitIdle ms => (w.awaitIdle ms).2
  | .watch => w.watch.wake

/-- Carries out operations in order. -/
def operateAll (w : World) (operations : List Operation) : World :=
  operations.foldl operate w

end World

end CitedChat
