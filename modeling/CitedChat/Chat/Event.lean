import CitedChat.Chat.Conversation
import CitedChat.Wire.Error

/-!
What a session tells its subscribers, and how a turn may end.
-/

set_option autoImplicit false

namespace CitedChat

inductive Outcome where
  /-- The answer is complete. -/
  | finished
  /-- The connection closed before a signal. -/
  | incomplete
  | timedOut
  | cancelled
  /-- A payload that could not be decoded ended the answer. -/
  | halted
  | failed (detail : String)
  deriving DecidableEq

def Outcome.isComplete : Outcome → Bool
  | .finished => true
  | _ => false

inductive Event where
  | turnStart (generation : Nat)
  /-- The conversation changed. -/
  | updated (generation : Nat) (conversation : Conversation)
  /-- A payload was dropped. -/
  | decodeError (generation : Nat) (message : String)
  | warning (generation : Nat) (message : String)
  | turnEnd (generation : Nat) (outcome : Outcome)
  | error (message : String)
  deriving DecidableEq

def Event.isTerminal : Event → Bool
  | .turnEnd _ _ | .error _ => true
  | _ => false

/-- Why a session refuses or fails. -/
inductive ChatError where
  | service (error : ServiceError)
  | store (error : StoreError)
  /-- Another submission holds the session. -/
  | busy
  | emptyInput
  deriving DecidableEq

namespace ChatError

def message : ChatError → String
  | .service error => error.message
  | .store error => error.message
  | .busy => "A response is still streaming; wait for it or abort it first"
  | .emptyInput => "Nothing to send"

/-- Whether the session can take another submission after it. -/
def isRecoverable : ChatError → Bool
  | .service error => error.isTransport
  | .store _ => false
  | .busy | .emptyInput => true

end ChatError

end CitedChat
