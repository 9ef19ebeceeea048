import CitedChat.Wire.Payload

/-!
What can go wrong between the client and the service, and which of it leaves the service usable.
-/

set_option autoImplicit false

namespace CitedChat

inductive ServiceError where
  /-- The connection or the exchange broke. -/
  | http (detail : String)
  | json (detail : String)
  /-- The service refused with a status and a body. -/
  | status (code : Nat) (body : String)
  /-- The event stream broke. -/
  | sse (detail : String)
  | decode (error : DecodeError)
  | invalidConfig (detail : String)
  deriving DecidableEq

namespace ServiceError

def message : ServiceError → String
  | .http detail => "HTTP error: " ++ detail
  | .json detail => "JSON error: " ++ detail
  | .status code body => "Backend returned " ++ toString code ++ ": " ++ body
  | .sse detail => "SSE error: " ++ detail
  | .decode error => error.message
  | .invalidConfig detail => "Invalid configuration: " ++ detail

/-- Whether the fault lies with the transport and not with what it carried. -/
def isTransport : ServiceError → Bool
  | .http _ | .status _ _ | .sse _ => true
  | _ => false

end ServiceError

end CitedChat
