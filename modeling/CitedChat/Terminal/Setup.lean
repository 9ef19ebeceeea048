import CitedChat.Chat.Session
import CitedChat.Terminal.Arguments
import CitedChat.Terminal.Settings

/-!
From arguments and settings to a client and a session. An argument takes precedence over the
setting of the same thing, which is then not looked at.
-/

set_option autoImplicit false

namespace CitedChat

/-- Why the program cannot be set up. -/
inductive SetupError where
  | service (error : ServiceError)
  | unknownMode (name : String)
  | unknownPolicy (name : String)
  /-- The client could not be made, for a reason. -/
  | client (error : ServiceError)
  deriving DecidableEq

namespace SetupError

def message : SetupError → String
  | .service error => error.message
  | .unknownMode name => "unknown mode: " ++ name ++ " (expected streaming or batch)"
  | .unknownPolicy name =>
    "unknown decode error policy: " ++ name ++ " (expected skip or halt)"
  | .client _ => "Failed to create oracle client"

/-- The message, with the reason below it if there is one. -/
def report : SetupError → String
  | .client error => (client error).message ++ "\n\nCaused by:\n    " ++ error.message
  | error => error.message

end SetupError

/-- The mode that a setting names, in any case. -/
def Mode.ofName (text : String) : Except SetupError Mode :=
  let name := Text.lower text
  if name == "streaming" || name == "stream" then .ok .streaming
  else if name == "batch" then .ok .batch
  else .error (.unknownMode name)

/-- The policy that a setting names, in any case. -/
def DecodePolicy.ofName (text : String) : Except SetupError DecodePolicy :=
  let name := Text.lower text
  if name == "skip" then .ok .skip
  else if name == "halt" then .ok .halt
  else .error (.unknownPolicy name)

structure Setup where
  client : Client
  mode : Mode
  policy : DecodePolicy
  /-- In microseconds. -/
  timeout : Option Nat

namespace Setup

/-- A setting if there is one, and otherwise a value of its own. -/
def optional {α : Type} (other : α) (read : String → Except SetupError α) :
    Option String → Except SetupError α
  | none => .ok other
  | some text => read text

def microsPerSecond : Nat := 1000000

/-- A timeout of no seconds is none. -/
def timeoutOf (a : Arguments) (s : Settings) : Option Nat :=
  ((a.timeout <|> s.timeoutSecs).filter (0 < ·)).map (· * microsPerSecond)

def make (a : Arguments) (s : Settings) : Except SetupError Setup := do
  let baseUrl := (a.url <|> s.baseUrl).getD Client.defaultBaseUrl
  let protocol ← optional .current (fun x => (Protocol.ofName x).mapError .service)
    (a.protocol <|> s.protocol)
  let envelope ← optional .bare (fun x => (Envelope.ofName x).mapError .service)
    (a.envelope <|> s.envelope)
  let mode ← if a.batch then pure .batch else optional .streaming Mode.ofName s.mode
  let policy ←
    if a.haltOnDecodeError then pure .halt else optional .skip DecodePolicy.ofName s.decodeErrors
  let client ← (Client.create baseUrl protocol envelope).mapError .client
  pure { client, mode, policy, timeout := timeoutOf a s }

/-- A session that begins. -/
def session (setup : Setup) : Session :=
  { protocol := setup.client.protocol
    mode := setup.mode
    policy := setup.policy
    timeout := setup.timeout }

end Setup

end CitedChat
