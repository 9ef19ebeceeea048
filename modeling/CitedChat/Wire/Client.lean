import CitedChat.Text.LowerCase
import CitedChat.Text.Quoted
import CitedChat.Wire.Error
import CitedChat.Wire.Reply

/-!
A client of the service: where its endpoints are, what a request says, and how a reply is read.
-/

set_option autoImplicit false

namespace CitedChat

open Json

/-- How the transcript is wrapped in a request. -/
inductive Envelope where
  | bare
  | wrapped
  deriving DecidableEq, Inhabited

namespace Envelope

def name : Envelope → String
  | .bare => "bare"
  | .wrapped => "wrapped"

def decoder : Decoder Envelope :=
  Decoder.choice [("bare", .bare), ("wrapped", .wrapped)]

/-- The envelope that a setting names, in any case. -/
def ofName (text : String) : Except ServiceError Envelope :=
  let name := Text.lower text
  if name == "bare" then .ok .bare
  else if name == "wrapped" then .ok .wrapped
  else .error (.invalidConfig ("unknown envelope: " ++ name))

/-- The body of a request for a transcript. -/
def body (envelope : Envelope) (turns : List Turn) : Tree :=
  let transcript := Tree.array (turns.map Turn.toTree)
  match envelope with
  | .bare => transcript
  | .wrapped => .object [("messages", transcript)]

end Envelope

/-- The protocol that a setting names, in any case, by its name or its version. -/
def Protocol.ofName (text : String) : Except ServiceError Protocol :=
  let name := Text.lower text
  if name == "current" || name == "v2" then .ok .current
  else if name == "legacy" || name == "v1" then .ok .legacy
  else .error (.invalidConfig ("unknown protocol version: " ++ name))

structure Client where
  baseUrl : String
  protocol : Protocol := .current
  envelope : Envelope := .bare

namespace Client

def defaultBaseUrl : String := "https://oracle-rs.semanticallyinvalid.net"

def streamingPath : String := "/streaming_conversation"

def batchPath : String := "/conversation"

/-- A client of a service that speaks HTTP. -/
def create (baseUrl : String) (protocol : Protocol) (envelope : Envelope) :
    Except ServiceError Client :=
  if baseUrl.startsWith "http://" || baseUrl.startsWith "https://" then
    .ok ⟨baseUrl, protocol, envelope⟩
  else .error (.invalidConfig ("base URL must be http(s): " ++ Text.quoted baseUrl))

/-- The address of a path; slashes at the end of the base address do not count. -/
def endpoint (client : Client) (path : String) : String :=
  String.ofList (client.baseUrl.toList.reverse.dropWhile (· == '/')).reverse ++ path

def requestBody (client : Client) (turns : List Turn) : Tree :=
  client.envelope.body turns

/-- Decodes the reply to a request for `turns`. -/
def decodeReply (client : Client) (turns : List Turn) (raw : String) : Except ServiceError Reply :=
  (client.protocol.decodeReply (sourceCount turns) raw).mapError ServiceError.decode

end Client

end CitedChat
