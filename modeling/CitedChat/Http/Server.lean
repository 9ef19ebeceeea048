import CitedChat.Http.Address
import CitedChat.Http.Connection
import CitedChat.Wire.Client

/-!
Asking a question over HTTP. A server answers the requests that reach it from a script, in order,
and closes the connection once the script is used up; it notes every request.
-/

set_option autoImplicit false

namespace CitedChat

structure Request where
  /-- The path and the query. -/
  target : String
  accept : String
  body : String
  deriving DecidableEq

namespace Request

def method : String := "POST"

def contentType : String := "application/json"

end Request

structure Server where
  authority : String
  script : List Answer := []
  /-- The requests so far, first one first. -/
  requests : Array Request := #[]

namespace Server

def isAt (server : Server) (address : Address) : Bool :=
  !address.secure && address.authority == server.authority

/-- How the next request to an address is answered; nobody listens at other addresses. -/
def nextAnswer (server : Server) (address : Address) : Answer :=
  if server.isAt address then server.script.headD .close else .close

def note (server : Server) (address : Address) (request : Request) : Server :=
  if server.isAt address then
    { server with
      script := server.script.drop 1
      requests := server.requests.push request }
  else server

end Server

namespace Client

def path : Mode → String
  | .streaming => streamingPath
  | .batch => batchPath

/-- What kind of body a request asks for. -/
def accept : Mode → String
  | .streaming => "text/event-stream"
  | .batch => "*/*"

/-- Where requests go; none if the base address is not one. -/
def address? (client : Client) (mode : Mode) : Option Address :=
  Address.ofText? (client.endpoint (path mode))

def request (client : Client) (mode : Mode) (address : Address) (turns : List Turn) : Request :=
  { target := address.target
    accept := accept mode
    body := (client.requestBody turns).sorted.text }

def noSourceText : String := "Failed to create event source: expected a cloneable request"

/-- The transport for one submission whose request gets an answer; `silence` is what happens while
a silent server is waited for. A reply is only there when it is complete, so a silent one is waited
for before. -/
def transport (client : Client) (mode : Mode) (silence : List Act) (answer : Answer) :
    Transport :=
  { connect := if mode == .batch && answer.isSilent then silence else []
    stream := fun _ =>
      match client.address? .streaming with
      | none => .error (.sse noSourceText)
      | some address => .ok (deliverAll silence (answer.signals address.text))
    exchange := fun turns =>
      match client.address? .batch with
      | none => .error (.http "builder error")
      | some address => do client.decodeReply turns (← answer.wholeBody address.text) }

end Client

/-- Puts a question to a server. A submission that is refused, or over before it connects, makes no
request. -/
def World.ask (w : World) (client : Client) (server : Server) (mode : Mode) (text : String)
    (silence : List Act := [.hang]) : Except ChatError (World × Option Ending × Server) := do
  match client.address? mode with
  | none =>
    let (w, ending) ← w.attempt mode text (client.transport mode silence .close)
    pure (w, ending, server)
  | some address =>
    let before := w.requests.size
    let (w, ending) ←
      w.attempt mode text (client.transport mode silence (server.nextAnswer address))
    let made := w.requests.toList.drop before
    pure (w, ending,
      made.foldl (fun s turns => s.note address (client.request mode address turns)) server)

end CitedChat
