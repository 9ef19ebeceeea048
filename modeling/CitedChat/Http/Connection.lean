import CitedChat.Chat.Submission
import CitedChat.Http.EventStream
import CitedChat.Http.Response

/-!
A connection to an event stream yields signals; what a session is handed of them is cut at the
first one that is an error. Messages of other events than `message` are passed over.
-/

set_option autoImplicit false

namespace CitedChat

inductive Signal where
  | opened
  | message (message : EventStream.Message)
  /-- The stream is over. -/
  | ended
  | refused (status : Nat) (body : String)
  | broken (detail : String)

namespace Signal

/-- The signals that end a connection. -/
def isError : Signal → Bool
  | .opened | .message _ => false
  | .ended | .refused _ _ | .broken _ => true

end Signal

/-- What a session is handed of the signals of a connection. -/
def deliver : List Signal → List Item
  | [] => []
  | .opened :: rest => .opened :: deliver rest
  | .message m :: rest =>
    if m.event == "message" then .payload m.data :: deliver rest else deliver rest
  | .ended :: _ => []
  | .refused status body :: _ => [.fail (.status status body)]
  | .broken detail :: _ => [.fail (.sse detail)]

/-- Nothing behind the first error is ever seen. -/
theorem deliver_append_of_isError (before : List Signal) (error : Signal) (rest : List Signal)
    (h : error.isError = true) :
    deliver (before ++ error :: rest) = deliver (before ++ [error]) := by
  induction before with
  | nil => cases error <;> simp_all [deliver, Signal.isError]
  | cons signal before ih => cases signal <;> simp [deliver, ih]

/-- A byte of a header value in quotes. -/
def headerByte (b : UInt8) : List Char :=
  if b == 0x22 then ['\\', '"']
  else if b == 9 || (0x20 ≤ b && b < 0x7f) then [Char.ofNat b.toNat]
  else ['\\', 'x'] ++ Nat.toDigits 16 b.toNat

def headerText (value : String) : String :=
  String.ofList ('"' :: (Text.Utf8.encode value).flatMap headerByte ++ ['"'])

/-- A faulty sequence is told by itself, so it begins at its own first byte. -/
def faultText : Text.Utf8.Fault → String
  | .invalid length => "invalid utf-8 sequence of " ++ toString length ++ " bytes from index 0"
  | .cutShort => "incomplete utf-8 byte sequence from index 0"

/-- What ends an event stream; one that stays silent has no end. Bytes that are no text make
themselves known when the stream is complete. -/
def Response.lastSignals (r : Response) (fault : Option Text.Utf8.Fault) : List Signal :=
  if r.isSilent then []
  else if r.isCut then [.broken cutText]
  else
    match fault with
    | some fault => [.broken (faultText fault)]
    | none => [.ended]

/-- What a connection yields when its request is answered. -/
def Answer.signals (url : String) : Answer → List Signal
  | .close => [.broken (unreachableText url)]
  | .respond r =>
    if r.status ≠ 200 then
      if r.isSilent then [] else [.refused r.status r.refusalText]
    else if !MediaType.isEventStream r.mediaType then
      [.broken ("Invalid header value: " ++ headerText r.mediaType)]
    else
      let (text, fault) := Text.Utf8.read r.content
      .opened :: (EventStream.messages text).map .message ++ r.lastSignals fault

/-- What a connection delivers; signals that come to no end are followed by silence, and `silence`
is what happens then. -/
def deliverAll (silence : List Act) (signals : List Signal) : List Item :=
  deliver signals ++ if signals.any Signal.isError then [] else silence.map .act

end CitedChat
