import CitedChat.Chat.Assembler
import CitedChat.Chat.Event
import CitedChat.Chat.Gate
import CitedChat.Json.Alternatives

/-!
A session owns a conversation and runs one submission at a time on it. `World` is a session on a
clock, with what an observer has seen of it: the events, the requests made, and the tasks that wait
until no submission is in flight.
-/

set_option autoImplicit false

namespace CitedChat

/-- Whether an answer is streamed or comes in one reply. -/
inductive Mode where
  | streaming
  | batch
  deriving DecidableEq, Inhabited

def Mode.name : Mode → String
  | .streaming => "streaming"
  | .batch => "batch"

def Mode.decoder : Json.Decoder Mode :=
  Json.Decoder.choice [("streaming", .streaming), ("batch", .batch)]

structure Session where
  protocol : Protocol := .current
  mode : Mode := .streaming
  policy : DecodePolicy := .skip
  /-- How long a turn may take, in microseconds. -/
  timeout : Option Nat := none
  conversation : Conversation := {}
  gate : Gate := {}

namespace Session

/-- Replaces the conversation of an idle session. -/
def setConversation (s : Session) (c : Conversation) : Except ChatError Session :=
  if s.gate.busy then .error .busy else .ok { s with conversation := c }

def clear (s : Session) : Except ChatError Session :=
  s.setConversation {}

end Session

structure World where
  session : Session := {}
  /-- In milliseconds. -/
  now : Nat := 0
  events : Array Event := #[]
  requests : Array (List Turn) := #[]
  /-- The answers that bounded waits for idleness got. -/
  idleAnswers : Array Bool := #[]
  /-- Tasks that wait for idleness. -/
  parked : Nat := 0
  woken : Nat := 0

namespace World

def conversation (w : World) : Conversation := w.session.conversation

def emit (w : World) (event : Event) : World :=
  { w with events := w.events.push event }

@[simp] theorem events_emit (w : World) (event : Event) :
    (w.emit event).events = w.events.push event := rfl

def setConversation (w : World) (c : Conversation) : World :=
  { w with session.conversation := c }

@[simp] theorem events_setConversation (w : World) (c : Conversation) :
    (w.setConversation c).events = w.events := rfl

def setGate (w : World) (gate : Gate) : World :=
  { w with session.gate := gate }

/-- Tells the subscribers the conversation as it is. -/
def publish (w : World) (generation : Nat) : World :=
  w.emit (.updated generation w.conversation)

@[simp] theorem events_publish (w : World) (generation : Nat) :
    (w.publish generation).events = w.events.push (.updated generation w.conversation) := rfl

def abort (w : World) : World :=
  w.setGate w.session.gate.abort

/-- Tasks that wait for idleness go on when no submission is in flight. -/
def wake (w : World) : World :=
  if w.session.gate.busy then w else { w with parked := 0, woken := w.woken + w.parked }

/-- Adds a task that waits for idleness. -/
def watch (w : World) : World :=
  { w with parked := w.parked + 1 }

/-- The end of a submission, whether it is complete or was given up. -/
def leave (w : World) : World :=
  (w.setGate w.session.gate.leave).wake

/-- Waits for idleness between submissions: at once, or in vain for the whole time. -/
def awaitIdle (w : World) (ms : Nat) : Bool × World :=
  if w.session.gate.busy then (false, { w with now := w.now + ms }) else (true, w)

end World

/-- How many events a subscriber's buffer holds. -/
def bufferSize : Nat := 256

/-- What a subscriber reads that falls behind: how many events it lost, and the latest ones. -/
def received (events : List Event) : Nat × List Event :=
  let lost := events.length - bufferSize
  (lost, events.drop lost)

end CitedChat
