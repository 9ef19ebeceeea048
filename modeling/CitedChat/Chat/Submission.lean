import CitedChat.Chat.Clock
import CitedChat.Chat.Session
import CitedChat.Text.Characters
import CitedChat.Wire.Reply

/-!
One submission, from the question to the end of its turn. What the transport does is a script of
items; a wait in it is ended early by an abort, by the turn's deadline, or because whoever drives
the submission stops doing so. When several of these fall on one instant, the abort comes first,
then the deadline, then the transport. An abort comes from the script itself, while the transport
is being asked, or from outside, while the submission waits. A turn whose deadline the clock cannot
name breaks off before the transport is asked.
-/

set_option autoImplicit false

namespace CitedChat

/-- What happens while the transport is at work, apart from what it delivers. -/
inductive Act where
  | wait (ms : Nat)
  | hang
  | abort
  /-- A wait for idleness, with its bound. -/
  | awaitIdle (ms : Nat)
  /-- A task that waits for idleness is started. -/
  | watch
  deriving DecidableEq

/-- A step of an event stream. -/
inductive Item where
  | act (act : Act)
  | opened
  | payload (raw : String)
  /-- The transport fails; nothing follows. -/
  | fail (error : ServiceError)
  deriving DecidableEq

/-- A transport for one submission: what happens before it answers, and what it then gives for a
request. -/
structure Transport where
  connect : List Act := []
  stream : List Turn → Except ServiceError (List Item)
  exchange : List Turn → Except ServiceError Reply

/-- A stream of recorded payloads. -/
def replay (payloads : List String) : List Item :=
  payloads.map .payload

/-- A submission in flight. -/
structure Flight where
  permit : Permit
  /-- When the turn has to be over. -/
  deadline : Option Nat
  /-- When somebody outside aborts the turn. -/
  abortAt : Option Nat
  /-- When whoever drives the submission stops doing so. -/
  limit : Option Nat

/-- What ends a wait early. -/
inductive Interrupt where
  | cancelled
  | deadline
  | limit
  deriving DecidableEq

/-- How a submission ended, if it did. -/
inductive Ending where
  | outcome (outcome : Outcome)
  /-- The conversation refused an action. -/
  | broken (error : StoreError)
  | suspended
  deriving DecidableEq

namespace World

def isCancelled (w : World) (f : Flight) : Bool :=
  w.session.gate.isCancelled f.permit

/-- What has to be looked at before the transport is. -/
def interrupt? (w : World) (f : Flight) : Option Interrupt :=
  if w.isCancelled f then some .cancelled
  else if f.deadline.any (· ≤ w.now) then some .deadline
  else none

/-- The earlier of two instants, where none means never. -/
def earlier : Option Nat → Option Nat → Option Nat
  | none, b => b
  | a, none => a
  | some a, some b => some (min a b)

/-- How a wait ends: when, and what ended it early. -/
structure Wakening where
  instant : Nat
  interrupt : Option Interrupt
  /-- It is somebody outside who ends it, by an abort. -/
  aborts : Bool := false

/-- The end of a wait for an instant, or for nothing at all. -/
def wakening (w : World) (f : Flight) (until_ : Option Nat) : Wakening :=
  if until_.any (· ≤ w.now) then ⟨w.now, none, false⟩
  else if w.isCancelled f then ⟨w.now, some .cancelled, false⟩
  else if f.abortAt.any (· ≤ w.now) then ⟨w.now, some .cancelled, true⟩
  else if f.limit.any (· ≤ w.now) then ⟨w.now, some .limit, false⟩
  else
    match earlier f.abortAt (earlier f.deadline (earlier until_ f.limit)) with
    | none => ⟨w.now, some .limit, false⟩
    | some instant =>
      if f.abortAt == some instant then ⟨instant, some .cancelled, true⟩
      else if f.deadline == some instant then ⟨instant, some .deadline, false⟩
      else if until_ == some instant then ⟨instant, none, false⟩
      else ⟨instant, some .limit, false⟩

/-- Waits until an instant or forever; tells what ended the wait early. -/
def suspend (w : World) (f : Flight) (until_ : Option Nat) : World × Option Interrupt :=
  let wake := w.wakening f until_
  let w := { w with now := wake.instant }
  (if wake.aborts then w.abort else w, wake.interrupt)

def perform (w : World) (f : Flight) : Act → World × Option Interrupt
  | .wait ms => w.suspend f (some (w.now + ms))
  | .hang => w.suspend f none
  | .abort => (w.abort, none)
  | .awaitIdle ms =>
    match w.suspend f (some (w.now + ms)) with
    | (w, none) => ({ w with idleAnswers := w.idleAnswers.push false }, none)
    | interrupted => interrupted
  | .watch => (w.watch, none)

def performAll (w : World) (f : Flight) : List Act → World × Option Interrupt
  | [] => (w, none)
  | act :: rest =>
    match w.perform f act with
    | (w, none) => w.performAll f rest
    | interrupted => interrupted

/-! ### Endings -/

def timeoutText (w : World) : String :=
  "No answer within " ++ Clock.duration (w.session.timeout.getD 0) ++ "; keeping the partial answer"

def warn (w : World) (f : Flight) (message : String) : World :=
  w.emit (.warning f.permit.generation message)

def failed (w : World) (error : ServiceError) : World × Ending :=
  (w.emit (.error error.message), .outcome (.failed error.message))

def interrupted (w : World) (f : Flight) : Interrupt → World × Ending
  | .cancelled => (w, .outcome .cancelled)
  | .deadline => (w.warn f w.timeoutText, .outcome .timedOut)
  | .limit => (w, .suspended)

def closedText : String := "Connection closed before the answer finished"

def haltedText : String := "Stopped after an undecodable payload; keeping the partial answer"

def userReplyText : String := "Batch reply was a user turn"

/-! ### Streaming -/

/-- Carries out directives in order, up to an action that the conversation refuses; tells whether
the conversation changed. -/
def carryOut (f : Flight) : List Directive → Bool → World → World × Except StoreError Bool
  | [], changed, w => (w, .ok changed)
  | .apply action :: rest, _, w =>
    match w.conversation.apply action with
    | .ok c => carryOut f rest true (w.setConversation c)
    | .error error => (w, .error error)
  | .finish _ :: rest, changed, w => carryOut f rest changed w
  | .reject error :: rest, changed, w =>
    carryOut f rest changed (w.emit (.decodeError f.permit.generation error.message))

/-- Folds directives into the conversation, and tells the subscribers once if it changed. -/
def fold (w : World) (f : Flight) (directives : List Directive) : World × Option StoreError :=
  match carryOut f directives false w with
  | (w, .ok changed) => (if changed then w.publish f.permit.generation else w, none)
  | (w, .error error) => (w, some error)

/-- Reads the stream to its end. `polling` says that the transport is being asked, so that nothing
else is looked at before it delivers. -/
def readStream (f : Flight) : Bool → List Item → Assembler → World → World × Ending
  | polling, [], _, w =>
    match if polling then none else w.interrupt? f with
    | some i => w.interrupted f i
    | none => (w.warn f closedText, .outcome .incomplete)
  | polling, item :: rest, a, w =>
    match if polling then none else w.interrupt? f with
    | some i => w.interrupted f i
    | none =>
      match item with
      | .act act =>
        match w.perform f act with
        | (w, none) => readStream f true rest a w
        | (w, some i) => w.interrupted f i
      | .opened => readStream f false rest a w
      | .fail error => w.failed error
      | .payload raw =>
        if w.session.gate.isStale f.permit then (w, .outcome .cancelled)
        else
          let (directives, a) := a.feed raw
          match w.fold f directives with
          | (w, some error) => (w, .broken error)
          | (w, none) =>
            match a.state with
            | .streaming => readStream f false rest a w
            | .finished => (w, .outcome .finished)
            | .halted => (w.warn f haltedText, .outcome .halted)

def runStreaming (w : World) (f : Flight) (transport : Transport) (request : List Turn) :
    World × Ending :=
  match w.interrupt? f with
  | some i => w.interrupted f i
  | none =>
    let w := { w with requests := w.requests.push request }
    match w.performAll f transport.connect with
    | (w, some i) => w.interrupted f i
    | (w, none) =>
      match transport.stream request with
      | .error error => w.failed error
      | .ok items =>
        readStream f false items
          (.start w.session.protocol w.conversation.sourceCount w.session.policy) w

/-! ### Batch -/

/-- The actions that give the waiting turn an answer; an empty text is not appended. -/
def answerActions (text : String) (sources : List Source) : List Action :=
  (if text.isEmpty then [] else [.appendText text]) ++ sources.map .appendSource

/-- Puts the conversation that a reply gives in place of the one before. -/
def replace (w : World) (f : Flight) (c : Conversation) : World × Ending :=
  ((w.setConversation c).publish f.permit.generation, .outcome .finished)

def adopt (w : World) (f : Flight) (reply : Reply) : World × Ending :=
  match reply with
  | .transcript turns => w.replace f ⟨turns⟩
  | .turn (.assistant text sources) =>
    match w.conversation.applyAll (answerActions text sources) with
    | .ok c => w.replace f c
    | .error error => (w, .broken error)
  | .turn (.user _) =>
    (w.emit (.decodeError f.permit.generation userReplyText), .outcome (.failed userReplyText))

def runBatch (w : World) (f : Flight) (transport : Transport) (request : List Turn) :
    World × Ending :=
  match w.interrupt? f with
  | some i => w.interrupted f i
  | none =>
    let w := { w with requests := w.requests.push request }
    match w.performAll f transport.connect with
    | (w, some i) => w.interrupted f i
    | (w, none) =>
      if w.session.gate.isStale f.permit then (w, .outcome .cancelled)
      else
        match transport.exchange request with
        | .error error => w.failed error
        | .ok reply => w.adopt f reply

/-! ### Whole submissions -/

/-- Enters the session and appends the question and a place for its answer. -/
def beginTurn (w : World) (text : String) (limit abortAfter : Option Nat) :
    Except ChatError (World × Flight × List Turn) :=
  if Text.isBlankText text then .error .emptyInput
  else
    match w.session.gate.enter with
    | none => .error .busy
    | some (permit, gate) =>
      let flight : Flight :=
        { permit
          deadline := w.session.timeout.map fun micros => w.now + Clock.ceilMillis micros
          abortAt := abortAfter.map (w.now + ·)
          limit := limit.map (w.now + ·) }
      let request := w.conversation.turns ++ [.user text]
      let w := (w.setGate gate).emit (.turnStart permit.generation)
      let w := w.setConversation ⟨request ++ [.placeholder]⟩
      .ok (w.publish permit.generation, flight, request)

def run (w : World) (mode : Mode) (f : Flight) (transport : Transport) (request : List Turn) :
    World × Ending :=
  match mode with
  | .streaming => w.runStreaming f transport request
  | .batch => w.runBatch f transport request

/-- Tells how a submission ended and leaves the session, unless it is only suspended. -/
def conclude (w : World) (f : Flight) (ending : Ending) : World :=
  match ending with
  | .outcome outcome => (w.emit (.turnEnd f.permit.generation outcome)).leave
  | .broken error => (w.emit (.error error.message)).leave
  | .suspended => w

/-- Submits a question whose deadline, if there is one, the clock can name. `limit` bounds how long
the submission is driven, in milliseconds; one that is left suspended keeps hold of the session.
`abortAfter` is when somebody outside aborts it. -/
def submit (w : World) (mode : Mode) (text : String) (transport : Transport)
    (limit abortAfter : Option Nat := none) : Except ChatError (World × Ending) := do
  let (w, flight, request) ← w.beginTurn text limit abortAfter
  let (w, ending) := w.run mode flight transport request
  pure (w.conclude flight ending, ending)

/-- The clock can name the instant when a turn that begins now has to be over. -/
def foreseesDeadline (w : World) : Bool :=
  w.session.timeout.all (Clock.reaches w.now)

/-- Puts a question. If the clock cannot name the deadline, the turn breaks off once it has begun:
it has no ending, nothing more is told, and the session is left. -/
def attempt (w : World) (mode : Mode) (text : String) (transport : Transport)
    (limit abortAfter : Option Nat := none) : Except ChatError (World × Option Ending) :=
  if w.foreseesDeadline then do
    let (w, ending) ← w.submit mode text transport limit abortAfter
    pure (w, some ending)
  else do
    let (w, _, _) ← w.beginTurn text limit abortAfter
    pure (w.leave, none)

end World

end CitedChat
