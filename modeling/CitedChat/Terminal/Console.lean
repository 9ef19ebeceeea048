import CitedChat.Http.Server
import CitedChat.Terminal.Display
import CitedChat.Terminal.Setup

/-!
A conversation on a terminal. A line is a command or a question; a question is asked of the server,
and the turn is shown while it goes on.
-/

set_option autoImplicit false

namespace CitedChat

structure Console where
  client : Client
  world : World
  server : Server
  tooltip : Tooltip := .hidden

/-- What a line asks for. -/
inductive Reaction where
  /-- The next line. -/
  | next
  /-- The program ends, with an exit code. -/
  | leave (code : Nat)
  | question (text : String)
  deriving DecidableEq

/-- How the asking of a question went. -/
inductive Asked where
  | ended (outcome : Outcome)
  | refused (message : String)
  /-- The server is silent, and nobody interrupts it. -/
  | pending
  /-- The clock cannot name the deadline. -/
  | brokenOff
  deriving DecidableEq

/-- How the conversation goes on behind a line. -/
inductive Course where
  /-- With the next line; an answer may have been stopped before. -/
  | next (wasStopped : Bool)
  | leave (code : Nat)
  /-- Nothing more happens. -/
  | stuck
  deriving DecidableEq

namespace Console

/-- The console of a program that is started at an instant of the clock. -/
def ofSetup (setup : Setup) (server : Server) (now : Nat) : Console :=
  { client := setup.client, world := { session := setup.session, now }, server }

def conversation (c : Console) : Conversation := c.world.conversation

/-- Asks a question; `silence` is what happens while a silent server is waited for. -/
def ask (c : Console) (text : String) (silence : List Act) : Console × List Print × Asked :=
  let w := { c.world with events := #[] }
  match w.ask c.client c.server w.session.mode text silence with
  | .error e => (c, [], .refused e.message)
  | .ok (w, ending, server) =>
    let c := { c with world := w, server }
    let prints := ({} : Display).presentAll w.events.toList
    match ending with
    | some (.outcome outcome) => (c, prints, .ended outcome)
    | some (.broken error) => (c, prints, .refused error.message)
    | some .suspended => (c, prints, .pending)
    | none => (c, prints, .brokenOff)

def failureCode : Nat := 1

/-- The exit code of a program that breaks off. -/
def brokenOffCode : Nat := 101

def brokenOffText : String := "overflow when adding duration to instant"

def errorLine (message : String) : Print :=
  .noteLine ("Error: " ++ message)

/-- Begins a new conversation. A session that refuses it ends the program. -/
def clear (c : Console) : Console × List Print × Reaction :=
  match c.world.session.clear with
  | .ok session =>
    ({ c with world := { c.world with session }, tooltip := c.tooltip.hide },
      [.line "Started a new conversation.", .line ""], .next)
  | .error error => (c, [errorLine error.message], .leave failureCode)

/-- Takes in a line. A question hides the tooltip before it is asked. -/
def read (c : Console) (line : String) : Console × List Print × Reaction :=
  let input := Text.trim line
  if input.isEmpty then (c, [], .next)
  else
    match Command.execute input c.conversation c.tooltip with
    | none => ({ c with tooltip := c.tooltip.hide }, [.line ""], .question input)
    | some (.clear, _) => c.clear
    | some (.exit, _) => (c, [], .leave 0)
    | some (.message text, tooltip) => ({ c with tooltip }, [.line text, .line ""], .next)
    | some (.unknown name, tooltip) =>
      ({ c with tooltip },
        [.line ("Unknown command: /" ++ name), .line "Type /help for available commands.",
          .line ""], .next)

/-- What is printed once a question has been asked. -/
def afterQuestion : Asked → List Print
  | .refused message => [errorLine message, .line ""]
  | .ended _ => [.line ""]
  | .pending => []
  | .brokenOff => [.noteLine brokenOffText]

def course : Asked → Course
  | .ended outcome => .next (outcome == .cancelled)
  | .refused _ => .next false
  | .pending => .stuck
  | .brokenOff => .leave brokenOffCode

/-- Takes in a line and asks the question, if it is one. -/
def step (c : Console) (line : String) (silence : List Act) : Console × List Print × Course :=
  match c.read line with
  | (c, prints, .next) => (c, prints, .next false)
  | (c, prints, .leave code) => (c, prints, .leave code)
  | (c, prints, .question text) =>
    let (c, shown, asked) := c.ask text silence
    (c, prints ++ shown ++ afterQuestion asked, course asked)

def prompt : Print := .plain "> "

/-- The conversation as a page, for a single question. -/
def page (c : Console) : Print :=
  .line (Page.renderTranscript c.conversation.turns)

end Console

end CitedChat
