import CitedChat.Http.Message
import CitedChat.Terminal.Program
import Std.Async.DNS
import Std.Async.Signal
import Std.Async.TCP
import Std.Async.Timer

/-!
The program itself: reading arguments, the settings file and lines, speaking to the server, and
printing. What is printed, and when the program ends, is decided elsewhere.
-/

set_option autoImplicit false

namespace CitedChat.Main

open Std.Async

def printAll (prints : List Print) : IO Unit := do
  let out ← IO.getStdout
  for p in prints do
    IO.print p.output
    IO.eprint p.errorOutput
  out.flush

/-! ### The settings file -/

def environment : IO Settings.Environment := do
  pure
    { home := ← IO.getEnv "HOME"
      configHome := ← IO.getEnv "XDG_CONFIG_HOME"
      configPath := ← IO.getEnv "ORACLE_CONFIG_PATH" }

def findPlace (path : String) : IO Settings.Place := do
  try
    pure (.file (← IO.FS.readFile path))
  catch
    | .noFileOrDirectory .. => pure .absent
    | .inappropriateType .. => pure .directory
    | .illegalOperation .. => pure .directory
    | _ => pure .blocked

/-- The directory of a file. -/
def parent (path : String) : String :=
  String.ofList (path.toList.reverse.dropWhile (· ≠ '/')).reverse

def writePlace (path : String) (before after : Settings.Place) : IO Unit :=
  match before, after with
  | .absent, .file text => do
    if parent path ≠ "" then IO.FS.createDirAll (parent path)
    IO.FS.writeFile path text
  | _, _ => pure ()

/-! ### The server -/

/-- What a wait for the server brings. -/
inductive News where
  | bytes (bytes : ByteArray)
  | closed
  | interrupt
  /-- The time for the answer is over. -/
  | deadline
  deriving Inhabited

/-- A connection for one question. -/
structure Line where
  socket : TCP.Socket.Client
  interrupts : Signal.Waiter
  /-- By the clock of the machine, in milliseconds. -/
  deadline : Option Nat

def connect (address : Address) : Async TCP.Socket.Client := do
  if address.secure then throw (IO.userError "no secure connections")
  let (host, digits) :=
    match address.authority.splitOn ":" with
    | [host, digits] => (host, digits)
    | _ => (address.authority, "80")
  let number := (digits.toNat?.getD 80).toUInt16
  let socket ← TCP.Socket.Client.mk
  match (← DNS.getAddrInfo host digits).toList with
  | .v4 addr :: _ => socket.connect (.v4 ⟨addr, number⟩)
  | .v6 addr :: _ => socket.connect (.v6 ⟨addr, number⟩)
  | [] => throw (IO.userError "unknown host")
  pure socket

def wait (line : Line) : Async News := do
  let received := Selectable.case (line.socket.recvSelector 65536) fun
    | some bytes => pure (News.bytes bytes)
    | none => pure .closed
  let interrupted := Selectable.case line.interrupts.selector fun _ => pure News.interrupt
  match line.deadline with
  | none => Selectable.one #[received, interrupted]
  | some instant =>
    let now ← IO.monoMsNow
    let timer ← Selector.sleep (Std.Time.Millisecond.Offset.ofNat (instant - now))
    Selectable.one #[received, interrupted, .case timer fun _ => pure .deadline]

/-- Asks a question with an answer as far as it has come, and prints what has not been printed. -/
def showAnswer (c : Console) (text : String) (address : Address) (answer : Answer)
    (news : News) (printed : Nat) : IO (Console × Asked × Nat) := do
  let server : Server := { authority := address.authority, script := [answer] }
  let timeout := c.world.session.timeout
  let silence := match news with
    | .interrupt => [Act.abort, .hang]
    | _ => [.hang]
  let inForce := match news with
    | .deadline => timeout
    | _ => none
  let c := { c with server, world.session.timeout := inForce }
  let (c, prints, asked) := c.ask text silence
  printAll (prints.drop printed)
  pure ({ c with world.session.timeout := timeout }, asked, max printed prints.length)

/-- An answer of which nothing has come. -/
def nothing : Answer := .respond { status := 0, ending := .silent }

/-- Receives until the answer is over, its time is, or the user interrupts. -/
partial def receive (c : Console) (text : String) (address : Address) (line : Line)
    (bytes : List UInt8) (printed : Nat) : IO (Console × Asked) := do
  let news ← try (wait line).block catch _ => pure .closed
  let bytes := match news with
    | .bytes more => bytes ++ more.toList
    | _ => bytes
  let isClosed := match news with
    | .closed => true
    | _ => false
  let answer := (Answer.ofBytes? isClosed bytes).getD nothing
  let (after, asked, printed) ← showAnswer c text address answer news printed
  if asked == .pending then receive c text address line bytes printed else pure (after, asked)

/-- Sends the request of a question and receives the answer. A server that cannot be reached closes
the connection. -/
def exchange (c : Console) (text : String) (address : Address) : IO (Console × Asked) := do
  let mode := c.world.session.mode
  let request := c.client.request mode address (c.conversation.turns ++ [.user text])
  let interrupts ← Signal.Waiter.mk .sigint false
  let now ← IO.monoMsNow
  let deadline := c.world.session.timeout.map fun micros => now + Clock.ceilMillis micros
  try
    let socket ← (connect address).block
    (socket.send ⟨(request.bytes address.authority).toArray⟩).block
    receive c text address { socket, interrupts, deadline } [] 0
  catch _ =>
    let (c, asked, _) ← showAnswer c text address .close .closed 0
    pure (c, asked)
  finally
    interrupts.stop

/-- Asks a question without a server, for one that makes no request. -/
def askAlone (c : Console) (text : String) : IO (Console × Asked) := do
  let (c, prints, asked) := c.ask text [.hang]
  printAll prints
  pure (c, asked)

/-- Asks a question. One that does not even wait for a silent server makes no request. -/
def ask (c : Console) (text : String) : IO (Console × Asked) := do
  let now ← IO.monoMsNow
  let c := { c with world.now := now }
  if !c.world.foreseesDeadline then return ← askAlone c text
  match c.client.address? c.world.session.mode with
  | some address =>
    let silent : Server := { authority := address.authority, script := [nothing] }
    let unbounded := { c with server := silent, world.session.timeout := none }
    if (unbounded.ask text [.hang]).2.2 == .pending then exchange c text address
    else
      let (c, asked, _) ← showAnswer c text address .close .closed 0
      pure (c, asked)
  | none =>
    let (c, asked, _) ← showAnswer c text ⟨false, "", "/", none, none⟩ .close .closed 0
    pure (c, asked)

/-! ### Talking -/

partial def talk (c : Console) : IO UInt32 := do
  printAll [Console.prompt]
  let line ← (← IO.getStdin).getLine
  if line.isEmpty then return 0
  let (c, prints, reaction) := c.read line
  printAll prints
  match reaction with
  | .next => talk c
  | .leave code => pure code.toUInt32
  | .question text =>
    let (c, asked) ← ask c text
    printAll (Console.afterQuestion asked)
    match Console.course asked with
    | .leave code => pure code.toUInt32
    | _ => talk c

def greet : IO Unit := do
  if ← (← IO.getStderr).isTty then
    IO.eprintln "oracle - type a question, /help for commands\n"

def converse (a : Arguments) (setup : Setup) : IO UInt32 := do
  let c := Console.ofSetup setup { authority := "" } (← IO.monoMsNow)
  match a.command with
  | some question => do
    let (c, asked) ← ask c question
    printAll (Program.afterSingle c a asked)
    pure ((Program.singleCode? asked).getD 1).toUInt32
  | none => do
    greet
    talk c

end CitedChat.Main

open CitedChat in
def main (words : List String) : IO UInt32 := do
  let path := Settings.path (← Main.environment)
  let place ← Main.findPlace path
  match Program.start words path place with
  | .over prints code after => do
    Main.printAll prints
    Main.writePlace path place after
    pure code.toUInt32
  | .converse warnings a setup => do
    Main.printAll warnings
    Main.converse a setup
