import CitedChat.Terminal.Console

/-!
The whole program, run on what it is given: its arguments, its settings file, the lines typed, the
server's answers, the interrupts of the user and the instant when it is started. An interrupt comes
while the program waits: for a silent server, whose answer it stops, or for a line, where it ends
the program. As long as there are interrupts to come, the input is not at its end.
-/

set_option autoImplicit false

namespace CitedChat

/-- How the program ended. -/
structure Run where
  prints : List Print
  /-- The exit code; none if the program waits forever. -/
  code : Option Nat
  place : Settings.Place
  server : Server

namespace Program

def name : String := "oracle"

def version : String := "0.1.0"

def usage : String :=
  "\n".intercalate
    ["oracle - ask questions, get cited answers",
     "",
     "Usage: oracle [OPTIONS]",
     "",
     "Options:",
     "  -u, --url <URL>             Base URL of the oracle deployment",
     "  -b, --batch                 Use the batch endpoint instead of streaming",
     "      --protocol <PROTOCOL>   Payload shape spoken by the backend (current, legacy)",
     "      --envelope <ENVELOPE>   Request body shape (bare, wrapped)",
     "  -t, --timeout <TIMEOUT>     Give up on an answer after this many seconds",
     "      --halt-on-decode-error  Stop an answer at the first undecodable payload",
     "  -c, --command <COMMAND>     Ask a single question and exit",
     "      --html                  Print the conversation as HTML after a single question",
     "  -v, --verbose               Verbose output",
     "      --init-config           Initialize config file",
     "  -h, --help                  Print help",
     "  -V, --version               Print version"]

/-- What happens while a silent server is waited for. -/
def silence (interrupts : Nat) : List Act :=
  if interrupts == 0 then [.hang] else [.abort, .hang]

/-- The lines of an input; the last one may lack its end. -/
def inputLines (text : String) : List String :=
  let lines := (text.splitOn "\n")
  if lines.getLast? == some "" then lines.dropLast else lines

/-- Talks until the input ends, a command says so or an interrupt does. An interrupt that stopped an
answer is used up. -/
def talk (c : Console) (interrupts : Nat) : List String → List Print × Option Nat × Console
  | [] => ([Console.prompt], some (if interrupts == 0 then 0 else 130), c)
  | line :: rest =>
    match c.step line (silence interrupts) with
    | (c, prints, .leave code) => (Console.prompt :: prints, some code, c)
    | (c, prints, .stuck) => (Console.prompt :: prints, none, c)
    | (c, prints, .next wasStopped) =>
      let left := if wasStopped then interrupts - 1 else interrupts
      let (more, code, c) := talk c left rest
      (Console.prompt :: prints ++ more, code, c)

/-- What is printed once a single question has been asked. -/
def afterSingle (c : Console) (a : Arguments) : Asked → List Print
  | .refused message => [Console.errorLine message]
  | .ended _ => if a.html then [c.page] else []
  | .pending => []
  | .brokenOff => [.noteLine Console.brokenOffText]

/-- The exit code after a single question tells whether its answer is complete. -/
def singleCode? : Asked → Option Nat
  | .refused _ => some Console.failureCode
  | .ended outcome => some (if outcome.isComplete then 0 else Console.failureCode)
  | .pending => none
  | .brokenOff => some Console.brokenOffCode

def askOnce (c : Console) (a : Arguments) (interrupts : Nat) (question : String) :
    List Print × Option Nat × Console :=
  let (c, prints, asked) := c.ask question (silence interrupts)
  (prints ++ afterSingle c a asked, singleCode? asked, c)

/-- What the arguments lead to: a few lines and an exit code, or a conversation. -/
inductive Beginning where
  | over (prints : List Print) (code : Nat) (place : Settings.Place)
  | converse (warnings : List Print) (a : Arguments) (setup : Setup)

/-- Writes the settings file, where there is none. -/
def initConfig (path : String) (place : Settings.Place) : Beginning :=
  match place.create with
  | .ok place =>
    .over
      [.line ("Config file created at: " ++ path),
        .line ("\nExample config:\n" ++ Settings.exampleText)] 0 place
  | .error error => .over [.noteLine ("Error creating config: " ++ error.message)] 1 place

def start (words : List String) (path : String) (place : Settings.Place) : Beginning :=
  match Arguments.ofWords words with
  | .error .misuse => .over [.noteLine usage] 2 place
  | .error .help => .over [.line usage] 0 place
  | .error .version => .over [.line (name ++ " " ++ version)] 0 place
  | .ok a =>
    if a.initConfig then initConfig path place
    else
      let (settings, warning) := place.load
      let warnings := warning.toList.map Print.noteLine
      match Setup.make a settings with
      | .error error => .over (warnings ++ [.noteLine ("Error: " ++ error.report)]) 1 place
      | .ok setup => .converse warnings a setup

/-- Runs the program, from an instant of the clock on. -/
def run (words : List String) (path : String) (place : Settings.Place) (input : String)
    (server : Server) (interrupts now : Nat) : Run :=
  match start words path place with
  | .over prints code place => { prints, code := some code, place, server }
  | .converse warnings a setup =>
    let c := Console.ofSetup setup server now
    let (prints, code, c) :=
      match a.command with
      | some question => askOnce c a interrupts question
      | none => talk c interrupts (inputLines input)
    { prints := warnings ++ prints, code, place, server := c.server }

end Program

end CitedChat
