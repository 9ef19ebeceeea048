import CitedChat.Chat.Event

/-!
Showing a turn on a terminal while it goes on. The answer is printed piece by piece as it grows; at
the end of the turn come the sources, a line each, and a note if the answer is not complete. Lengths
are counted in characters.
-/

set_option autoImplicit false

namespace CitedChat

namespace Terminal

/-- A text of at most `length` characters; dots tell that it was cut. -/
def truncate (text : String) (length : Nat) : String :=
  let cs := text.toList
  String.ofList (cs.take length) ++ (if (cs.drop length).isEmpty then "" else "...")

/-- What is left of a text when its first characters have been printed. -/
def unprinted (text : String) (printed : Nat) : String :=
  String.ofList (text.toList.drop printed)

def citationWidth : Nat := 80

def sourceLine (source : Source) : String :=
  "[" ++ toString source.ordinal ++ "] " ++ truncate source.citation citationWidth ++ " <" ++
    source.url ++ ">"

def listSources (sources : List Source) : String :=
  "\n".intercalate (sources.map sourceLine)

end Terminal

/-- Something printed. -/
inductive Print where
  /-- A piece of an answer. -/
  | answer (text : String)
  /-- Text that is no part of an answer. -/
  | plain (text : String)
  /-- Text on the channel for errors. -/
  | note (text : String)
  deriving DecidableEq

namespace Print

def line (text : String) : Print := .plain (text ++ "\n")

def noteLine (text : String) : Print := .note (text ++ "\n")

/-- What goes to the standard output. -/
def output : Print → String
  | .answer text | .plain text => text
  | .note _ => ""

def errorOutput : Print → String
  | .note text => text
  | _ => ""

/-- What has been printed of an answer. -/
def answerText : Print → String
  | .answer text => text
  | _ => ""

def join (part : Print → String) (prints : List Print) : String :=
  String.join (prints.map part)

theorem join_append (part : Print → String) (first second : List Print) :
    join part (first ++ second) = join part first ++ join part second := by
  simp [join, String.join_append]

end Print

/-- What a display knows of the turn. -/
structure Display where
  /-- How many characters of the answer have been printed. -/
  printed : Nat := 0
  sources : List Source := []
  deriving DecidableEq

namespace Display

/-- How an answer is marked that is not complete. -/
def endingNote : Outcome → List Print
  | .finished => []
  | .cancelled => [.noteLine "[stopped]"]
  | .incomplete => [.noteLine "[answer incomplete]"]
  | .timedOut => [.noteLine "[answer timed out]"]
  | .halted => [.noteLine "[answer halted]"]
  | .failed _ => [.noteLine "[answer failed]"]

def sourceList (sources : List Source) : List Print :=
  if sources.isEmpty then [] else [.line ("\nSources:\n" ++ Terminal.listSources sources)]

/-- Shows the part of the last turn that is new; a turn of the user is not shown. -/
def update (d : Display) (c : Conversation) : Display × List Print :=
  match c.last? with
  | some (.assistant text sources) =>
    let new := Terminal.unprinted text d.printed
    if new.isEmpty then ({ d with sources }, [])
    else ({ printed := d.printed + new.length, sources }, [.answer new])
  | _ => (d, [])

/-- Shows an event. -/
def present (d : Display) : Event → Display × List Print
  | .turnStart _ => (d, [])
  | .updated _ c => d.update c
  | .decodeError _ message => (d, [.noteLine ("\n[skipped payload: " ++ message ++ "]")])
  | .warning _ message => (d, [.noteLine ("\n[" ++ message ++ "]")])
  | .error message => (d, [.noteLine ("\nError: " ++ message)])
  | .turnEnd _ outcome => (d, .line "" :: sourceList d.sources ++ endingNote outcome)

/-- Shows events up to the end of the turn. -/
def presentAll (d : Display) : List Event → List Print
  | [] => []
  | event :: rest =>
    let (d, prints) := d.present event
    match event with
    | .turnEnd _ _ => prints
    | _ => prints ++ d.presentAll rest

end Display

end CitedChat
