import CitedChat.Chat.Conversation
import CitedChat.Page.Render
import CitedChat.Terminal.Display
import CitedChat.Terminal.Tooltip
import CitedChat.Text.LowerCase
import CitedChat.Word

/-!
Commands that are typed in place of a question. They begin with a slash and work on the
conversation so far; only one of them changes the tooltip.
-/

set_option autoImplicit false

namespace CitedChat

inductive CommandResult where
  /-- A new conversation begins. -/
  | clear
  | message (text : String)
  | exit
  | unknown (name : String)
  deriving DecidableEq

namespace Command

def helpText : String :=
  "\n".intercalate
    ["Available commands:",
     "  /help, /h, /?        Show this help message",
     "  /sources, /s         List the sources cited by the last answer",
     "  /source <n>          Show or hide the excerpt behind citation [n]",
     "  /html                Print the conversation as HTML",
     "  /new, /clear, /c     Start a new conversation",
     "  /quit, /exit, /q     Exit oracle",
     "",
     "Press Ctrl-C while an answer is streaming to stop it."]

/-- The sources of the last answer. -/
def lastSources (c : Conversation) : List Source :=
  ((c.turns.reverse.find? Turn.isAssistant).map Turn.sources).getD []

def sources (c : Conversation) : String :=
  match lastSources c with
  | [] => "No sources cited yet."
  | sources => Terminal.listSources sources

/-- A number, with or without a sign. -/
def number? (cs : List Char) : Option Nat :=
  Word.ofDigits? <|
    match cs with
    | '+' :: rest => rest
    | _ => cs

def isBracket (c : Char) : Bool :=
  c == '[' || c == ']'

def trimBrackets (cs : List Char) : List Char :=
  ((cs.dropWhile isBracket).reverse.dropWhile isBracket).reverse

/-- Shows or hides the passage of a source. -/
def source (argument : List Char) (c : Conversation) (t : Tooltip) : String × Tooltip :=
  match number? (trimBrackets argument) with
  | none => ("Usage: /source <n>", t)
  | some n =>
    match c.findSource? n with
    | none => ("No source [" ++ toString n ++ "] in this conversation", t)
    | some source =>
      let t := t.toggle source
      if t.isVisible then
        (Terminal.sourceLine source ++ "\n\n" ++
          (if t.text.isEmpty then "(no excerpt)" else t.text), t)
      else ("[" ++ toString n ++ "] hidden", t)

def html (c : Conversation) : String :=
  if c.turns.isEmpty then "Nothing to render yet." else Page.renderTranscript c.turns

/-- The name of a command and its argument, if a line is one. The name goes up to the first
space. -/
def words? (line : String) : Option (String × List Char) :=
  match Text.trimList line.toList with
  | '/' :: rest =>
    some (Text.lower (String.ofList (rest.takeWhile (· != ' '))),
      Text.trimList ((rest.dropWhile (· != ' ')).drop 1))
  | _ => none

/-- The names of the command that begins a new conversation. -/
def newNames : List String :=
  ["new", "clear", "c"]

/-- Carries out a command by its name and its argument. -/
def perform (name : String) (argument : List Char) (c : Conversation) (t : Tooltip) :
    CommandResult × Tooltip :=
  if ["help", "h", "?"].contains name then (.message helpText, t)
  else if newNames.contains name then (.clear, t)
  else if ["quit", "exit", "q"].contains name then (.exit, t)
  else if ["sources", "s"].contains name then (.message (sources c), t)
  else if name == "source" then
    let (text, t) := source argument c t
    (.message text, t)
  else if name == "html" then (.message (html c), t)
  else (.unknown name, t)

/-- Carries out the command of a line, if it is one. -/
def execute (line : String) (c : Conversation) (t : Tooltip) : Option (CommandResult × Tooltip) :=
  (words? line).map fun (name, argument) => perform name argument c t

end Command

end CitedChat
