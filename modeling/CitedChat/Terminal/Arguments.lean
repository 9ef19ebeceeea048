import CitedChat.Terminal.Command

/-!
The arguments of the command line. An option has a long name, and most have a letter as well; a
value follows its option or is attached to it. No option may be given twice, and nothing else may be
given at all.
-/

set_option autoImplicit false

namespace CitedChat

structure Arguments where
  url : Option String := none
  batch : Bool := false
  protocol : Option String := none
  envelope : Option String := none
  /-- In seconds. -/
  timeout : Option Nat := none
  haltOnDecodeError : Bool := false
  /-- A single question. -/
  command : Option String := none
  html : Bool := false
  verbose : Bool := false
  initConfig : Bool := false
  deriving DecidableEq, Inhabited

namespace Arguments

inductive Choice where
  | url
  | batch
  | protocol
  | envelope
  | timeout
  | haltOnDecodeError
  | command
  | html
  | verbose
  | initConfig
  | help
  | version
  deriving DecidableEq

namespace Choice

def ofName? : String → Option Choice
  | "url" => some .url
  | "batch" => some .batch
  | "protocol" => some .protocol
  | "envelope" => some .envelope
  | "timeout" => some .timeout
  | "halt-on-decode-error" => some .haltOnDecodeError
  | "command" => some .command
  | "html" => some .html
  | "verbose" => some .verbose
  | "init-config" => some .initConfig
  | "help" => some .help
  | "version" => some .version
  | _ => none

def ofLetter? : Char → Option Choice
  | 'u' => some .url
  | 'b' => some .batch
  | 't' => some .timeout
  | 'c' => some .command
  | 'v' => some .verbose
  | 'h' => some .help
  | 'V' => some .version
  | _ => none

def takesValue : Choice → Bool
  | .url | .protocol | .envelope | .timeout | .command => true
  | _ => false

end Choice

/-- What keeps the program from running. -/
inductive Stop where
  /-- The arguments are not as they should be. -/
  | misuse
  | help
  | version
  deriving DecidableEq

/-- Sets a value that has not been set. -/
def once {α : Type} (old : Option α) (value : Option α) : Except Stop (Option α) :=
  if old.isSome || value.isNone then .error .misuse else .ok value

def setFlag (a : Arguments) : Choice → Except Stop Arguments
  | .batch => if a.batch then .error .misuse else .ok { a with batch := true }
  | .haltOnDecodeError =>
    if a.haltOnDecodeError then .error .misuse else .ok { a with haltOnDecodeError := true }
  | .html => if a.html then .error .misuse else .ok { a with html := true }
  | .verbose => if a.verbose then .error .misuse else .ok { a with verbose := true }
  | .initConfig => if a.initConfig then .error .misuse else .ok { a with initConfig := true }
  | .help => .error .help
  | .version => .error .version
  | _ => .error .misuse

def setValue (a : Arguments) (choice : Choice) (value : String) : Except Stop Arguments :=
  match choice with
  | .url => (once a.url (some value)).map fun url => { a with url }
  | .protocol => (once a.protocol (some value)).map fun protocol => { a with protocol }
  | .envelope => (once a.envelope (some value)).map fun envelope => { a with envelope }
  | .timeout =>
    (once a.timeout (Command.number? value.toList)).map fun timeout => { a with timeout }
  | .command => (once a.command (some value)).map fun command => { a with command }
  | _ => .error .misuse

/-- A value of its own does not look like an option. -/
def looksLikeOption (word : String) : Bool :=
  word.startsWith "-" && word ≠ "-"

/-- Options by their letters, several of which may share a dash. What is left of the word behind the
letter of an option with a value is that value; if nothing is left, the option waits for it. -/
def letters (a : Arguments) : List Char → Except Stop (Arguments × Option Choice)
  | [] => .ok (a, none)
  | c :: rest =>
    match Choice.ofLetter? c with
    | none => .error .misuse
    | some choice =>
      if choice.takesValue then
        match rest with
        | [] => .ok (a, some choice)
        | '=' :: value => (a.setValue choice (String.ofList value)).map (·, none)
        | value => (a.setValue choice (String.ofList value)).map (·, none)
      else do (← a.setFlag choice).letters rest

/-- An option by its name; an equals sign attaches a value. -/
def name (a : Arguments) (cs : List Char) : Except Stop (Arguments × Option Choice) :=
  match Choice.ofName? (String.ofList (cs.takeWhile (· ≠ '='))), cs.dropWhile (· ≠ '=') with
  | none, _ => .error .misuse
  | some choice, [] =>
    if choice.takesValue then .ok (a, some choice) else (a.setFlag choice).map (·, none)
  | some choice, _ :: value =>
    if choice.takesValue then (a.setValue choice (String.ofList value)).map (·, none)
    else .error .misuse

/-- Reads words; `waiting` is an option whose value comes next. -/
def readWords (a : Arguments) : Option Choice → List String → Except Stop Arguments
  | none, [] => .ok a
  | some _, [] => .error .misuse
  | some choice, word :: rest => do
    if looksLikeOption word then .error .misuse
    else readWords (← a.setValue choice word) none rest
  | none, word :: rest =>
    match word.toList with
    | ['-', '-'] => if rest.isEmpty then .ok a else .error .misuse
    | '-' :: '-' :: cs => do
      let (a, waiting) ← a.name cs
      readWords a waiting rest
    | '-' :: c :: cs => do
      let (a, waiting) ← a.letters (c :: cs)
      readWords a waiting rest
    | _ => .error .misuse

/-- Reads the arguments. The page needs a question to show. -/
def ofWords (words : List String) : Except Stop Arguments := do
  let a ← readWords {} none words
  if a.html && a.command.isNone then .error .misuse else pure a

end Arguments

end CitedChat
