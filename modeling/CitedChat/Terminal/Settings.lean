import CitedChat.Toml.Document
import CitedChat.Toml.Quote
import CitedChat.Wire.Client
import CitedChat.Word

/-!
The settings of the program, as its file gives them. Each of them may be left out, and what else
stands in the file does not count. The file is written anew with the settings in a fixed order.
-/

set_option autoImplicit false

namespace CitedChat

structure Settings where
  baseUrl : Option String := none
  protocol : Option String := none
  mode : Option String := none
  envelope : Option String := none
  /-- How long an answer may take, in seconds. -/
  timeoutSecs : Option Nat := none
  decodeErrors : Option String := none
  deriving DecidableEq, Inhabited

namespace Settings

/-! ### Reading -/

def asString (span : Toml.Span) : Toml.Value → Except Toml.Fault String
  | .string text => .ok text
  | value => Toml.fault (.mismatch (.invalidType value.found "a string")) span

/-- A number of seconds. An integer outside the range in which integers are told apart from each
other is refused under another name than one that is too small. -/
def asSeconds (span : Toml.Span) : Toml.Value → Except Toml.Fault Nat
  | .scalar (.integer n) =>
    if 0 ≤ n && n < Word.limit then .ok n.toNat
    else if n < -(Word.signedWideLimit : Int) || Word.wideLimit ≤ n then
      Toml.fault (.overflow (.integer 10)) span
    else if n < -(Word.signedLimit : Int) || Word.limit ≤ n then
      Toml.fault (.wideInteger n "u64") span
    else Toml.fault (.mismatch (.invalidValue (.integer n) "u64")) span
  | value => Toml.fault (.mismatch (.invalidType value.found "u64")) span

/-- Takes over one member. -/
def take (settings : Settings) (name : String) (span : Toml.Span) (value : Toml.Value) :
    Except Toml.Fault Settings :=
  match name with
  | "base_url" => do pure { settings with baseUrl := some (← asString span value) }
  | "protocol" => do pure { settings with protocol := some (← asString span value) }
  | "mode" => do pure { settings with mode := some (← asString span value) }
  | "envelope" => do pure { settings with envelope := some (← asString span value) }
  | "timeout_secs" => do pure { settings with timeoutSecs := some (← asSeconds span value) }
  | "decode_errors" => do pure { settings with decodeErrors := some (← asString span value) }
  | _ => .ok settings

/-- Reads a settings file; the members are looked at in the order of their names. -/
def ofToml (text : String) : Except Toml.Fault Settings := do
  let members ← Toml.read text
  let ordered := members.mergeSort fun a b => !(b.1 < a.1)
  ordered.foldlM (fun settings m => settings.take m.1 m.2.1 m.2.2) {}

/-! ### Writing -/

def line (name : String) (value : Option String) : String :=
  (value.map fun text => name ++ " = " ++ text ++ "\n").getD ""

/-- The text of the settings file. A number of seconds that no signed integer of 64 bits holds
cannot be written. -/
def toToml? (s : Settings) : Option String :=
  if s.timeoutSecs.any (Word.signedLimit ≤ ·) then none
  else some <|
    line "base_url" (s.baseUrl.map Toml.quote) ++
      line "protocol" (s.protocol.map Toml.quote) ++
      line "mode" (s.mode.map Toml.quote) ++
      line "envelope" (s.envelope.map Toml.quote) ++
      line "timeout_secs" (s.timeoutSecs.map toString) ++
      line "decode_errors" (s.decodeErrors.map Toml.quote)

/-- What a new settings file says. -/
def initial : Settings where
  baseUrl := some Client.defaultBaseUrl
  protocol := some "current"
  mode := some "streaming"
  envelope := some "bare"
  timeoutSecs := some 120
  decodeErrors := some "skip"

def exampleText : String :=
  "\n".intercalate
    ["# oracle configuration file",
     "# Place at ~/.config/oracle/config.toml (Linux), or point ORACLE_CONFIG_PATH at it",
     "",
     "# Oracle deployment to talk to",
     "base_url = \"https://oracle-rs.semanticallyinvalid.net\"",
     "",
     "# Payload shape spoken by the backend (current, legacy)",
     "protocol = \"current\"",
     "",
     "# streaming: answers arrive incrementally over server-sent events",
     "# batch: one request, one reply",
     "mode = \"streaming\"",
     "",
     "# Request body shape: a bare array of turns, or \x7b\"messages\": [...]\x7d (bare, wrapped)",
     "envelope = \"bare\"",
     "",
     "# Stop waiting for an answer after this many seconds (omit to wait forever)",
     "timeout_secs = 120",
     "",
     "# Undecodable payloads: skip them and keep reading, or halt the answer (skip, halt)",
     "decode_errors = \"skip\"",
     ""]

/-! ### The file and its place -/

/-- What is found where the settings file should be. -/
inductive Place where
  | absent
  | file (text : String)
  | directory
  /-- A regular file stands where a directory on the way should be. -/
  | blocked
  deriving DecidableEq

/-- Why settings cannot be read or written. -/
inductive FileError where
  | isDirectory
  | blocked
  | outOfRange
  deriving DecidableEq

def FileError.message : FileError → String
  | .isDirectory => "Is a directory (os error 21)"
  | .blocked => "File exists (os error 17)"
  | .outOfRange => "out-of-range value for u64 type"

namespace Place

/-- The settings that are in force, and a warning if the file cannot be used; then nothing is
set. -/
def load : Place → Settings × Option String
  | .absent | .blocked => ({}, none)
  | .directory =>
    ({}, some ("Warning: Failed to read config file: " ++ FileError.isDirectory.message))
  | .file text =>
    match ofToml text with
    | .ok settings => (settings, none)
    | .error fault => ({}, some ("Warning: Failed to parse config file: " ++ fault.report text))

/-- Writes settings. -/
def save (place : Place) (settings : Settings) : Except FileError Place :=
  match settings.toToml?, place with
  | _, .blocked => .error .blocked
  | none, _ => .error .outOfRange
  | some _, .directory => .error .isDirectory
  | some text, _ => .ok (.file text)

/-- Writes the initial settings, unless something is there already. -/
def create : Place → Except FileError Place
  | .file text => .ok (.file text)
  | .directory => .ok .directory
  | place => place.save initial

end Place

/-! ### Paths -/

/-- The environment variables on which the place of the file depends. -/
structure Environment where
  home : Option String := none
  configHome : Option String := none
  configPath : Option String := none

/-- A path below a directory. -/
def join (directory name : String) : String :=
  if directory.isEmpty || directory.endsWith "/" then directory ++ name
  else directory ++ "/" ++ name

/-- The directory of the program's settings. A directory for settings counts only if its path is
absolute. -/
def directory (env : Environment) : String :=
  let base :=
    match env.configHome.filter (·.startsWith "/"), env.home.filter (· ≠ "") with
    | some path, _ => path
    | none, some home => join home ".config"
    | none, none => "."
  join base "oracle"

def path (env : Environment) : String :=
  env.configPath.getD (join (directory env) "config.toml")

end Settings

end CitedChat
