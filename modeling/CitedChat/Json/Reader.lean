import CitedChat.Json.Error

/-!
Reading JSON text. A reader takes what is left of the text and gives a value with what is left
after it. A fault notes the text unread where it arose; its place is worked out at the end, from
the whole text.

`Scope.depth` bounds the nesting, which is a rule of the format; `Scope.budget` bounds the number
of steps of each loop and is the length of the text, so that no loop can exhaust it.
-/

set_option autoImplicit false

namespace CitedChat.Json

/-- A fault has a place, given by the number of bytes unread, or waits for one: a mismatch found
inside a value is placed by the reader of the value around it, at the text then unread. -/
inductive Fault where
  | placed (cause : Cause) (unread : Nat)
  | loose (mismatch : Mismatch) (rest : List Char)

abbrev Reader (α : Type) := List Char → Except Fault (α × List Char)

structure Scope where
  depth : Nat
  budget : Nat

/-- How many values may be nested in one another. -/
def depthLimit : Nat := 127

def Scope.ofText (text : List Char) : Scope :=
  ⟨depthLimit, text.length + 1⟩

def byteCount (cs : List Char) : Nat :=
  cs.foldl (fun n c => n + c.utf8Size) 0

/-- A flaw found before the next character. -/
def flawAt {α : Type} (flaw : Flaw) (rest : List Char) : Except Fault α :=
  .error (.placed (.flaw flaw) (byteCount rest))

/-- A flaw that the next byte shows, and that is placed behind it. -/
def flawOn {α : Type} (flaw : Flaw) (rest : List Char) : Except Fault α :=
  .error (.placed (.flaw flaw) (byteCount rest - 1))

def mismatchAt {α : Type} (mismatch : Mismatch) (rest : List Char) : Except Fault α :=
  .error (.placed (.mismatch mismatch) (byteCount rest))

/-- The place `unread` bytes before the end of the text. -/
def placeOf (text : List Char) (unread : Nat) : Place :=
  go (byteCount text - unread) 1 0 text
where
  go : Nat → Nat → Nat → List Char → Place
    | _, line, column, [] => ⟨line, column⟩
    | left, line, column, c :: rest =>
      if left < c.utf8Size then ⟨line, column + left⟩
      else if c == '\n' then go (left - c.utf8Size) (line + 1) 0 rest
      else go (left - c.utf8Size) line (column + c.utf8Size) rest

def Fault.toError (text : List Char) : Fault → Error
  | .placed cause unread => ⟨cause, some (placeOf text unread)⟩
  | .loose mismatch _ => ⟨.mismatch mismatch, none⟩

def isSpace (c : Char) : Bool :=
  c == ' ' || c == '\n' || c == '\t' || c == '\r'

def skipSpace (cs : List Char) : List Char :=
  cs.dropWhile isSpace

/-- The rest of a keyword whose first letter has been seen. -/
def readKeyword : List Char → List Char → Except Fault (List Char)
  | [], rest => .ok rest
  | _ :: _, [] => flawAt .endInValue []
  | w :: word, c :: rest => if c == w then readKeyword word rest else flawAt .expectedIdent rest

/-! ### Strings -/

def hexValue? (c : Char) : Option Nat :=
  if '0' ≤ c ∧ c ≤ '9' then some (c.toNat - '0'.toNat)
  else if 'a' ≤ c ∧ c ≤ 'f' then some (c.toNat - 'a'.toNat + 10)
  else if 'A' ≤ c ∧ c ≤ 'F' then some (c.toNat - 'A'.toNat + 10)
  else none

/-- The code unit written as four hexadecimal digits; four bytes are consumed in any case. -/
def readUnit (cs : List Char) : Except Fault (Nat × List Char) :=
  match cs with
  | a :: b :: c :: d :: rest =>
    match hexValue? a, hexValue? b, hexValue? c, hexValue? d with
    | some a, some b, some c, some d => .ok (((a * 16 + b) * 16 + c) * 16 + d, rest)
    | _, _, _, _ => short cs
  | _ => short cs
where
  short (cs : List Char) : Except Fault (Nat × List Char) :=
    if byteCount cs < 4 then flawAt .endInString []
    else .error (.placed (.flaw .invalidEscape) (byteCount cs - 4))

def simpleEscape? : Char → Option Char
  | '"' => some '"'
  | '\\' => some '\\'
  | '/' => some '/'
  | 'b' => some '\x08'
  | 'f' => some '\x0c'
  | 'n' => some '\n'
  | 'r' => some '\r'
  | 't' => some '\t'
  | _ => none

/-- The character after a `\u`: one code unit, or a pair of surrogates in two escapes. -/
def readPoint (cs : List Char) : Except Fault (Char × List Char) := do
  let (high, rest) ← readUnit cs
  if 0xdc00 ≤ high ∧ high ≤ 0xdfff then flawAt .loneSurrogate rest
  else if high < 0xd800 ∨ 0xdbff < high then pure (Char.ofNat high, rest)
  else match rest with
    | [] => flawAt .endInString []
    | '\\' :: [] => flawAt .endInString []
    | '\\' :: 'u' :: rest =>
      let (low, rest) ← readUnit rest
      if low < 0xdc00 ∨ 0xdfff < low then flawAt .loneSurrogate rest
      else pure (Char.ofNat (0x10000 + (high - 0xd800) * 0x400 + (low - 0xdc00)), rest)
    | '\\' :: rest => flawOn .brokenSurrogatePair rest
    | rest => flawOn .brokenSurrogatePair rest

/-- The text of a string after its opening quote, read onto `done`, which holds the characters
read so far in reverse. -/
def readStringBody : Nat → List Char → Reader String
  | 0, _, rest => flawAt .endInString rest
  | _, _, [] => flawAt .endInString []
  | budget + 1, done, c :: rest =>
    if c == '"' then .ok (String.ofList done.reverse, rest)
    else if c == '\\' then
      match rest with
      | [] => flawAt .endInString []
      | 'u' :: rest => do
        let (point, rest) ← readPoint rest
        readStringBody budget (point :: done) rest
      | e :: rest =>
        match simpleEscape? e with
        | some x => readStringBody budget (x :: done) rest
        | none =>
          .error (.placed (.flaw .invalidEscape) (byteCount (e :: rest) - 1))
    else if c.toNat < 0x20 then flawAt .controlCharacter rest
    else readStringBody budget (c :: done) rest

/-! ### Sequences and maps -/

/-- Whether an item follows, and the text from it on; otherwise the closing bracket is next. -/
def seekItem (first : Bool) (cs : List Char) : Except Fault (Bool × List Char) :=
  match skipSpace cs with
  | [] => flawOn .endInList []
  | ']' :: rest => .ok (false, ']' :: rest)
  | c :: rest =>
    if first then .ok (true, c :: rest)
    else if c == ',' then
      match skipSpace rest with
      | [] => flawOn .endInValue []
      | ']' :: rest => flawOn .trailingComma (']' :: rest)
      | rest => .ok (true, rest)
    else flawOn .expectedListCommaOrEnd (c :: rest)

/-- Whether a key follows, and the text behind its opening quote; otherwise the closing brace is
next. -/
def seekKey (first : Bool) (cs : List Char) : Except Fault (Bool × List Char) :=
  match skipSpace cs with
  | [] => flawOn .endInObject []
  | '\x7d' :: rest => .ok (false, '\x7d' :: rest)
  | c :: rest =>
    if first then
      if c == '"' then .ok (true, rest) else flawOn .keyMustBeString (c :: rest)
    else if c == ',' then
      match skipSpace rest with
      | [] => flawOn .endInValue []
      | '"' :: rest => .ok (true, rest)
      | '\x7d' :: rest => flawOn .trailingComma ('\x7d' :: rest)
      | rest => flawOn .keyMustBeString rest
    else flawOn .expectedObjectCommaOrEnd (c :: rest)

def readColon (cs : List Char) : Except Fault (List Char) :=
  match skipSpace cs with
  | [] => flawOn .endInObject []
  | ':' :: rest => .ok rest
  | rest => flawOn .expectedColon rest

/-- The end of a sequence: how far the text is consumed, and whether it ends here. -/
def closeSequence (cs : List Char) : List Char × Option Flaw :=
  match skipSpace cs with
  | [] => ([], some .endInList)
  | ']' :: rest => (rest, none)
  | ',' :: rest =>
    match skipSpace rest with
    | ']' :: rest => (']' :: rest, some .trailingComma)
    | rest => (rest, some .trailingCharacters)
  | rest => (rest, some .trailingCharacters)

def closeMap (cs : List Char) : List Char × Option Flaw :=
  match skipSpace cs with
  | [] => ([], some .endInObject)
  | '\x7d' :: rest => (rest, none)
  | ',' :: rest => (',' :: rest, some .trailingComma)
  | rest => (rest, some .trailingCharacters)

/-- Closes a bracket after its contents. A mismatch that waits for a place gets the one behind the
bracket, or as far as the attempt to close went. -/
def closing {α : Type} (close : List Char → List Char × Option Flaw)
    (result : Except Fault (α × List Char)) : Except Fault (α × List Char) :=
  match result with
  | .ok (value, rest) =>
    match close rest with
    | (rest, none) => .ok (value, rest)
    | (rest, some flaw) => flawOn flaw rest
  | .error (.loose mismatch rest) => mismatchAt mismatch (close rest).1
  | .error fault => .error fault

/-- One level further in, or the offence of nesting too deep. -/
def descend {α : Type} (scope : Scope) (cs : List Char) (inner : Scope → Except Fault α) :
    Except Fault α :=
  match scope.depth with
  | 0 => flawOn .recursionLimit cs
  | depth + 1 => inner ⟨depth, scope.budget⟩

end CitedChat.Json
