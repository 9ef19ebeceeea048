import CitedChat.Json.Error

/-!
Why a TOML text is refused, and where. Each cause has one wording; most of them say what would have
been expected in the place.
-/

set_option autoImplicit false

namespace CitedChat.Toml

/-- A piece of a text. Its place is told by how many characters are left from its first one on. -/
structure Span where
  left : Nat
  length : Nat := 0
  deriving DecidableEq

/-- The four ways to write a string. -/
inductive Style where
  | basic
  | literal
  | longBasic
  | longLiteral
  deriving DecidableEq

namespace Style

def name : Style → String
  | .basic => "basic string"
  | .literal => "literal string"
  | .longBasic => "multi-line basic string"
  | .longLiteral => "multi-line literal string"

def quote : Style → Char
  | .basic | .longBasic => '"'
  | .literal | .longLiteral => '\''

def isLong : Style → Bool
  | .longBasic | .longLiteral => true
  | _ => false

def hasEscapes : Style → Bool
  | .basic | .longBasic => true
  | _ => false

def delimiter (style : Style) : List Char :=
  List.replicate (if style.isLong then 3 else 1) style.quote

/-- What may stand in a string. -/
def content : Style → String
  | .basic => "non-double-quote visible characters, `\\`"
  | .literal => "non-single-quote visible characters"
  | .longBasic => "printable characters, `\"`, `\\`, newline"
  | .longLiteral => "printable characters, `'`, newline"

end Style

/-- What an unquoted scalar looks like. -/
inductive Form where
  | boolean
  | integer (radix : Nat)
  | float
  | moment
  deriving DecidableEq

def Form.name : Form → String
  | .boolean => "boolean"
  | .integer 16 => "hexadecimal number"
  | .integer 8 => "octal number"
  | .integer 2 => "binary number"
  | .integer _ => "integer number"
  | .float => "floating-point number"
  | .moment => "date-time"

inductive Cause where
  -- the shape of the document
  | keyWithoutValue
  | trailingText
  | missingKey
  | extraEquals
  | missingOpening (what opening : String)
  | unclosed (what closing : String)
  | missingComma (between : String)
  | extraComma (place expected : String)
  | tooDeep
  -- keys and scalars
  | emptyKey
  | unquotedKey
  | longKey
  | unquotedString
  | missingQuote (quote : String)
  | unclosedString (style : Style)
  | stringCharacter (style : Style)
  | escape
  | codePoint
  | symbol (form : Form) (expected : String)
  | malformed (form : Form)
  | leadingZero
  | looseUnderscore
  | signedRadix
  | upperCaseRadix (expected : String)
  | comment
  | loneReturn
  -- the tables
  | duplicateKey
  | notATable (kind : String)
  -- the values asked for
  | mismatch (mismatch : Json.Mismatch)
  | wideInteger (value : Int) (expected : String)
  | overflow (form : Form)

def Cause.message : Cause → String
  | .keyWithoutValue => "key with no value, expected `=`"
  | .trailingText => "unexpected key or value, expected newline, `#`"
  | .missingKey => "missing key, expected key"
  | .extraEquals => "extra `=`, expected nothing"
  | .missingOpening what opening => "missing " ++ what ++ " opening, expected `" ++ opening ++ "`"
  | .unclosed what closing => "unclosed " ++ what ++ ", expected `" ++ closing ++ "`"
  | .missingComma between => "missing comma between " ++ between ++ ", expected `,`"
  | .extraComma place expected => "extra comma in " ++ place ++ ", expected " ++ expected
  | .tooDeep => "cannot recurse further; max recursion depth met"
  | .emptyKey => "unquoted keys cannot be empty, expected letters, numbers, `-`, `_`"
  | .unquotedKey => "invalid unquoted key, expected letters, numbers, `-`, `_`"
  | .longKey => "keys cannot be multi-line strings, expected basic string, literal string"
  | .unquotedString => "string values must be quoted, expected literal string"
  | .missingQuote quote => "missing opening quote, expected `" ++ quote ++ "`"
  | .unclosedString style =>
    "invalid " ++ style.name ++ ", expected `" ++ String.ofList style.delimiter ++ "`"
  | .stringCharacter style => "invalid " ++ style.name ++ ", expected " ++ style.content
  | .escape =>
    "missing escaped value, expected `b`, `e`, `f`, `n`, `r`, `\\`, `\"`, `x`, `u`, `U`"
  | .codePoint => "invalid unicode value, expected unicode hexadecimal value"
  | .symbol form expected => "invalid " ++ form.name ++ ", expected `" ++ expected ++ "`"
  | .malformed form => "invalid " ++ form.name ++ ", expected digits"
  | .leadingZero => "unexpected leading zero, expected nothing"
  | .looseUnderscore => "`_` may only go between digits, expected digit"
  | .signedRadix => "integers with a radix cannot be signed, expected nothing"
  | .upperCaseRadix expected => "radix must be lowercase, expected `" ++ expected ++ "`"
  | .comment => "invalid comment character, expected printable characters"
  | .loneReturn => "carriage return must be followed by newline, expected newline"
  | .duplicateKey => "duplicate key"
  | .notATable kind => "cannot extend value of type " ++ kind ++ " with a dotted key"
  | .mismatch m => m.message
  | .wideInteger value expected =>
    "invalid type: integer `" ++ toString value ++ "` as i128, expected " ++ expected
  | .overflow form =>
    match form with
    | .integer _ => "integer number overflowed"
    | form => form.name ++ " overflowed"

structure Fault where
  cause : Cause
  span : Span

/-! ### Showing a fault in its text -/

/-- How often a line feed occurs. -/
def lineCount (cs : List Char) : Nat :=
  cs.count '\n'

/-- The characters since the last line feed. -/
def currentLine (cs : List Char) : List Char :=
  (cs.reverse.takeWhile (· ≠ '\n')).reverse

def byteLength (cs : List Char) : Nat :=
  (String.ofList cs).utf8ByteSize

/-- The message of a fault under the line in which it stands, with a mark below the place. The mark
is as long as the piece has bytes, but goes no further than the line does. -/
def Fault.report (fault : Fault) (text : String) : String :=
  let cs := text.toList
  let start := cs.length - fault.span.left
  let before := cs.take start
  -- what stands behind a final line feed belongs to the line that it ends
  let before :=
    if start == cs.length && before.getLast? == some '\n' then before.dropLast else before
  let column := (currentLine before).length + (start - before.length)
  let line := currentLine before ++ (cs.drop before.length).takeWhile (· ≠ '\n')
  let number := toString (lineCount before + 1)
  let margin := String.ofList (List.replicate (number.length + 1) ' ')
  let width := min (byteLength ((cs.drop start).take fault.span.length)) (byteLength line - column)
  "TOML parse error at line " ++ number ++ ", column " ++ toString (column + 1) ++ "\n" ++
    margin ++ "|\n" ++
    number ++ " | " ++ String.ofList line ++ "\n" ++
    margin ++ "|" ++ String.ofList (List.replicate (column + 1) ' ') ++
      String.ofList (List.replicate (max 1 width) '^') ++ "\n" ++
    fault.cause.message ++ "\n"

end CitedChat.Toml
