import CitedChat.Toml.Fault

/-!
The tokens of a TOML text. Every character belongs to one token; whether the inside of a string, a
comment or an unquoted piece is as it should be is not looked at here.
-/

set_option autoImplicit false

namespace CitedChat.Toml

inductive Kind where
  | dot
  | equals
  | comma
  | openBracket
  | closeBracket
  | openBrace
  | closeBrace
  | blank
  | newline
  | comment
  | string (style : Style)
  /-- An unquoted piece. -/
  | plain
  /-- Stands behind the last character. -/
  | finish
  deriving DecidableEq

structure Token where
  kind : Kind
  text : List Char
  /-- How many characters are left from its first one on. -/
  left : Nat

namespace Token

def span (t : Token) : Span :=
  ⟨t.left, t.text.length⟩

/-- The place right before a token. -/
def start (t : Token) : Span :=
  ⟨t.left, 0⟩

end Token

/-! ### The length of a string -/

/-- What follows the opening quote of a basic string: it goes up to a quote without a backslash,
or to the end of the line. `escaped` says that a backslash came right before. -/
def basicLength (escaped : Bool) : List Char → Nat
  | [] => 0
  | c :: rest =>
    if escaped && (c == '"' || c == '\\') then 1 + basicLength false rest
    else if c == '"' then 1
    else if c == '\n' then 0
    else 1 + basicLength (c == '\\') rest

def literalLength : List Char → Nat
  | [] => 0
  | c :: rest => if c == '\'' then 1 else if c == '\n' then 0 else 1 + literalLength rest

/-- What follows the opening of a string over several lines. Up to two quotes may stand right
before the closing ones. -/
def longLength (style : Style) (escaped : Bool) : List Char → Nat
  | [] => 0
  | c :: rest =>
    if escaped then 1 + longLength style false rest
    else if style.delimiter.isPrefixOf (c :: rest) then
      3 + min 2 ((rest.drop 2).takeWhile (· == style.quote)).length
    else 1 + longLength style (c == '\\' && style.hasEscapes) rest

def stringLength (style : Style) (cs : List Char) : Nat :=
  match style with
  | .basic => 1 + basicLength false (cs.drop 1)
  | .literal => 1 + literalLength (cs.drop 1)
  | style => 3 + longLength style false (cs.drop 3)

/-! ### Tokens -/

/-- The characters that end an unquoted piece. -/
def endsPlain (c : Char) : Bool :=
  ".=,[]\x7b\x7d \t#\r\n".toList.contains c

def isBlankChar (c : Char) : Bool :=
  c == ' ' || c == '\t'

/-- The kind and the length of the token that begins with a character. -/
def classify (c : Char) (rest : List Char) : Kind × Nat :=
  let ofString (short long : Style) : Kind × Nat :=
    let style := if long.delimiter.isPrefixOf (c :: rest) then long else short
    (.string style, stringLength style (c :: rest))
  match c with
  | '.' => (.dot, 1)
  | '=' => (.equals, 1)
  | ',' => (.comma, 1)
  | '[' => (.openBracket, 1)
  | ']' => (.closeBracket, 1)
  | '\x7b' => (.openBrace, 1)
  | '\x7d' => (.closeBrace, 1)
  | '\n' => (.newline, 1)
  | '\r' => (.newline, if rest.head? == some '\n' then 2 else 1)
  | '#' => (.comment, 1 + (rest.takeWhile fun d => d ≠ '\n' && d ≠ '\r').length)
  | '"' => ofString .basic .longBasic
  | '\'' => ofString .literal .longLiteral
  | _ =>
    if isBlankChar c then (.blank, 1 + (rest.takeWhile isBlankChar).length)
    else (.plain, 1 + (rest.takeWhile fun d => !endsPlain d).length)

/-- Cuts off tokens; the number bounds how many, and a token has at least one character. -/
def tokensUpTo : Nat → List Char → List Token
  | 0, _ => [⟨.finish, [], 0⟩]
  | _, [] => [⟨.finish, [], 0⟩]
  | bound + 1, c :: rest =>
    let (kind, length) := classify c rest
    ⟨kind, (c :: rest).take length, rest.length + 1⟩ :: tokensUpTo bound ((c :: rest).drop length)

/-- The tokens of a text; a byte order mark at its beginning is none. -/
def tokens (cs : List Char) : List Token :=
  match cs with
  | '\ufeff' :: rest => tokensUpTo rest.length rest
  | cs => tokensUpTo cs.length cs

end CitedChat.Toml
