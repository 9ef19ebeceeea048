import CitedChat.Text.Utf8
import CitedChat.Toml.StringText

/-!
Writing a string in TOML. The style is the first of a few in which the text can stand without
escapes: in double quotes, in single quotes, in three double quotes, in three single quotes. Where
none of them will do, the text is written in double quotes with escapes.
-/

set_option autoImplicit false

namespace CitedChat.Toml

/-- The length of the longest run of a character; `run` is the length of the one that has begun. -/
def longestRun (c : Char) (run : Nat) : List Char → Nat
  | [] => run
  | d :: rest => if d == c then longestRun c (run + 1) rest else max run (longestRun c 0 rest)

/-- A control character, line feeds apart, can only be written as an escape. -/
def needsEscape (cs : List Char) : Bool :=
  cs.any fun c => isControl c && c ≠ '\n'

/-- Whether a text can stand between the quotes of a style as it is. -/
def fits (style : Style) (cs : List Char) : Bool :=
  !needsEscape cs && (style.isLong || !cs.contains '\n') &&
    !(style.hasEscapes && cs.contains '\\') &&
    longestRun style.quote 0 cs < style.delimiter.length

/-- The style in which a text is written. -/
def styleOf (cs : List Char) : Style :=
  match [Style.basic, .literal, .longBasic, .longLiteral].find? (fits · cs) with
  | some style => style
  | none => if cs.contains '\n' then .longBasic else .basic

/-- A character in a style with escapes. -/
def escapeChar (isLong : Bool) (c : Char) : List Char :=
  if c == '\x08' then ['\\', 'b']
  else if c == '\t' then ['\\', 't']
  else if c == '\n' then if isLong then [c] else ['\\', 'n']
  else if c == '\x0c' then ['\\', 'f']
  else if c == '\r' then ['\\', 'r']
  else if c == '\\' then ['\\', '\\']
  else if isControl c then
    ['\\', 'u', '0', '0', Text.upperHexDigit (c.toNat / 16), Text.upperHexDigit (c.toNat % 16)]
  else [c]

/-- Escapes a text. So many double quotes may stand in a row, of which `run` have been written. -/
def escape (style : Style) (run : Nat) : List Char → List Char
  | [] => []
  | c :: rest =>
    if c == '"' then
      if run + 1 < style.delimiter.length then c :: escape style (run + 1) rest
      else ['\\', '"'] ++ escape style 0 rest
    else escapeChar style.isLong c ++ escape style 0 rest

/-- A text in its quotes. A long one begins on a line of its own if it has several. -/
def quote (text : String) : String :=
  let cs := text.toList
  let style := styleOf cs
  let start := if style.isLong && cs.contains '\n' then ['\n'] else []
  let inside := if style.hasEscapes then escape style 0 cs else cs
  String.ofList (style.delimiter ++ start ++ inside ++ style.delimiter)

end CitedChat.Toml
