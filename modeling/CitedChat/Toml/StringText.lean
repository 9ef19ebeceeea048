import CitedChat.Toml.Layout
import CitedChat.Toml.Scalar

/-!
What the strings and the keys of a TOML text mean.
-/

set_option autoImplicit false

namespace CitedChat.Toml

/-- Control characters stand in no string and no comment; the tab does not count as one. -/
def isControl (c : Char) : Bool :=
  c ≠ '\t' && (c.toNat < 0x20 || c.toNat == 0x7f)

/-- The character that a letter behind a backslash stands for. -/
def escaped? : Char → Option Char
  | 'b' => some '\x08'
  | 't' => some '\t'
  | 'n' => some '\n'
  | 'f' => some '\x0c'
  | 'r' => some '\r'
  | 'e' => some '\x1b'
  | '"' => some '"'
  | '\\' => some '\\'
  | _ => none

/-- How many hexadecimal digits follow a letter behind a backslash. -/
def codeLength? : Char → Option Nat
  | 'x' => some 2
  | 'u' => some 4
  | 'U' => some 8
  | _ => none

/-- A character by its code. -/
def ofCode? (count : Nat) (digits : List Char) : Option Char :=
  let n := Scalar.valueIn 16 digits
  if digits.length == count && digits.all (Scalar.isDigitIn 16) && n.isValidChar then
    some (Char.ofNat n)
  else none

def isGap (c : Char) : Bool :=
  isBlankChar c || c == '\n' || c == '\r'

/-- Whether a backslash that these characters follow stands at the end of its line. -/
def isLineEnd (cs : List Char) : Bool :=
  match cs.dropWhile isBlankChar with
  | '\n' :: _ => true
  | '\r' :: '\n' :: _ => true
  | _ => false

/-- The meaning of what stands between the quotes, before `left` characters. The number bounds the
steps. In a string over several lines, a backslash at the end of a line takes away all white space
behind it, and a line ends with a line feed however it is written. -/
def meaning (style : Style) (left : Nat) : Nat → List Char → Except Fault (List Char)
  | 0, _ => .ok []
  | _, [] => .ok []
  | bound + 1, c :: rest =>
    if c == '\\' && style.hasEscapes then
      if style.isLong && isLineEnd rest then meaning style left bound (rest.dropWhile isGap)
      else
        match rest with
        | [] => fault .escape ⟨left + rest.length, 0⟩
        | d :: behind =>
          match escaped? d, codeLength? d with
          | some e, _ => (meaning style left bound behind).map (e :: ·)
          | none, some count =>
            match ofCode? count (behind.take count) with
            | some e => (meaning style left bound (behind.drop count)).map (e :: ·)
            | none => fault .codePoint ⟨left + behind.length, (behind.take count).length⟩
          | none, none => fault .escape ⟨left + rest.length, 1⟩
    else if c == '\r' && style.isLong then
      match rest with
      | '\n' :: behind => (meaning style left bound behind).map ('\n' :: ·)
      | _ => fault .loneReturn ⟨left + rest.length + 1, 1⟩
    else if isControl c && !(c == '\n' && style.isLong) then
      fault (.stringCharacter style) ⟨left + rest.length + 1, 1⟩
    else (meaning style left bound rest).map (c :: ·)

/-- The line end right behind the opening of a string over several lines does not count. -/
def withoutFirstLineEnd : List Char → List Char
  | '\n' :: rest => rest
  | '\r' :: '\n' :: rest => rest
  | cs => cs

/-- What a string means that is written with its quotes. -/
def stringText (style : Style) (text : List Char) (span : Span) : Except Fault String :=
  let quotes := style.delimiter
  let inside := text.drop quotes.length
  if quotes.isSuffixOf inside then
    let inside := inside.take (inside.length - quotes.length)
    let inside := if style.isLong then withoutFirstLineEnd inside else inside
    (meaning style (span.left - text.length + quotes.length) inside.length inside).map String.ofList
  else fault (.unclosedString style) ⟨span.left - span.length, 0⟩

def isBareKeyChar (c : Char) : Bool :=
  c.isAlphanum || c == '-' || c == '_'

/-- What a piece of a key means. -/
def keyText (piece : Token) : Except Fault String :=
  match piece.kind with
  | .string style =>
    if style.isLong then fault .longKey piece.span else stringText style piece.text piece.span
  | _ =>
    if piece.text.isEmpty then fault .emptyKey piece.start
    else
      match piece.text.dropWhile isBareKeyChar with
      | [] => .ok (String.ofList piece.text)
      | rest => fault .unquotedKey ⟨piece.left - (piece.text.length - rest.length), 1⟩

end CitedChat.Toml
