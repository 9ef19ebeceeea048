/-!
Text in UTF-8. Bytes are read character by character. Where they are not well formed, either the
first few belong to no character whatever follows, or the end cuts a character short; a reader
stops there, or writes one replacement character and goes on. In an address the bytes of a
character are percent-encoded: each as a percent sign and two hexadecimal digits in upper case.
-/

set_option autoImplicit false

namespace CitedChat.Text.Utf8

/-- What the first byte of a character says: the bits that it gives, how many bytes follow, and the
range of the next one. -/
structure Lead where
  bits : Nat
  more : Nat
  low : Nat := 0x80
  high : Nat := 0xbf

def lead? (b : Nat) : Option Lead :=
  if b < 0x80 then some { bits := b, more := 0 }
  else if b < 0xc2 then none
  else if b < 0xe0 then some { bits := b - 0xc0, more := 1 }
  else if b == 0xe0 then some { bits := 0, more := 2, low := 0xa0 }
  else if b == 0xed then some { bits := 0xd, more := 2, high := 0x9f }
  else if b < 0xf0 then some { bits := b - 0xe0, more := 2 }
  else if b == 0xf0 then some { bits := 0, more := 3, low := 0x90 }
  else if b < 0xf4 then some { bits := b - 0xf0, more := 3 }
  else if b == 0xf4 then some { bits := 4, more := 3, high := 0x8f }
  else none

/-- The first character of some bytes, with the bytes behind it. -/
inductive Head where
  | char (c : Char) (rest : List UInt8)
  /-- The first bytes, so many, belong to no character. -/
  | invalid (length : Nat) (rest : List UInt8)
  /-- The bytes end inside a character. -/
  | cutShort

/-- Reads the bytes after the first one, of which `read` have been taken with it. -/
def follow (bits read : Nat) : (more low high : Nat) → List UInt8 → Head
  | 0, _, _, bytes => .char (Char.ofNat bits) bytes
  | _ + 1, _, _, [] => .cutShort
  | more + 1, low, high, b :: rest =>
    if low ≤ b.toNat && b.toNat ≤ high then
      follow (bits * 0x40 + (b.toNat - 0x80)) (read + 1) more 0x80 0xbf rest
    else .invalid read (b :: rest)

def head (b : UInt8) (rest : List UInt8) : Head :=
  match lead? b.toNat with
  | none => .invalid 1 rest
  | some lead => follow lead.bits 1 lead.more lead.low lead.high rest

/-- Why bytes could not be read to their end. -/
inductive Fault where
  | invalid (length : Nat)
  | cutShort
  deriving DecidableEq

/-- Reads up to a number of characters. -/
def readUpTo : Nat → List UInt8 → List Char × Option Fault
  | 0, _ => ([], none)
  | _, [] => ([], none)
  | bound + 1, b :: bytes =>
    match head b bytes with
    | .char c rest =>
      let (cs, fault) := readUpTo bound rest
      (c :: cs, fault)
    | .invalid length _ => ([], some (.invalid length))
    | .cutShort => ([], some .cutShort)

/-- The characters up to the first fault, and that fault. There are no more characters than
bytes. -/
def read (bytes : List UInt8) : List Char × Option Fault :=
  readUpTo bytes.length bytes

def replacement : Char := '\ufffd'

def mendUpTo : Nat → List UInt8 → List Char
  | 0, _ => []
  | _, [] => []
  | bound + 1, b :: bytes =>
    match head b bytes with
    | .char c rest => c :: mendUpTo bound rest
    | .invalid _ rest => replacement :: mendUpTo bound rest
    | .cutShort => [replacement]

/-- All characters, with a replacement for each faulty sequence. -/
def mend (bytes : List UInt8) : String :=
  String.ofList (mendUpTo bytes.length bytes)

def encode (text : String) : List UInt8 :=
  text.toList.flatMap String.utf8EncodeChar

end CitedChat.Text.Utf8

namespace CitedChat.Text

def upperHexDigit (n : Nat) : Char :=
  if n < 10 then Char.ofNat ('0'.toNat + n) else Char.ofNat ('A'.toNat + (n - 10))

def percentByte (b : UInt8) : List Char :=
  ['%', upperHexDigit (b.toNat / 16), upperHexDigit (b.toNat % 16)]

/-- A character as its bytes, each of them encoded. -/
def percentChar (c : Char) : List Char :=
  (String.utf8EncodeChar c).flatMap percentByte

end CitedChat.Text
