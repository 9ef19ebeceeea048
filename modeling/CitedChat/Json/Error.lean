import CitedChat.Json.Tree
import CitedChat.Text.Quoted
import CitedChat.Text.Shortest
import CitedChat.Word

/-!
Why a text or a value is refused. A `Flaw` is an offence against the grammar of JSON or a text
that ends too soon; a `Mismatch` is a value of another shape than the one asked for. Each cause
has one wording, and an error has a place where the text that it concerns is known.
-/

set_option autoImplicit false

namespace CitedChat.Json

/-- A double in its shortest form: positional from `10^-5` up to `10^16`, with a fraction that
marks it as no integer, and with an exponent outside. -/
def floatText (x : Float) : String :=
  let sign := if x.toBits.toNat / Word.signedLimit == 1 then "-" else ""
  let d := (Text.Binary.ofFloat x).shortest
  let digits := Nat.repr d.digits
  let count : Int := digits.length
  let point := count + d.exponent
  let body :=
    if d.digits == 0 then "0.0"
    else if 0 ≤ d.exponent && point ≤ 16 then
      digits ++ String.ofList (List.replicate d.exponent.toNat '0') ++ ".0"
    else if 0 < point && point ≤ 16 then
      String.ofList (digits.toList.take point.toNat) ++ "." ++
        String.ofList (digits.toList.drop point.toNat)
    else if -5 < point && point ≤ 0 then
      "0." ++ String.ofList (List.replicate (-point).toNat '0') ++ digits
    else
      let exponent := point - 1
      let mark := if exponent < 0 then "e-" else "e+"
      let fraction := String.ofList (digits.toList.drop 1)
      String.ofList (digits.toList.take 1) ++ (if fraction.isEmpty then "" else "." ++ fraction) ++
        mark ++ Nat.repr exponent.natAbs
  sign ++ body

/-- What stands where something else is expected. -/
inductive Found where
  | null
  | bool (value : Bool)
  | integer (value : Int)
  | float (value : Float)
  | string (value : String)
  | sequence
  | map
  | unitVariant

namespace Found

def ofNumber : Number → Found
  | .integer value => .integer value
  | .float value => .float value

def ofTree : Tree → Found
  | .null => .null
  | .bool value => .bool value
  | .number value => .ofNumber value
  | .string value => .string value
  | .array _ => .sequence
  | .object _ => .map

def message : Found → String
  | .null => "null"
  | .bool value => "boolean `" ++ (if value then "true" else "false") ++ "`"
  | .integer value => "integer `" ++ toString value ++ "`"
  | .float value => "floating point `" ++ floatText value ++ "`"
  | .string value => "string " ++ Text.quoted value
  | .sequence => "sequence"
  | .map => "map"
  | .unitVariant => "unit variant"

end Found

/-- A value of another shape than the one asked for. -/
inductive Mismatch where
  | invalidType (found : Found) (expected : String)
  | invalidValue (found : Found) (expected : String)
  | invalidLength (count : Nat) (expected : String)
  | missingField (name : String)
  | duplicateField (name : String)
  | unknownVariant (name : String) (known : List String)

namespace Mismatch

/-- Names as alternatives: two are joined by "or", more are listed. -/
def alternatives : List String → String
  | [] => "there are no variants"
  | [a] => "expected `" ++ a ++ "`"
  | [a, b] => "expected `" ++ a ++ "` or `" ++ b ++ "`"
  | names => "expected one of " ++ ", ".intercalate (names.map fun n => "`" ++ n ++ "`")

def message : Mismatch → String
  | .invalidType found expected => "invalid type: " ++ found.message ++ ", expected " ++ expected
  | .invalidValue found expected => "invalid value: " ++ found.message ++ ", expected " ++ expected
  | .invalidLength count expected =>
    "invalid length " ++ toString count ++ ", expected " ++ expected
  | .missingField name => "missing field `" ++ name ++ "`"
  | .duplicateField name => "duplicate field `" ++ name ++ "`"
  | .unknownVariant name known => "unknown variant `" ++ name ++ "`, " ++ alternatives known

end Mismatch

/-- An offence against the grammar, or an end that comes too soon. -/
inductive Flaw where
  | endInList
  | endInObject
  | endInString
  | endInValue
  | expectedColon
  | expectedListCommaOrEnd
  | expectedObjectCommaOrEnd
  | expectedIdent
  | expectedValue
  | invalidEscape
  | invalidNumber
  | numberOutOfRange
  | controlCharacter
  | keyMustBeString
  | loneSurrogate
  | trailingComma
  | trailingCharacters
  | brokenSurrogatePair
  | recursionLimit
  deriving DecidableEq

namespace Flaw

/-- Whether the text ended where more of it was needed. -/
def isEnd : Flaw → Bool
  | .endInList | .endInObject | .endInString | .endInValue => true
  | _ => false

def message : Flaw → String
  | .endInList => "EOF while parsing a list"
  | .endInObject => "EOF while parsing an object"
  | .endInString => "EOF while parsing a string"
  | .endInValue => "EOF while parsing a value"
  | .expectedColon => "expected `:`"
  | .expectedListCommaOrEnd => "expected `,` or `]`"
  | .expectedObjectCommaOrEnd => "expected `,` or `\x7d`"
  | .expectedIdent => "expected ident"
  | .expectedValue => "expected value"
  | .invalidEscape => "invalid escape"
  | .invalidNumber => "invalid number"
  | .numberOutOfRange => "number out of range"
  | .controlCharacter => "control character (\\u0000-\\u001F) found while parsing a string"
  | .keyMustBeString => "key must be a string"
  | .loneSurrogate => "lone leading surrogate in hex escape"
  | .trailingComma => "trailing comma"
  | .trailingCharacters => "trailing characters"
  | .brokenSurrogatePair => "unexpected end of hex escape"
  | .recursionLimit => "recursion limit exceeded"

end Flaw

inductive Cause where
  | flaw (flaw : Flaw)
  | mismatch (mismatch : Mismatch)

def Cause.message : Cause → String
  | .flaw f => f.message
  | .mismatch m => m.message

/-- Lines count from one; the column is the number of bytes of the line before the place. -/
structure Place where
  line : Nat
  column : Nat

structure Error where
  cause : Cause
  place : Option Place

namespace Error

/-- The three ways to be refused: not JSON, cut short, or of the wrong shape. -/
inductive Category where
  | malformed
  | cutShort
  | misshapen
  deriving DecidableEq

def category (e : Error) : Category :=
  match e.cause with
  | .flaw f => if f.isEnd then .cutShort else .malformed
  | .mismatch _ => .misshapen

def message (e : Error) : String :=
  match e.place with
  | none => e.cause.message
  | some place =>
    e.cause.message ++ " at line " ++ toString place.line ++ " column " ++ toString place.column

end Error

end CitedChat.Json
