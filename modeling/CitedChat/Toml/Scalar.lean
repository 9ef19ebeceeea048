import CitedChat.Toml.Fault

/-!
The values that are written without quotes: booleans, numbers and moments. A reading refuses with a
cause and the part of the text that it concerns, as a distance from the beginning and a length.
-/

set_option autoImplicit false

namespace CitedChat.Toml

inductive Scalar where
  | boolean (value : Bool)
  | integer (value : Int)
  | float (value : Float)
  /-- A date, a time or both. -/
  | moment

/-- A cause, and where in the scalar it lies. -/
structure Objection where
  cause : Cause
  start : Nat := 0
  length : Nat

namespace Scalar

def refuse {α : Type} (cause : Cause) (text : List Char) : Except Objection α :=
  .error { cause, length := text.length }

/-! ### Digits -/

def isDigitIn (radix : Nat) (c : Char) : Bool :=
  if radix == 16 then c.isDigit || ('a' ≤ c && c ≤ 'f') || ('A' ≤ c && c ≤ 'F')
  else '0' ≤ c && c.toNat < '0'.toNat + radix

def digitValue (c : Char) : Nat :=
  if c.isDigit then c.toNat - '0'.toNat
  else if c ≤ 'F' then c.toNat - 'A'.toNat + 10
  else c.toNat - 'a'.toNat + 10

def valueIn (radix : Nat) (cs : List Char) : Nat :=
  cs.foldl (fun n c => if c == '_' then n else n * radix + digitValue c) 0

/-- An underscore stands between two digits. `afterDigit` says whether a digit came right
before. -/
def underscoresFit (radix : Nat) (afterDigit : Bool) : List Char → Bool
  | [] => true
  | c :: rest =>
    if c == '_' then
      afterDigit && (rest.head?.any (isDigitIn radix)) && underscoresFit radix false rest
    else underscoresFit radix (isDigitIn radix c) rest

/-- Digits, between which underscores may stand. -/
def digits (form : Form) (radix : Nat) (cs : List Char) : Except Objection Nat :=
  if cs.isEmpty || !cs.all (fun c => c == '_' || isDigitIn radix c) then refuse (.malformed form) cs
  else if !underscoresFit radix false cs then refuse .looseUnderscore cs
  else .ok (valueIn radix cs)

/-- Digits of which a leading zero is the only one. -/
def wholePart (form : Form) (cs : List Char) : Except Objection Nat :=
  match cs with
  | '0' :: _ :: _ => if cs.all (fun c => c == '_' || c.isDigit) then
      .error { cause := .leadingZero, length := 1 } else refuse (.malformed form) cs
  | _ => digits form 10 cs

/-! ### Numbers -/

def signed (isNegative : Bool) (n : Nat) : Int :=
  if isNegative then -(n : Int) else n

def isExponentMark (c : Char) : Bool :=
  c == 'e' || c == 'E'

/-- The exponent behind its mark; a sign may come first, and zeros may lead. -/
def exponent (cs : List Char) : Except Objection Int :=
  match cs with
  | '-' :: rest => (digits .float 10 rest).map fun n => signed true n
  | '+' :: rest => (digits .float 10 rest).map fun n => signed false n
  | rest => (digits .float 10 rest).map fun n => signed false n

/-- The double that digits before an exponent of ten give. -/
def scaled (isNegative : Bool) (n : Nat) (power : Int) : Float :=
  let x := if power < 0 then Float.ofScientific n true power.natAbs
    else Float.ofScientific n false power.natAbs
  if isNegative then -x else x

/-- A whole part, then a fraction or an exponent or both. -/
def real (isNegative : Bool) (cs : List Char) : Except Objection Scalar := do
  let mantissa := cs.takeWhile fun c => !isExponentMark c
  let power := cs.dropWhile fun c => !isExponentMark c
  let fraction := (mantissa.dropWhile (· ≠ '.')).drop 1
  let _ ← wholePart .float (mantissa.takeWhile (· ≠ '.'))
  if mantissa.contains '.' then let _ ← digits .float 10 fraction
  let e ← if power.isEmpty then pure 0 else exponent (power.drop 1)
  let places := (fraction.filter (· ≠ '_')).length
  let x := scaled isNegative (valueIn 10 (mantissa.filter (· ≠ '.'))) (e - places)
  if x.isInf then refuse (.overflow .float) cs else pure (.float x)

/-! ### Moments -/

/-- Reads so many digits, for a number between two bounds. -/
def fixed (count low high : Nat) (cs : List Char) : Option (Nat × List Char) :=
  let ds := cs.take count
  let n := valueIn 10 ds
  if ds.length == count && ds.all Char.isDigit && low ≤ n && n ≤ high then some (n, cs.drop count)
  else none

def mark (isMark : Char → Bool) : List Char → Option (List Char)
  | c :: rest => if isMark c then some rest else none
  | [] => none

def daysIn (year month : Nat) : Nat :=
  if month == 2 then
    if year % 4 == 0 && (year % 100 ≠ 0 || year % 400 == 0) then 29 else 28
  else if [4, 6, 9, 11].contains month then 30
  else 31

def date? (cs : List Char) : Option (List Char) := do
  let (year, cs) ← fixed 4 0 9999 cs
  let cs ← mark (· == '-') cs
  let (month, cs) ← fixed 2 1 12 cs
  let cs ← mark (· == '-') cs
  let (_, cs) ← fixed 2 1 (daysIn year month) cs
  pure cs

/-- The part of a second behind its point. -/
def fraction? (cs : List Char) : Option (List Char) :=
  match cs with
  | '.' :: rest => if rest.head?.any Char.isDigit then some (rest.dropWhile Char.isDigit) else none
  | _ => some cs

/-- Hours and minutes; seconds may be left out. -/
def time? (cs : List Char) : Option (List Char) := do
  let (_, cs) ← fixed 2 0 23 cs
  let cs ← mark (· == ':') cs
  let (_, cs) ← fixed 2 0 59 cs
  match cs with
  | ':' :: rest =>
    let (_, rest) ← fixed 2 0 60 rest
    fraction? rest
  | _ => pure cs

def offset? (cs : List Char) : Option (List Char) :=
  match cs with
  | [] => some []
  | 'Z' :: rest | 'z' :: rest => some rest
  | c :: rest =>
    if c == '+' || c == '-' then do
      let (_, rest) ← fixed 2 0 23 rest
      let rest ← mark (· == ':') rest
      let (_, rest) ← fixed 2 0 59 rest
      pure rest
    else none

def isMoment (cs : List Char) : Bool :=
  let whole : Option (List Char) := do
    match ← date? cs with
    | [] => pure []
    | rest =>
      let rest ← mark (fun c => c == 'T' || c == 't' || c == ' ') rest
      offset? (← time? rest)
  whole == some [] || time? cs == some []

/-! ### Whole scalars -/

/-- A word with a fixed meaning. -/
def word (form : Form) (name : String) (value : Scalar) (text cs : List Char) :
    Except Objection Scalar :=
  if cs == name.toList then .ok value
  else if text.contains ' ' then refuse .unquotedString text
  else refuse (.symbol form name) text

/-- A text that is nothing else: most likely its quotes are missing. -/
def unknown (text : List Char) : Except Objection Scalar :=
  let ends (quote : String) := quote.toList.isSuffixOf text
  let objection (quote : String) : Except Objection Scalar :=
    .error { cause := .missingQuote quote, length := 0 }
  if ends "'''" then objection "'''"
  else if ends "\"\"\"" then objection "\"\"\""
  else if ends "'" then objection "'"
  else if ends "\"" then objection "\""
  else refuse .unquotedString text

/-- A number in another radix than ten, behind its mark. -/
def radixNumber (isSigned : Bool) (radix : Nat) (letter : Char) (rest : List Char) :
    Except Objection Scalar :=
  if isSigned then .error { cause := .signedRadix, length := 1 }
  else if letter.isUpper then
    .error { cause := .upperCaseRadix (String.ofList ['0', letter.toLower]), length := 2 }
  else (digits (.integer radix) radix rest).map fun n => .integer n

/-- Numbers and moments; a sign has been taken off. -/
def number (isSigned isNegative : Bool) (cs : List Char) : Except Objection Scalar :=
  match cs with
  | '0' :: letter :: rest =>
    match letter.toLower with
    | 'x' => radixNumber isSigned 16 letter rest
    | 'o' => radixNumber isSigned 8 letter rest
    | 'b' => radixNumber isSigned 2 letter rest
    | _ => decimal
  | _ => decimal
where
  decimal : Except Objection Scalar :=
    match cs.dropWhile Char.isDigit with
    | [] => (wholePart (.integer 10) cs).map fun n => .integer (signed isNegative n)
    | c :: _ =>
      if !isSigned && (c == '-' || c == ':') then
        if isMoment cs then .ok .moment else refuse (.malformed .moment) cs
      else if cs.any fun c => c == '.' || isExponentMark c then real isNegative cs
      else (wholePart (.integer 10) cs).map fun n => .integer (signed isNegative n)

def infinity (isNegative : Bool) : Float :=
  Float.ofBits (if isNegative then 0xfff0000000000000 else 0x7ff0000000000000)

def notANumber : Float :=
  Float.ofBits 0x7ff8000000000000

/-- Reads a scalar. Its first character decides what it is taken for. -/
def ofText (text : List Char) : Except Objection Scalar :=
  let (isSigned, isNegative, cs) :=
    match text with
    | '+' :: rest => (true, false, rest)
    | '-' :: rest => (true, true, rest)
    | _ => (false, false, text)
  match cs with
  | [] => unknown text
  | c :: _ =>
    if c.isDigit || c == '_' || c == '.' then number isSigned isNegative cs
    else
      match c.toLower with
      | 't' => if isSigned then unknown text else word .boolean "true" (.boolean true) text cs
      | 'f' => if isSigned then unknown text else word .boolean "false" (.boolean false) text cs
      | 'i' => word .float "inf" (.float (infinity isNegative)) text cs
      | 'n' => word .float "nan" (.float notANumber) text cs
      | _ => unknown text

end Scalar

end CitedChat.Toml
