import CitedChat.Json.Reader
import CitedChat.Word

/-!
Numbers. A whole number that fits into 64 bits is kept exactly. Every other number is a double: the
leading digits that fit into an unsigned 64-bit integer, scaled by one power of ten, so that the
result may differ from the nearest double in its last place.
-/

set_option autoImplicit false

namespace CitedChat.Json

def digitValue (c : Char) : Nat := c.toNat - '0'.toNat

def spanDigits (cs : List Char) : List Char × List Char :=
  cs.span Char.isDigit

/-- The digits before the point: a value below the limit, and how many digits were dropped once
one more would have passed it. -/
def takeWhole : List Char → Nat → Nat → Nat × Nat
  | [], value, dropped => (value, dropped)
  | c :: rest, value, dropped =>
    let next := value * 10 + digitValue c
    if dropped == 0 && next < Word.limit then takeWhole rest next 0
    else takeWhole rest value (dropped + 1)

/-- The digits behind the point: each lowers the exponent, until one would pass the limit. -/
def takeFraction : List Char → Nat → Int → Nat × Int
  | [], value, exponent => (value, exponent)
  | c :: rest, value, exponent =>
    let next := value * 10 + digitValue c
    if next < Word.limit then takeFraction rest next (exponent - 1) else (value, exponent)

/-- The first number that a signed 32-bit integer does not hold. -/
def exponentLimit : Nat := 0x80000000

/-- The exponent's digits; none once they pass the range of a signed 32-bit integer, with the
digits then unread. -/
def takeExponent : List Char → Nat → Option Nat × List Char
  | [], value => (some value, [])
  | c :: rest, value =>
    if c.isDigit then
      let next := value * 10 + digitValue c
      if next < exponentLimit then takeExponent rest next else (none, rest)
    else (some value, c :: rest)

/-- `value · 10 ^ exponent`; none where it is too large. Powers below `10^-308` are divided out in
steps. -/
def scaleFloat : Nat → Float → Int → Option Float
  | 0, value, _ => some value
  | fuel + 1, value, exponent =>
    if exponent.natAbs ≤ 308 then
      let power := Float.ofScientific 1 false exponent.natAbs
      if 0 ≤ exponent then
        let product := value * power
        if product.isInf then none else some product
      else some (value / power)
    else if value == 0 then some value
    else if 0 ≤ exponent then none
    else scaleFloat fuel (value / Float.ofScientific 1 false 308) (exponent + 308)

def signed (negative : Bool) (value : Float) : Float :=
  if negative then -value else value

def finishFloat (negative : Bool) (value : Nat) (exponent : Int) (rest : List Char) :
    Except Fault (Number × List Char) :=
  match scaleFloat 8 value.toUInt64.toFloat exponent with
  | some x => .ok (.float (signed negative x), rest)
  | none => flawAt .numberOutOfRange rest

/-- From the letter of the exponent on. -/
def readExponent (negative : Bool) (value : Nat) (exponent : Int) (cs : List Char) :
    Except Fault (Number × List Char) :=
  let (down, digits) :=
    match cs with
    | '+' :: rest => (false, rest)
    | '-' :: rest => (true, rest)
    | rest => (false, rest)
  match digits with
  | [] => flawAt .endInValue []
  | d :: rest =>
    if !d.isDigit then .error (.placed (.flaw .invalidNumber) (byteCount (d :: rest) - 1))
    else match takeExponent digits 0 with
      | (some e, rest) =>
        finishFloat negative value (if down then exponent - e else exponent + e) rest
      | (none, rest) =>
        if value ≠ 0 ∧ !down then flawAt .numberOutOfRange rest
        else .ok (.float (signed negative 0), rest.dropWhile Char.isDigit)

/-- From behind the point on. -/
def readFraction (negative : Bool) (value : Nat) (exponent : Int) (cs : List Char) :
    Except Fault (Number × List Char) :=
  match spanDigits cs with
  | ([], []) => flawOn .endInValue []
  | ([], rest) => flawOn .invalidNumber rest
  | (digits, rest) =>
    let (value, exponent) := takeFraction digits value exponent
    match rest with
    | 'e' :: rest => readExponent negative value exponent rest
    | 'E' :: rest => readExponent negative value exponent rest
    | rest => finishFloat negative value exponent rest

/-- A whole number without fraction and exponent: an integer where it fits, and a negative zero is
a double. -/
def wholeNumber (negative : Bool) (value : Nat) : Number :=
  if !negative then .integer value
  else if value == 0 || Word.signedLimit < value then .float (-value.toUInt64.toFloat)
  else .integer (-value)

/-- A number behind its sign. -/
def readUnsigned (negative : Bool) (cs : List Char) : Except Fault (Number × List Char) :=
  match cs with
  | [] => flawAt .endInValue []
  | c :: rest =>
    if !c.isDigit then .error (.placed (.flaw .invalidNumber) (byteCount (c :: rest) - 1))
    else
      let (digits, rest) := spanDigits cs
      if c == '0' && 1 < digits.length then flawOn .invalidNumber (digits.drop 1 ++ rest)
      else
        let (value, dropped) := takeWhole digits 0 0
        match rest with
        | '.' :: rest => readFraction negative value dropped rest
        | 'e' :: rest => readExponent negative value dropped rest
        | 'E' :: rest => readExponent negative value dropped rest
        | rest =>
          if dropped == 0 then .ok (wholeNumber negative value, rest)
          else finishFloat negative value dropped rest

/-- A number whose first character, a digit or a minus sign, comes next. -/
def readNumber (cs : List Char) : Except Fault (Number × List Char) :=
  match cs with
  | '-' :: rest => readUnsigned true rest
  | rest => readUnsigned false rest

/-! ### Skipping a number

A number that nobody looks at is held to the grammar alone. -/

def skipExponent (cs : List Char) : Except Fault (List Char) :=
  let digits :=
    match cs with
    | '+' :: rest => rest
    | '-' :: rest => rest
    | rest => rest
  match digits with
  | [] => flawAt .invalidNumber []
  | d :: rest =>
    if d.isDigit then .ok (rest.dropWhile Char.isDigit)
    else .error (.placed (.flaw .invalidNumber) (byteCount (d :: rest) - 1))

def skipFraction (cs : List Char) : Except Fault (List Char) :=
  match spanDigits cs with
  | ([], rest) => flawOn .invalidNumber rest
  | (_, 'e' :: rest) => skipExponent rest
  | (_, 'E' :: rest) => skipExponent rest
  | (_, rest) => .ok rest

/-- Skips a number behind its sign. -/
def skipNumber (cs : List Char) : Except Fault (List Char) :=
  match cs with
  | [] => flawAt .invalidNumber []
  | c :: rest =>
    if !c.isDigit then .error (.placed (.flaw .invalidNumber) (byteCount (c :: rest) - 1))
    else
      let (digits, rest) := spanDigits cs
      if c == '0' && 1 < digits.length then flawOn .invalidNumber (digits.drop 1 ++ rest)
      else match rest with
        | '.' :: rest => skipFraction rest
        | 'e' :: rest => skipExponent rest
        | 'E' :: rest => skipExponent rest
        | rest => .ok rest

end CitedChat.Json
