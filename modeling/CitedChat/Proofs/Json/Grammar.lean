import CitedChat.Proofs.Json.Printing

/-!
The texts of the format as they are written, with their layout. What cannot be written cannot be
built: white space consists of white space (`Space`), a string of characters that stand for
themselves and of escapes that name one (`Glyph`), a number of digits in their places
(`Decimal`), and it is in range (`Written.number`). A written value has a text and denotes a tree,
in which objects keep their members as they are written.
-/

set_option autoImplicit false

namespace CitedChat.Json

/-! ### Layout and strings -/

/-- White space between the parts of a text. -/
structure Space where
  chars : List Char
  blank : ∀ c ∈ chars, isSpace c = true

/-- A hexadecimal digit and what it counts. -/
structure HexDigit where
  char : Char
  value : Nat
  reads : hexValue? char = some value

/-- Four hexadecimal digits. -/
structure CodeUnit where
  first : HexDigit
  second : HexDigit
  third : HexDigit
  fourth : HexDigit

namespace CodeUnit

def chars (u : CodeUnit) : List Char :=
  [u.first.char, u.second.char, u.third.char, u.fourth.char]

def value (u : CodeUnit) : Nat :=
  ((u.first.value * 16 + u.second.value) * 16 + u.third.value) * 16 + u.fourth.value

end CodeUnit

/-- What stands for one character of a string. -/
inductive Glyph where
  | plain (c : Char) (hquote : c ≠ '"') (hbackslash : c ≠ '\\') (hcontrol : 0x20 ≤ c.toNat)
  /-- A backslash and a letter or sign. -/
  | short (letter c : Char) (hletter : simpleEscape? letter = some c)
  /-- A backslash, the letter `u` and a code that is no surrogate. -/
  | code (unit : CodeUnit) (hscalar : unit.value < 0xd800 ∨ 0xdfff < unit.value)
  /-- Two codes that are a pair of surrogates. -/
  | pair (high low : CodeUnit) (hhigh : 0xd800 ≤ high.value ∧ high.value ≤ 0xdbff)
      (hlow : 0xdc00 ≤ low.value ∧ low.value ≤ 0xdfff)

namespace Glyph

def text : Glyph → List Char
  | .plain c _ _ _ => [c]
  | .short letter _ _ => ['\\', letter]
  | .code unit _ => '\\' :: 'u' :: unit.chars
  | .pair high low _ _ => '\\' :: 'u' :: (high.chars ++ '\\' :: 'u' :: low.chars)

def char : Glyph → Char
  | .plain c _ _ _ => c
  | .short _ c _ => c
  | .code unit _ => Char.ofNat unit.value
  | .pair high low _ _ =>
    Char.ofNat (0x10000 + (high.value - 0xd800) * 0x400 + (low.value - 0xdc00))

/-- A string between its quotes. -/
def quoted (glyphs : List Glyph) : List Char :=
  '"' :: (glyphs.flatMap text ++ ['"'])

/-- The string that is written. -/
def string (glyphs : List Glyph) : String :=
  String.ofList (glyphs.map char)

end Glyph

/-! ### Numbers -/

structure Digits where
  chars : List Char
  nonempty : chars ≠ []
  digits : ∀ c ∈ chars, c.isDigit = true

structure Exponent where
  upper : Bool
  /-- A minus sign, a plus sign, or none. -/
  sign : Option Bool
  digits : Digits

namespace Exponent

def text (e : Exponent) : List Char :=
  (if e.upper then 'E' else 'e') ::
    (e.sign.elim [] (fun down ↦ [if down then '-' else '+']) ++ e.digits.chars)

def down (e : Exponent) : Bool :=
  e.sign == some true

end Exponent

/-- A number as it is written; only the number zero begins with the digit zero. -/
structure Decimal where
  negative : Bool
  whole : Digits
  fraction : Option Digits
  exponent : Option Exponent
  leading : whole.chars.head? = some '0' → whole.chars.length = 1

/-- A double, unless it is too large. -/
def float? (negative : Bool) (value : Nat) (exponent : Int) : Option Number :=
  (scaleFloat 8 value.toUInt64.toFloat exponent).map fun x ↦ .float (signed negative x)

/-- A number with its exponent. An exponent that passes its range makes the number zero or too
large. -/
def Exponent.scale? (e : Exponent) (negative : Bool) (value : Nat) (exponent : Int) :
    Option Number :=
  match (takeExponent e.digits.chars 0).1 with
  | some n => float? negative value (if e.down then exponent - n else exponent + n)
  | none => if value ≠ 0 ∧ !e.down then none else some (.float (signed negative 0))

/-- The same where there may be no exponent. -/
def scale? (e : Option Exponent) (negative : Bool) (value : Nat) (exponent : Int) :
    Option Number :=
  e.elim (float? negative value exponent) (·.scale? negative value exponent)

namespace Decimal

def text (d : Decimal) : List Char :=
  (if d.negative then ['-'] else []) ++ (d.whole.chars ++
    (d.fraction.elim [] (fun f ↦ '.' :: f.chars) ++ d.exponent.elim [] Exponent.text))

/-- The number that is written, unless it is out of range. -/
def number? (d : Decimal) : Option Number :=
  let whole := takeWhole d.whole.chars 0 0
  match d.fraction with
  | some f =>
    let fraction := takeFraction f.chars whole.1 whole.2
    scale? d.exponent d.negative fraction.1 fraction.2
  | none =>
    if d.exponent.isNone && whole.2 == 0 then some (wholeNumber d.negative whole.1)
    else scale? d.exponent d.negative whole.1 whole.2

end Decimal

/-! ### Values -/

/-- A value with the white space around it. -/
structure Spaced (α : Type) where
  before : Space
  value : α
  after : Space

/-- A key with the white space around it, up to the colon. -/
structure Label where
  before : Space
  glyphs : List Glyph
  after : Space

namespace Label

def text (l : Label) : List Char :=
  l.before.chars ++ Glyph.quoted l.glyphs ++ l.after.chars

def key (l : Label) : String :=
  Glyph.string l.glyphs

end Label

/-- A value as it is written; behind an opening bracket there may be white space. -/
inductive Written where
  | null
  | bool (value : Bool)
  | number (decimal : Decimal) (value : Number) (hvalue : decimal.number? = some value)
  | string (glyphs : List Glyph)
  | array (space : Space) (items : List (Spaced Written))
  | object (space : Space) (members : List (Label × Spaced Written))

namespace Written

mutual

def text : Written → List Char
  | .null => ['n', 'u', 'l', 'l']
  | .bool value => if value then ['t', 'r', 'u', 'e'] else ['f', 'a', 'l', 's', 'e']
  | .number decimal _ _ => decimal.text
  | .string glyphs => Glyph.quoted glyphs
  | .array space items => '[' :: (space.chars ++ (joined true (itemTexts items) ++ [']']))
  | .object space members =>
    '\x7b' :: (space.chars ++ (joined true (memberTexts members) ++ ['\x7d']))

def itemTexts : List (Spaced Written) → List (List Char)
  | [] => []
  | ⟨before, value, after⟩ :: rest =>
    (before.chars ++ (value.text ++ after.chars)) :: itemTexts rest

def memberTexts : List (Label × Spaced Written) → List (List Char)
  | [] => []
  | (label, ⟨before, value, after⟩) :: rest =>
    (label.text ++ ':' :: (before.chars ++ (value.text ++ after.chars))) :: memberTexts rest

end

mutual

/-- The value that is written. -/
def tree : Written → Tree
  | .null => .null
  | .bool value => .bool value
  | .number _ value _ => .number value
  | .string glyphs => .string (Glyph.string glyphs)
  | .array _ items => .array (itemTrees items)
  | .object _ members => .object (memberTrees members)

def itemTrees : List (Spaced Written) → List Tree
  | [] => []
  | ⟨_, value, _⟩ :: rest => value.tree :: itemTrees rest

def memberTrees : List (Label × Spaced Written) → List (String × Tree)
  | [] => []
  | (label, ⟨_, value, _⟩) :: rest => (label.key, value.tree) :: memberTrees rest

end

mutual

/-- How many brackets stand around one another. -/
def nesting : Written → Nat
  | .array _ items => nestingItems items + 1
  | .object _ members => nestingMembers members + 1
  | _ => 0

def nestingItems : List (Spaced Written) → Nat
  | [] => 0
  | ⟨_, value, _⟩ :: rest => max value.nesting (nestingItems rest)

def nestingMembers : List (Label × Spaced Written) → Nat
  | [] => 0
  | (_, ⟨_, value, _⟩) :: rest => max value.nesting (nestingMembers rest)

end

end Written

end CitedChat.Json
