import CitedChat.Markdown.EntityTable
import CitedChat.Text.Punctuation

/-!
Character references, such as `&amp;`, `&#38;` and `&#x26;`, and backslash escapes.
-/

set_option autoImplicit false

namespace CitedChat.Markdown

def isHexDigit (c : Char) : Bool :=
  c.isDigit || ('a' ≤ c && c ≤ 'f') || ('A' ≤ c && c ≤ 'F')

def digitValue (c : Char) : Nat :=
  if c.isDigit then c.toNat - '0'.toNat
  else if 'a' ≤ c then c.toNat - 'a'.toNat + 10
  else c.toNat - 'A'.toNat + 10

def numberOf (base : Nat) (digits : List Char) : Nat :=
  digits.foldl (fun n c => n * base + digitValue c) 0

/-- The character with the number; one that does not exist, and NUL, is replaced. -/
def charOfPoint (n : Nat) : Char :=
  if n == 0 then '\ufffd' else if n.isValidChar then Char.ofNat n else '\ufffd'

def entityOfEntry (entry : String) : Option (String × List Char) :=
  match entry.splitOn ":" with
  | [name, points] =>
    some (name, (points.splitOn "+").map fun point => charOfPoint (numberOf 16 point.toList))
  | _ => none

def entities : List (String × List Char) :=
  entityRows.flatMap fun row => (row.splitOn " ").filterMap entityOfEntry

def entity? (name : String) : Option (List Char) :=
  entities.lookup name

/-- A number of at most `limit` digits and the semicolon after it; with the count of characters. -/
def numericReference? (base limit : Nat) (isDigit : Char → Bool) (cs : List Char) :
    Option (Char × Nat) :=
  let digits := (cs.take limit).takeWhile isDigit
  if !digits.isEmpty && (cs.drop digits.length).head? == some ';' then
    some (charOfPoint (numberOf base digits), digits.length + 1)
  else none

/-- The value of a reference whose ampersand has been read, and the number of characters it goes
on for. -/
def reference? (cs : List Char) : Option (List Char × Nat) :=
  match cs with
  | '#' :: x :: rest =>
    if x == 'x' || x == 'X' then
      (numericReference? 16 6 isHexDigit rest).map fun (c, n) => ([c], n + 2)
    else
      (numericReference? 10 7 Char.isDigit (x :: rest)).map fun (c, n) => ([c], n + 1)
  | _ =>
    let name := cs.takeWhile Char.isAlphanum
    if (cs.drop name.length).head? == some ';' then
      (entity? (String.ofList name)).map fun value => (value, name.length + 1)
    else none

/-- A text with its escapes and references replaced; carriage returns are dropped. The number
counts the characters that are already accounted for. -/
def unescapeFrom : Nat → List Char → List Char
  | _, [] => []
  | skip + 1, _ :: rest => unescapeFrom skip rest
  | 0, '\\' :: rest =>
    match rest.head? with
    | some c => if Text.isAsciiPunctuation c then c :: unescapeFrom 1 rest
      else '\\' :: unescapeFrom 0 rest
    | none => ['\\']
  | 0, '&' :: rest =>
    match reference? rest with
    | some (value, count) => value ++ unescapeFrom count rest
    | none => '&' :: unescapeFrom 0 rest
  | 0, c :: rest => if c == '\r' then unescapeFrom 0 rest else c :: unescapeFrom 0 rest

def unescape (cs : List Char) : String :=
  String.ofList (unescapeFrom 0 cs)

end CitedChat.Markdown
