import CitedChat.Markdown.Margin
import CitedChat.Markdown.Entity
import CitedChat.Markdown.RawHtml

/-!
The marks at the beginning of blocks, and which of them end a paragraph.
-/

set_option autoImplicit false

namespace CitedChat.Markdown.Mark

/-- What follows a line of at least three equal marks with blanks between them. -/
def rule? (cs : List Char) : Option (List Char) :=
  match cs with
  | [] => none
  | c :: _ =>
    if c == '*' || c == '-' || c == '_' then
      let line := cs.takeWhile (!isNewline ·)
      if line.all (fun x => x == c || x == ' ' || x == '\t') && line.count c ≥ 3 then
        some (splitLine cs).2
      else none
    else none

/-- The level of a heading. -/
def headingLevel? (cs : List Char) : Option Nat :=
  let level := runLength '#' cs
  if 1 ≤ level && level ≤ 6 && ((cs.drop level).head?.all isWhite) then some level else none

/-- The text of a heading: blanks around it and marks at its end are left out, but marks that a
text precedes without a blank belong to it. -/
def headingText (cs : List Char) : List Char :=
  let text := dropEndWhile isSpacing (skipSpacing cs)
  let body := dropEndWhile (· == '#') text
  if body.isEmpty then []
  else if body.getLast? == some ' ' then dropEndWhile (· == ' ') body
  else text

/-- The level of the heading that a line under a paragraph makes of it, and what follows. -/
def underline? (cs : List Char) : Option (Nat × List Char) :=
  match cs with
  | '=' :: _ => (blankLine? (cs.dropWhile (· == '='))).map (1, ·)
  | '-' :: _ => (blankLine? (cs.dropWhile (· == '-'))).map (2, ·)
  | _ => none

structure Fence where
  char : Char
  count : Nat

/-- Three or more backticks or tildes; no backtick may follow on a line of backticks. -/
def fence? (cs : List Char) : Option Fence :=
  match cs with
  | [] => none
  | c :: _ =>
    let count := runLength c cs
    if count < 3 then none
    else if c == '~' then some ⟨c, count⟩
    else if c == '`' && !((splitFeed (cs.drop count)).1.contains '`') then some ⟨c, count⟩
    else none

/-- What follows the closing fence. The end of the text closes, too. -/
def fenceEnd? (fence : Fence) (cs : List Char) : Option (List Char) :=
  if cs.isEmpty then some []
  else
    let count := runLength fence.char cs
    if count < fence.count then none
    else lineEnd? ((cs.drop count).dropWhile (· == ' '))

/-! ### Lists -/

/-- The mark of a list item: its character, its number, and the indentation of its content. -/
structure Item where
  char : Char
  number : Nat
  indent : Nat

/-- The end of a mark that takes up `indent` columns with the space after it: up to three more
spaces belong to it. -/
def finishItem (char : Char) (number indent : Nat) (m : Margin) : Item × Margin :=
  if isBlankLine m.rest then (⟨char, number, indent⟩, m)
  else
    let (next, missing) := m.takeSpaces 4
    if missing == 0 then (⟨char, number, indent⟩, m)
    else (⟨char, number, indent + (4 - missing)⟩, next)

def stepOver : Nat → Margin → Margin
  | 0, m => m
  | n + 1, m => stepOver n (m.step 1)

/-- A mark of the given length, which a space or the end of the line has to follow. -/
def item (char : Char) (number length indent : Nat) (m : Margin) : Option (Item × Margin) :=
  let m := stepOver length m
  let (next, missing) := m.takeSpaces 1
  if missing == 0 || m.atEnd then some (finishItem char number (indent + length + 1) next)
  else none

/-- The mark of an item behind an indentation. Numbers have at most nine digits. -/
def item? (indent : Nat) (m : Margin) : Option (Item × Margin) :=
  match m.rest with
  | [] => none
  | c :: _ =>
    if c == '-' || c == '+' || c == '*' then
      if (rule? m.rest).isSome then none else item c 0 1 indent m
    else
      let digits := m.rest.takeWhile Char.isDigit
      if digits.isEmpty || 9 < digits.length then none
      else
        match m.rest.drop digits.length with
        | d :: _ =>
          if d == '.' || d == ')' then
            item d (numberOf 10 digits) (digits.length + 1) indent m
          else none
        | [] => none

/-- The box of a task and a space after it. -/
def task? (m : Margin) : Option (Bool × Margin) :=
  let m := (m.takeSpaces 3).1
  match m.rest with
  | '[' :: c :: ']' :: d :: _ =>
    if isSpacing d then
      if isSpacing c then some (false, stepOver 3 m)
      else if c == 'x' || c == 'X' then some (true, stepOver 3 m)
      else none
    else none
  | _ => none

/-- Whether an item begins here that can end a paragraph. Inside the containers of the paragraph it
must have content and, if it is numbered, the number one. -/
def itemInterrupts (inside : Bool) (cs : List Char) : Bool :=
  match item? 0 { rest := cs } with
  | none => false
  | some (item, m) =>
    !inside ||
      ((item.char == '-' || item.char == '+' || item.char == '*' || item.number == 1) &&
        !isBlankLine m.rest)

/-- Whether a line ends the paragraph before it, tables aside. `inside` says that it has the marks
of all the containers of the paragraph. -/
def interrupts (inside : Bool) (cs : List Char) : Bool :=
  (lineEnd? cs).isSome || (rule? cs).isSome || (headingLevel? cs).isSome || (fence? cs).isSome ||
    cs.head? == some '>' || itemInterrupts inside cs ||
    (RawHtml.literalBlockEnd? cs).isSome || RawHtml.beginsElementBlock cs

end CitedChat.Markdown.Mark
