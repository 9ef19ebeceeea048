import CitedChat.Markdown.Scan

/-!
The beginning of a line, where containers leave their marks. Indentation is counted in columns; a
tab reaches to the next multiple of four and may be used up in part.
-/

set_option autoImplicit false

namespace CitedChat.Markdown

/-- How far a line has been read. -/
structure Margin where
  rest : List Char
  /-- The number of characters before `rest`. -/
  taken : Nat := 0
  column : Nat := 0
  /-- The columns that are left of a tab. -/
  pending : Nat := 0

/-- The containers that a line can belong to, with the indentation of an item's content. A list has
no mark of its own. -/
inductive Container where
  | quote
  | list
  | item (indent : Nat)

namespace Margin

def step (m : Margin) (width : Nat) : Margin :=
  { m with rest := m.rest.tail, taken := m.taken + 1, column := m.column + width }

/-- Goes over at most `count` columns of spaces and tabs in the given text; gives the number that
is missing. -/
def spacesIn : List Char → Nat → Margin → Margin × Nat
  | _, 0, m => (m, 0)
  | ' ' :: rest, count + 1, m => spacesIn rest count (m.step 1)
  | '\t' :: rest, count + 1, m =>
    let width := 4 - m.column % 4
    let used := min width (count + 1)
    spacesIn rest (count + 1 - used) { m.step width with pending := width - used }
  | _, count, m => (m, count)

def takeSpaces (m : Margin) (count : Nat) : Margin × Nat :=
  let used := min m.pending count
  spacesIn m.rest (count - used) { m with pending := m.pending - used }

/-- Whether the line ends here. -/
def atEnd (m : Margin) : Bool :=
  (lineEnd? m.rest).isSome

/-- The mark of a block quote, with a space after it. -/
def quoteMark? (m : Margin) : Option Margin :=
  match m.rest with
  | '>' :: _ => some ((m.step 1).takeSpaces 1).1
  | _ => none

/-- Finds the marks of the containers around a line; gives those whose marks are missing. A blank
line needs no indentation to belong to an item. -/
def enter : List Container → Margin → Margin × List Container
  | [], m => (m, [])
  | .list :: inner, m => enter inner m
  | .quote :: inner, m =>
    match (m.takeSpaces 3).1.quoteMark? with
    | some m => enter inner m
    | none => (m, .quote :: inner)
  | .item indent :: inner, m =>
    let (next, missing) := m.takeSpaces indent
    if missing == 0 || next.atEnd then enter inner next else (m, .item indent :: inner)

end Margin

end CitedChat.Markdown
