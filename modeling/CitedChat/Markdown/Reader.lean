import CitedChat.Markdown.TableReader
import CitedChat.Markdown.Target

/-!
Reading the blocks of a text. The reader keeps the containers that are open and goes from block to
block. A line first gives the marks of the open containers, as far as it has them; the others end.
Then it may open new ones, and what is left begins a block.
-/

set_option autoImplicit false

namespace CitedChat.Markdown

/-- A container that is open, with its blocks in reverse. -/
inductive OpenKind where
  | quote
  | list (tight : Bool) (char : Char) (number : Nat)
  | item (indent : Nat)

structure OpenContainer where
  kind : OpenKind
  children : List Block := []

def OpenContainer.container (c : OpenContainer) : Container :=
  match c.kind with
  | .quote => .quote
  | .list _ _ _ => .list
  | .item indent => .item indent

def OpenContainer.block (c : OpenContainer) : Block :=
  let children := c.children.reverse
  match c.kind with
  | .quote => .quote children
  | .list tight char number =>
    .list tight (if char == '.' || char == ')' then some number else none) children
  | .item _ => .item children

structure Reader where
  /-- The open containers, innermost first. -/
  open_ : List OpenContainer := []
  /-- The blocks outside of them, in reverse. -/
  blocks : List Block := []
  /-- An item has begun with a blank line. -/
  inEmptyItem : Bool := false
  afterBlank : Bool := false
  /-- The box of a task that waits for its paragraph. -/
  task : Option Bool := none
  definitions : Definitions := []

namespace Reader

/-- The open containers from the outermost on. -/
def containers (r : Reader) : List Container :=
  r.open_.reverse.map OpenContainer.container

def append (r : Reader) (block : Block) : Reader :=
  match r.open_ with
  | [] => { r with blocks := block :: r.blocks }
  | c :: outer => { r with open_ := { c with children := block :: c.children } :: outer }

def push (r : Reader) (kind : OpenKind) : Reader :=
  { r with open_ := { kind } :: r.open_ }

/-- Closes the innermost container. -/
def pop (r : Reader) : Reader :=
  match r.open_ with
  | [] => r
  | c :: outer =>
    let r := { r with open_ := outer }.append c.block
    match c.kind with
    | .list true _ _ => { r with inEmptyItem := false }
    | _ => r

def popMany : Nat → Reader → Reader
  | 0, r => r
  | n + 1, r => popMany n r.pop

/-! ### Lists -/

/-- An item that begins with a blank line ends at the next one. -/
def finishEmptyItem (r : Reader) : Reader :=
  let r :=
    match r.open_ with
    | { kind := .item _, .. } :: _ => if r.inEmptyItem && r.afterBlank then r.pop else r
    | _ => r
  { r with inEmptyItem := false }

def loosen (c : OpenContainer) : OpenContainer :=
  match c.kind with
  | .list _ char number => { c with kind := .list false char number }
  | _ => c

/-- Something other than an item follows: an open list ends, and if a blank line came before, the
list around it is not tight. -/
def finishList (r : Reader) : Reader :=
  let r := r.finishEmptyItem
  let r :=
    match r.open_ with
    | { kind := .list _ _ _, .. } :: _ => r.pop
    | _ => r
  match r.afterBlank, r.open_ with
  | true, c :: outer :: rest =>
    { r with open_ := c :: loosen outer :: rest, afterBlank := false }
  | _, _ => { r with afterBlank := false }

def startList (r : Reader) (char : Char) (number : Nat) : Reader :=
  { r.push (.list true char number) with afterBlank := false }

/-- An item follows: it goes on with the open list if that has the same mark, and else begins
another one. -/
def continueList (r : Reader) (char : Char) (number : Nat) : Reader :=
  let r := r.finishEmptyItem
  match r.open_ with
  | [] => r.startList char number
  | c :: outer =>
    match c.kind with
    | .list _ existing _ =>
      if existing == char then
        if r.afterBlank then { r with open_ := loosen c :: outer, afterBlank := false } else r
      else r.finishList.startList char number
    | _ => r.finishList.startList char number

/-- A blank line. In an item that has begun with one, nothing can follow any more. -/
def blankLine (r : Reader) : Reader :=
  match r.open_ with
  | { kind := .quote, .. } :: _ => r
  | { kind := .item _, children } :: outer =>
    let r := { r with afterBlank := true }
    if r.inEmptyItem then { r with open_ := ⟨.item 0, children⟩ :: outer } else r
  | _ => { r with afterBlank := true }

/-! ### Literal blocks -/

def spaces (count : Nat) : List Char :=
  List.replicate count ' '

/-- A literal line without the carriage return before its end. -/
def literalLine (line : List Char) : List Char :=
  match line.reverse with
  | c :: '\r' :: before => if c.toNat < 0x80 then before.reverse ++ [c] else line
  | _ => line

/-- The lines of indented code, each with whether it is blank, and the text after them. The number
bounds how many there are. -/
def indentedCode (containers : List Container) : Nat → Margin → List (List Char × Bool) × List Char
  | 0, m => ([], m.rest)
  | bound + 1, m =>
    let (line, rest) := splitFeed m.rest
    let line := (spaces m.pending ++ literalLine line, isBlankLine m.rest)
    match Margin.enter containers { rest } with
    | (next, []) =>
      let (next, missing) := next.takeSpaces 4
      if (missing == 0 || next.atEnd) && !next.rest.isEmpty then
        let (lines, rest) := indentedCode containers bound next
        (line :: lines, rest)
      else ([line], rest)
    | _ => ([line], rest)

/-- Blank lines after the code do not belong to it, but are noted. -/
def appendIndentedCode (r : Reader) (m : Margin) : Reader × List Char :=
  let (lines, rest) := indentedCode r.containers (m.rest.length + 1) m
  let code := (dropEndWhile (·.2) lines).flatMap (·.1)
  ({ r.append (.code none (String.ofList code)) with
      afterBlank := lines.getLast?.any (·.2) }, rest)

/-- The text of a fenced block, and the text after its end. -/
def fencedCode (containers : List Container) (fence : Mark.Fence) (indent : Nat) :
    Nat → List Char → List Char × List Char
  | 0, cs => ([], cs)
  | bound + 1, cs =>
    match Margin.enter containers { rest := cs } with
    | (m, []) =>
      let m := (m.takeSpaces indent).1
      let (close, missing) := m.takeSpaces (4 - indent)
      match if missing == 0 then none else Mark.fenceEnd? fence close.rest with
      | some rest => ([], rest)
      | none =>
        let (line, rest) := splitFeed m.rest
        let (code, rest) := fencedCode containers fence indent bound rest
        (spaces m.pending ++ literalLine line ++ code, rest)
    | _ => ([], cs)

def appendFencedCode (r : Reader) (fence : Mark.Fence) (indent : Nat) (cs : List Char) :
    Reader × List Char :=
  let (info, rest) := splitFeed (skipSpacing (cs.drop fence.count))
  let (code, rest) := fencedCode r.containers fence indent (rest.length + 1) rest
  (r.append (.code (some (unescape (dropEndWhile isWhite info))) (String.ofList code)), rest)

/-- The text of an HTML block, and the text after it. The block ends with the line that holds
`word`, or without a word before a blank line. -/
def htmlLines (containers : List Container) (word : Option String) :
    Nat → Nat → List Char → List Char × List Char
  | 0, _, cs => ([], cs)
  | bound + 1, lead, cs =>
    let (line, rest) := splitFeed cs
    let text := spaces lead ++ literalLine line
    match Margin.enter containers { rest } with
    | (m, []) =>
      let ends :=
        match word with
        | some word => (splitAfter word.toList line).isSome || m.rest.isEmpty
        | none => isBlankLine m.rest
      if ends then (text, rest)
      else
        let (more, rest) := htmlLines containers word bound m.pending m.rest
        (text ++ more, rest)
    | _ => (text, rest)

def appendHtml (r : Reader) (word : Option String) (lead : Nat) (cs : List Char) :
    Reader × List Char :=
  let (text, rest) := htmlLines r.containers word (cs.length + 1) lead cs
  (r.append (.html (String.ofList text)), rest)

/-! ### Paragraphs -/

/-- Whether a table begins here that ends the paragraph before it. Its first line must begin with a
bar. -/
def tableInterrupts (containers : List Container) (cs : List Char) : Bool :=
  cs.head? == some '|' && (TableReader.begins? containers cs).isSome

/-- A line of a paragraph: the marks of its containers, its indentation, and the text from there on,
divided into the rest of the line, its end, and what follows. -/
structure Line where
  marks : List Char := []
  indentation : List Char := []
  start : List Char
  body : List Char
  lineEnd : List Char
  rest : List Char

def Line.ofStart (marks indentation start : List Char) : Line :=
  let body := start.takeWhile (!isNewline ·)
  let (lineEnd, rest) := splitLineEnd (start.drop body.length)
  { marks, indentation, start, body, lineEnd, rest }

/-- How a paragraph goes on. -/
inductive Continuation where
  | ends
  /-- A line under the paragraph makes a heading of it. -/
  | underline (level : Nat) (rest : List Char)
  | line (line : Line)

/-- The next line of a paragraph; it need not have the marks of all its containers. `underlined`
says whether it can be made a heading. -/
def continuation (containers : List Container) (underlined : Bool) (cs : List Char) :
    Continuation :=
  let (m, lacking) := Margin.enter containers { rest := cs }
  let inside := lacking.isEmpty
  let (next, missing) := m.takeSpaces 4
  let interrupted :=
    missing != 0 && (Mark.interrupts inside next.rest || tableInterrupts containers next.rest)
  let underline :=
    if missing != 0 && inside && underlined then Mark.underline? next.rest else none
  match underline with
  | some (level, rest) => .underline level rest
  | none =>
    let blanks := next.rest.takeWhile fun c => c == ' ' || c == '\t'
    let start := next.rest.drop blanks.length
    if interrupted || (lineEnd? start).isSome then .ends
    else
      let indentation := next.taken - m.taken + blanks.length
      .line (.ofStart (cs.take m.taken) (m.rest.take indentation) start)

/-- The lines of a paragraph after its first line, the level if it is a heading, and the text after
it. The number bounds how many lines there are. -/
def moreLines (containers : List Container) : Nat → List Char →
    List Line × Option Nat × List Char
  | 0, cs => ([], none, cs)
  | bound + 1, cs =>
    match continuation containers true cs with
    | .ends => ([], none, cs)
    | .underline level rest => ([], some level, rest)
    | .line line =>
      let (lines, level, rest) := moreLines containers bound line.rest
      (line :: lines, level, rest)

def linesText (lines : List Line) : List Char :=
  lines.flatMap fun line => line.body ++ line.lineEnd

/-- The content of lines; the end of the last one does not count. -/
def linesContent : List Line → List (Layer × Char)
  | [] => []
  | line :: rest =>
    line.marks.map (.marker, ·) ++ line.indentation.map (.indent, ·) ++
      (if rest.isEmpty then line.body else line.body ++ line.lineEnd).map (.text, ·) ++
      linesContent rest

/-- The last lines of the given total length. -/
def lastLines (length : Nat) : List Line → List Line
  | [] => []
  | line :: rest =>
    if (linesText (line :: rest)).length ≤ length then line :: rest else lastLines length rest

def appendParagraph (r : Reader) (start : List Char) : Reader × List Char :=
  match TableReader.read? r.containers start with
  | some (table, rest) => ({ r with task := none }.append (.table table), rest)
  | none =>
    let first := Line.ofStart [] [] start
    let (lines, level, rest) := moreLines r.containers (first.rest.length + 1) first.rest
    let content := Content.ofLayers (linesContent (first :: lines))
    let block :=
      match level with
      | some level => .heading level r.task content
      | none => .paragraph r.task content
    ({ r with task := none }.append block, rest)

/-- A paragraph without the definitions at its beginning. The number bounds how many of them there
are. -/
def appendDefinitions : Nat → Reader → List Char → Reader × List Char
  | 0, r, start => r.appendParagraph start
  | bound + 1, r, start =>
    let first := Line.ofStart [] [] start
    let lines :=
      if start.head? == some '[' then
        first :: (moreLines r.containers (first.rest.length + 1) first.rest).1
      else []
    match definition? (linesText lines) with
    | none => r.appendParagraph start
    | some (label, target, left) =>
      let r := { r with definitions := r.definitions.insert label target }
      let consumed := lines.take (lines.length - (lastLines left.length lines).length)
      let rest := (consumed.getLast?.getD first).rest
      match continuation r.containers false rest with
      | .line line => appendDefinitions bound r line.start
      | _ => (r, rest)

/-! ### Blocks -/

/-- The block at the beginning of a line that is not blank. -/
def appendBlock (r : Reader) (m : Margin) : Reader × List Char :=
  let (next, missing) := m.takeSpaces 4
  let indent := 4 - missing
  let cs := next.rest
  if missing == 0 then r.appendIndentedCode next
  else if let some word := RawHtml.literalBlockEnd? cs then
    r.appendHtml (some word) (max m.pending indent) cs
  else if RawHtml.beginsElementBlock cs || RawHtml.beginsTagBlock cs then
    r.appendHtml none (max m.pending indent) cs
  else if let some rest := Mark.rule? cs then (r.append .rule, rest)
  else if let some level := Mark.headingLevel? cs then
    let (line, rest) := splitLine (cs.drop level)
    (r.append (.heading level none (.ofChars (Mark.headingText line))), rest)
  else if let some fence := Mark.fence? cs then r.appendFencedCode fence indent cs
  else appendDefinitions (cs.length + 1) r cs

/-- Opens the containers whose marks a line has, and reads the block after them. The number bounds
how many there are. -/
def openContainers : Nat → Reader → Margin → Reader × List Char
  | 0, r, m => (r, m.rest)
  | bound + 1, r, m =>
    let (next, missing) := m.takeSpaces 4
    let item := if missing == 0 then none else Mark.item? (4 - missing) next
    let quote := if missing == 0 then none else next.quoteMark?
    match item, quote with
    | some (item, next), _ =>
      let r := (r.continueList item.char item.number).push (.item item.indent)
      match blankLine? next.rest, Mark.task? next with
      | some rest, _ => ({ r with inEmptyItem := true }, rest)
      | none, none => openContainers bound r next
      | none, some (checked, next) =>
        match blankLine? next.rest with
        | some rest => ({ r.append (.task checked) with inEmptyItem := true }, rest)
        | none => openContainers bound { r with task := some checked } next
    | none, some next => openContainers bound (r.finishList.push .quote) next
    | none, none =>
      match blankLine? m.rest with
      | some rest => (r.blankLine, rest)
      | none => r.finishList.appendBlock m

/-- Reads the block at the beginning of a text. -/
def step (r : Reader) (cs : List Char) : Reader × List Char :=
  let (m, missing) := Margin.enter r.containers { rest := cs }
  openContainers (cs.length + 1) (popMany missing.length r) m

/-- Reads all blocks; the number bounds how many there are. -/
def read : Nat → Reader → List Char → Reader
  | 0, r, _ => popMany r.open_.length r
  | _, r, [] => popMany r.open_.length r
  | bound + 1, r, cs =>
    let (r, rest) := r.step cs
    read bound r rest

end Reader

/-- The blocks of a text, and the labels that it defines. -/
def blocks (cs : List Char) : List Block × Definitions :=
  let r := Reader.read (cs.length + 1) {} cs
  (r.blocks.reverse, r.definitions)

end CitedChat.Markdown
