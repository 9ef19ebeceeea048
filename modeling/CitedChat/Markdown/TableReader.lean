import CitedChat.Markdown.Block
import CitedChat.Markdown.Mark

/-!
Reading tables. A table is a line of cells, a line that gives each column its alignment, and
further lines of cells; bars separate the cells.
-/

set_option autoImplicit false

namespace CitedChat.Markdown.TableReader

/-! ### The line of alignments -/

/-- The column that is being read. -/
structure Column where
  alignment : Alignment := .none
  /-- Nothing but blanks so far. -/
  isEmpty : Bool := true
  hasHyphen : Bool := false

def Column.colon (column : Column) : Column :=
  { column with
    isEmpty := false
    alignment :=
      match column.isEmpty, column.alignment with
      | true, .none => .left
      | false, .left => .center
      | false, .none => .right
      | _, alignment => alignment }

/-- The alignments of the columns of a line from the current one on. Each column before a bar needs
a hyphen. -/
def columns? (column : Column) : List Char → Option (List Alignment)
  | [] => some (if column.isEmpty then [] else [column.alignment])
  | c :: rest =>
    if c == ' ' then columns? column rest
    else if c == ':' then columns? column.colon rest
    else if c == '-' then columns? { column with isEmpty := false, hasHyphen := true } rest
    else if c == '|' && column.hasHyphen then (columns? {} rest).map (column.alignment :: ·)
    else none

/-- The alignments that a line gives, and what follows it. -/
def delimiters? (m : Margin) : Option (List Alignment × List Char) :=
  let (m, missing) := m.takeSpaces 4
  if missing == 0 || m.rest.isEmpty then none
  else
    let (line, rest) := splitLine m.rest
    if line.contains '|' && line.contains '-' then
      (columns? {} (if line.head? == some '|' then line.tail else line)).map (·, rest)
    else none

/-! ### Lines of cells -/

/-- The number of bars that no backslash escapes, and whether only blanks follow the last one. -/
def bars (escaped : Bool) (count : Nat) (blank : Bool) : List Char → Nat × Bool
  | [] => (count, blank)
  | c :: rest =>
    if c == '|' && !escaped then bars false (count + 1) true rest
    else bars (c == '\\' && !escaped) count (blank && isSpacing c) rest

/-- The number of cells in a line with bars; bars at its ends only enclose. -/
def cellCount (line : List Char) : Nat :=
  let (count, blank) := bars false 0 true line
  count - (if (skipSpacing line).head? == some '|' then 1 else 0) + (if blank then 0 else 1)

/-- An odd number of backslashes at the end of a line. -/
def endsEscaping (line : List Char) : Bool :=
  (line.reverse.takeWhile (· == '\\')).length % 2 == 1

/-- The characters of a cell. A backslash before a bar only escapes it. -/
def cellLayers : List Char → List (Layer × Char)
  | [] => []
  | c :: rest =>
    (if c == '\\' && rest.head? == some '|' then .barEscape else .text, c) :: cellLayers rest

def cell (cs : List Char) : Content :=
  .ofLayers (cellLayers (skipSpacing cs))

/-- Divides a line at the bars without a backslash before them. `done` holds, in reverse, the
characters since the last one. -/
def splitBars (done : List Char) : List Char → List (List Char)
  | [] => [done.reverse]
  | c :: rest =>
    if c == '|' && done.head? != some '\\' then done.reverse :: splitBars [] rest
    else splitBars (c :: done) rest

/-- The cells of a line. A bar before the first one and blanks after the last bar are no cells. -/
def cells (line : List Char) : List Content :=
  let line := if line.head? == some '|' then line.tail else line
  let parts := splitBars [] line
  let parts := if parts.getLast?.any (·.all isSpacing) then parts.dropLast else parts
  parts.map cell

/-- A row has as many cells as the table has columns. -/
def fit (count : Nat) (cells : List Content) : List Content :=
  (cells ++ List.replicate (count - cells.length) []).take count

/-- A line of cells over a line of alignments: the alignments, and what follows the two. -/
def begins? (containers : List Container) (cs : List Char) : Option (List Alignment × List Char) :=
  let (line, rest) := splitLine cs
  if rest.isEmpty || (bars false 0 true line).1 == 0 || endsEscaping line then none
  else
    match Margin.enter containers { rest } with
    | (m, []) =>
      (delimiters? m).filter fun (alignments, _) => alignments.length == cellCount line
    | _ => none

/-- The rows that follow, and the text after them. The number bounds how many there are. -/
def rows (containers : List Container) (count : Nat) : Nat → List Char →
    List (List Content) × List Char
  | 0, cs => ([], cs)
  | bound + 1, cs =>
    match Margin.enter containers { rest := cs } with
    | (m, []) =>
      let start := m.rest.dropWhile fun c => c == ' ' || c == '\t'
      if Mark.interrupts false start then ([], cs)
      else
        let (line, rest) := splitLine start
        match cells line with
        | [] => ([], cs)
        | cells =>
          let (more, rest) := rows containers count bound rest
          (fit count cells :: more, rest)
    | _ => ([], cs)

/-- The table at the beginning of a text, and the text after it. -/
def read? (containers : List Container) (cs : List Char) : Option (Table × List Char) :=
  (begins? containers cs).map fun (alignments, rest) =>
    let count := alignments.length
    let (more, rest) := rows containers count (rest.length + 1) rest
    (⟨alignments, fit count (cells (splitLine cs).1), more⟩, rest)

end CitedChat.Markdown.TableReader
