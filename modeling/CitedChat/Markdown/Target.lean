import CitedChat.Markdown.Entity
import CitedChat.Markdown.Scan
import CitedChat.Text.CaseFold

/-!
Where links lead: addresses, titles, labels, and the definitions of labels.
-/

set_option autoImplicit false

namespace CitedChat.Markdown

/-- How deep parentheses may be nested in an address. -/
def nestingLimit : Nat := 5

/-- Whether a backslash before this text escapes a character. -/
def escapes (rest : List Char) : Bool :=
  rest.head?.any Text.isAsciiPunctuation

/-- An address in angle brackets, after the first; `skip` says that the next character is
escaped. -/
def pointyAddress? (skip : Bool) : List Char → Option (List Char × List Char)
  | [] => none
  | c :: rest =>
    if skip then continued c (pointyAddress? false rest)
    else if c == '>' then some ([], rest)
    else if isNewline c || c == '<' then none
    else continued c (pointyAddress? (c == '\\' && escapes rest) rest)
where
  continued (c : Char) : Option (List Char × List Char) → Option (List Char × List Char) :=
    Option.map fun (cs, rest) => (c :: cs, rest)

/-- An address without brackets. It ends at a blank or a control character, or at a closing
parenthesis that has no partner in it. -/
def plainAddress? (skip : Bool) (depth : Nat) : List Char → Option (List Char × List Char)
  | [] => if depth == 0 then some ([], []) else none
  | c :: rest =>
    if skip then continued c (plainAddress? false depth rest)
    else if c.toNat ≤ 0x20 then ended depth (c :: rest)
    else if c == '(' then
      if depth > nestingLimit then none else continued c (plainAddress? false (depth + 1) rest)
    else if c == ')' then
      match depth with
      | 0 => ended 0 (c :: rest)
      | depth + 1 => continued c (plainAddress? false depth rest)
    else continued c (plainAddress? (c == '\\' && escapes rest) depth rest)
where
  ended (depth : Nat) (rest : List Char) : Option (List Char × List Char) :=
    if depth == 0 then some ([], rest) else none
  continued (c : Char) : Option (List Char × List Char) → Option (List Char × List Char) :=
    Option.map fun (cs, rest) => (c :: cs, rest)

/-- An address as it is written, and what follows it. -/
def address? (cs : List Char) : Option (List Char × List Char) :=
  match cs with
  | '<' :: rest => pointyAddress? false rest
  | _ => plainAddress? false 0 cs

/-- The character that closes a title. -/
def titleEnd? : Char → Option Char
  | '"' => some '"'
  | '\'' => some '\''
  | '(' => some ')'
  | _ => none

/-- The value of a title after its opening mark. `skip` counts the characters that are already
accounted for. -/
def titleBody? (opening close : Char) : Nat → List Char → Option (List Char × List Char)
  | _, [] => none
  | skip + 1, _ :: rest => titleBody? opening close skip rest
  | 0, c :: rest =>
    if c == close then some ([], rest)
    else if c == opening then none
    else if c == '&' then
      match reference? rest with
      | some (value, count) => extended value (titleBody? opening close count rest)
      | none => extended [c] (titleBody? opening close 0 rest)
    else if c == '\\' && escapes rest then
      extended (rest.take 1) (titleBody? opening close 1 rest)
    else extended [c] (titleBody? opening close 0 rest)
where
  extended (value : List Char) : Option (List Char × List Char) → Option (List Char × List Char) :=
    Option.map fun (cs, rest) => (value ++ cs, rest)

def title? (cs : List Char) : Option (String × List Char) :=
  match cs with
  | [] => none
  | c :: rest => do
    let close ← titleEnd? c
    let (value, rest) ← titleBody? c close 0 rest
    pure (String.ofList value, rest)

/-- Blanks with at most one line end among them. -/
def skipGap (cs : List Char) : List Char :=
  match skipSpacing cs with
  | [] => []
  | rest => skipSpacing ((lineEnd? rest).getD rest)

/-- The target of a link in parentheses: the address, the title, and what follows. -/
def target? (cs : List Char) : Option (String × String × List Char) :=
  match cs with
  | '(' :: rest => do
    let (url, rest) ← address? (skipGap rest)
    let rest := skipGap rest
    let (title, rest) :=
      match title? rest with
      | some (title, rest) => (title, skipGap rest)
      | none => ("", rest)
    match rest with
    | ')' :: rest => some (unescape url, title, rest)
    | _ => none
  | _ => none

/-! ### Labels -/

/-- How far a label may go. Backslashes count with what follows them, blanks one by one, and of
the other characters only the bytes of those beyond ASCII. -/
def labelLimit : Nat := 1000

structure LabelScan where
  /-- What has been read, in reverse. -/
  done : List Char := []
  weight : Nat := 0
  /-- Nothing but blanks and escapes so far. -/
  isBlank : Bool := true
  /-- The last character was a blank. -/
  inGap : Bool := false
  /-- The next character is escaped. -/
  escaped : Bool := false

def beyondAscii (c : Char) : Nat :=
  if c.toNat < 0x80 then 0 else c.utf8Size

def LabelScan.push (scan : LabelScan) (c : Char) : LabelScan :=
  if scan.escaped then
    { scan with
      done := c :: scan.done
      weight := scan.weight + (beyondAscii c - 1)
      isBlank := scan.isBlank && c.toNat < 0x80
      escaped := false }
  else if c == '\\' then
    { scan with done := c :: scan.done, weight := scan.weight + 2, inGap := false, escaped := true }
  else if isWhite c then
    { scan with
      done := if scan.inGap then scan.done else ' ' :: scan.done
      weight := scan.weight + 1
      inGap := true }
  else
    { scan with
      done := c :: scan.done
      weight := scan.weight + beyondAscii c
      isBlank := false
      inGap := false }

def labelBody? (scan : LabelScan) : List Char → Option (List Char × List Char)
  | [] => none
  | c :: rest =>
    if scan.weight ≥ labelLimit then none
    else if scan.escaped then labelBody? (scan.push c) rest
    else if c == '[' then none
    else if c == ']' then
      if scan.isBlank then none else some (scan.done.reverse, rest)
    else labelBody? (scan.push c) rest

/-- A label after its opening bracket, and what follows the closing one. Each gap in the label
counts as one blank, and gaps at its ends do not count. -/
def label? (cs : List Char) : Option (String × List Char) :=
  (labelBody? {} cs).map fun (label, rest) =>
    (String.ofList (dropEndWhile isWhite (label.dropWhile isWhite)), rest)

/-! ### Definitions -/

structure Target where
  url : String
  title : String := ""

/-- The labels that a text defines, in either case, the first definition of each first. -/
abbrev Definitions := List (List Char × Target)

def labelKey (label : String) : List Char :=
  Text.foldCase label.toList

def Definitions.find? (definitions : Definitions) (label : String) : Option Target :=
  definitions.lookup (labelKey label)

def Definitions.insert (definitions : Definitions) (label : String) (target : Target) :
    Definitions :=
  definitions ++ [(labelKey label, target)]

/-- The title of a definition after its opening mark, as it is written. -/
def writtenTitle? (close : Char) (skip : Bool) : List Char → Option (List Char × List Char)
  | [] => none
  | c :: rest =>
    if !skip && c == close then some ([], rest)
    else (writtenTitle? close (!skip && c == '\\') rest).map fun (cs, rest) => (c :: cs, rest)

/-- A title that ends its line. -/
def closingTitle? (cs : List Char) : Option (String × List Char) :=
  match cs with
  | [] => none
  | c :: rest => do
    let close ← titleEnd? c
    let (title, rest) ← writtenTitle? close false rest
    let rest ← blankLine? rest
    pure (unescape title, rest)

/-- A definition at the beginning of a paragraph, and the lines after it. What stands in the
place of a title but does not end its line makes it no definition, unless it is on a line of its
own: then that line is not part of the definition. -/
def definition? (cs : List Char) : Option (String × Target × List Char) :=
  match cs with
  | '[' :: rest => do
    let (label, rest) ← label? rest
    match rest with
    | ':' :: rest =>
      let start := skipGap rest
      let (url, rest) ← address? start
      let next := skipGap rest
      if rest.length == start.length then none
      else
        let titled := if next.length == rest.length then none else closingTitle? next
        match titled, blankLine? rest with
        | some (title, rest), _ => some (label, ⟨unescape url, title⟩, rest)
        | none, some rest => some (label, ⟨unescape url, ""⟩, rest)
        | none, none => none
    | _ => none
  | _ => none

end CitedChat.Markdown
