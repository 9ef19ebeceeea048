import CitedChat.Toml.Token

/-!
The layout of a TOML document: headers, and keys with what stands behind their equals signs. Keys
and scalars are kept as they are written, so the only faults found here are those of the layout.
-/

set_option autoImplicit false

namespace CitedChat.Toml

/-- What is written as a value. -/
inductive Written where
  | quoted (style : Style) (text : List Char) (span : Span)
  | plain (text : List Char) (span : Span)
  | array (items : List Written) (span : Span)
  | table (pairs : List (List Token × Written)) (span : Span)

namespace Written

def span : Written → Span
  | .quoted _ _ span | .plain _ span | .array _ span | .table _ span => span

end Written

/-- A header or a pair; the pieces of a dotted key stand one by one. -/
inductive Line where
  | header (isRepeated : Bool) (keys : List Token)
  | pair (keys : List Token) (value : Written)

abbrev Reading (α : Type) := Except Fault (α × List Token)

def fault {α : Type} (cause : Cause) (span : Span) : Except Fault α :=
  .error ⟨cause, span⟩

/-- The next token; behind the last one there is only the finish. -/
def peek (ts : List Token) : Token :=
  ts.headD ⟨.finish, [], 0⟩

def skipBlank (ts : List Token) : List Token :=
  ts.dropWhile (·.kind == .blank)

def isVoid : Kind → Bool
  | .blank | .newline | .comment => true
  | _ => false

def skipVoid (ts : List Token) : List Token :=
  ts.dropWhile fun t => isVoid t.kind

def isKeyPiece : Kind → Bool
  | .plain | .string _ => true
  | _ => false

/-! ### Keys -/

/-- The pieces of a dotted key. Where a piece is missing an empty one stands. -/
def readKeys : Nat → List Token → List Token × List Token
  | 0, ts => ([], ts)
  | bound + 1, ts =>
    let t := peek ts
    let (piece, behind) :=
      if isKeyPiece t.kind then (t, ts.drop 1) else (⟨.plain, [], t.left⟩, ts)
    match skipBlank behind with
    | ⟨.dot, _, _⟩ :: rest =>
      let (pieces, rest) := readKeys bound (skipBlank rest)
      (piece :: pieces, rest)
    | _ => ([piece], behind)

def keys (ts : List Token) : List Token × List Token :=
  readKeys ts.length ts

/-! ### Values -/

/-- Pieces that belong to one unquoted scalar: dots join them, and blanks do if another piece
follows. -/
def plainRun (text : List Char) : List Token → List Char × List Token
  | ⟨.plain, more, _⟩ :: rest => plainRun (text ++ more) rest
  | ⟨.dot, more, _⟩ :: rest => plainRun (text ++ more) rest
  | ⟨.blank, more, left⟩ :: rest =>
    match rest with
    | ⟨.plain, piece, _⟩ :: behind => plainRun (text ++ more ++ piece) behind
    | _ => (text, ⟨.blank, more, left⟩ :: rest)
  | ts => (text, ts)

/-- How deep arrays and tables may stand in each other. -/
def depthLimit : Nat := 80

mutual

/-- A value. The number bounds the steps. -/
def readValue : Nat → Nat → List Token → Reading Written
  | 0, _, ts => fault .tooDeep (peek ts).span
  | bound + 1, depth, ts =>
    let t := peek ts
    let rest := ts.drop 1
    match t.kind with
    | .string style => .ok (.quoted style t.text t.span, rest)
    | .plain | .dot =>
      let (text, rest) := plainRun t.text rest
      .ok (.plain text ⟨t.left, text.length⟩, rest)
    | .openBracket =>
      if depth < depthLimit then readItems bound (depth + 1) t [] false rest
      else fault .tooDeep t.span
    | .openBrace =>
      if depth < depthLimit then readPairs bound (depth + 1) t [] false rest
      else fault .tooDeep t.span
    | .closeBracket => fault (.missingOpening "array" "[") t.start
    | .closeBrace => fault (.missingOpening "inline table" "\x7b") t.start
    | .equals => fault .extraEquals t.span
    | .comma | .newline | .comment | .finish | .blank => .ok (.plain [] t.start, ts)

/-- The items of an array, newest first; `owed` says that a comma has to come before another one. -/
def readItems : Nat → Nat → Token → List Written → Bool → List Token → Reading Written
  | 0, _, first, _, _, _ => fault .tooDeep first.span
  | bound + 1, depth, first, items, owed, ts =>
    let ts := skipVoid ts
    let t := peek ts
    match t.kind with
    | .closeBracket =>
      .ok (.array items.reverse ⟨first.left, first.left - t.left + 1⟩, ts.drop 1)
    | .finish => fault (.unclosed "array" "]") t.start
    | .comma =>
      if owed then readItems bound depth first items false (ts.drop 1)
      else fault (.extraComma "array" "value") t.span
    | .equals => fault .extraEquals t.span
    | _ =>
      if owed then fault (.missingComma "array elements") t.start
      else
        match readValue bound depth ts with
        | .error e => .error e
        | .ok (item, rest) => readItems bound depth first (item :: items) true rest

/-- The pairs of an inline table, newest first. -/
def readPairs : Nat → Nat → Token → List (List Token × Written) → Bool → List Token →
    Reading Written
  | 0, _, first, _, _, _ => fault .tooDeep first.span
  | bound + 1, depth, first, pairs, owed, ts =>
    let ts := skipVoid ts
    let t := peek ts
    match t.kind with
    | .closeBrace =>
      .ok (.table pairs.reverse ⟨first.left, first.left - t.left + 1⟩, ts.drop 1)
    | .finish => fault (.unclosed "inline table" "\x7d") t.start
    | .comma =>
      if owed then readPairs bound depth first pairs false (ts.drop 1)
      else fault (.extraComma "inline table" "key") t.span
    | _ =>
      if owed then fault (.missingComma "key-value pairs") t.start
      else
        let (pieces, rest) := keys ts
        let rest := skipBlank rest
        if (peek rest).kind ≠ .equals then fault .keyWithoutValue (peek rest).start
        else
          match readValue bound depth (skipBlank (rest.drop 1)) with
          | .error e => .error e
          | .ok (value, rest) => readPairs bound depth first ((pieces, value) :: pairs) true rest

end

/-! ### Lines -/

/-- The end of a line: nothing but blanks and a comment. -/
def readLineEnd (ts : List Token) : Except Fault (List Token) :=
  let ts := skipBlank ts
  let ts := if (peek ts).kind == .comment then ts.drop 1 else ts
  match (peek ts).kind with
  | .newline => .ok (ts.drop 1)
  | .finish => .ok ts
  | _ => fault .trailingText (peek ts).start

/-- A line whose value is missing is not looked at any further. -/
def skipLine (ts : List Token) : List Token :=
  ts.dropWhile fun t => t.kind ≠ .newline && t.kind ≠ .finish

def readHeader (ts : List Token) : Except Fault (Line × List Token) := do
  let isRepeated := (peek ts).kind == .openBracket
  let ts := if isRepeated then ts.drop 1 else ts
  let (pieces, rest) := keys (skipBlank ts)
  let rest := skipBlank rest
  let closing := if isRepeated then 2 else 1
  if (rest.take closing).all (·.kind == .closeBracket) && closing ≤ rest.length then
    let rest ← readLineEnd (rest.drop closing)
    pure (.header isRepeated pieces, rest)
  else if isRepeated then fault (.unclosed "array table" "]]") (peek rest).start
  else fault (.unclosed "table" "]") (peek rest).start

def readPair (ts : List Token) : Except Fault (Line × List Token) := do
  let (pieces, rest) := keys ts
  let rest := skipBlank rest
  if (peek rest).kind ≠ .equals then fault .keyWithoutValue (peek rest).start
  else
    let (value, rest) ← readValue ts.length 0 (skipBlank (rest.drop 1))
    match value with
    | .plain [] _ => pure (.pair pieces value, skipLine rest)
    | _ =>
      let rest ← readLineEnd rest
      pure (.pair pieces value, rest)

/-- The lines of a document; the number bounds the steps. -/
def readLines : Nat → List Token → Except Fault (List Line)
  | 0, _ => .ok []
  | bound + 1, ts =>
    let ts := skipVoid ts
    let t := peek ts
    match t.kind with
    | .finish => .ok []
    | .openBracket => do
      let (line, rest) ← readHeader (ts.drop 1)
      pure (line :: (← readLines bound rest))
    | .closeBracket => fault (.missingOpening "table" "[") t.start
    | .comma | .openBrace | .closeBrace => fault .missingKey t.start
    | _ => do
      let (line, rest) ← readPair ts
      pure (line :: (← readLines bound rest))

def lines (ts : List Token) : Except Fault (List Line) :=
  readLines ts.length ts

end CitedChat.Toml
