import CitedChat.Json.NumberReader

/-!
Reading a value of any shape into a tree, and skipping one. A value that is skipped is held to a
slightly wider grammar: nesting is not limited, numbers may be of any size, and escapes need not
name characters.
-/

set_option autoImplicit false

namespace CitedChat.Json

/-- The items of a sequence behind its opening bracket. -/
def readItems {α : Type} (item : Reader α) : Nat → Bool → List α → Reader (List α)
  | 0, _, _, cs => flawOn .endInList cs
  | budget + 1, first, done, cs => do
    match ← seekItem first cs with
    | (false, rest) => pure (done.reverse, rest)
    | (true, rest) =>
      let (x, rest) ← item rest
      readItems item budget false (x :: done) rest

/-- The members of a map behind its opening brace. -/
def readMembers {α : Type} (limit : Nat) (item : Reader α) :
    Nat → Bool → List (String × α) → Reader (List (String × α))
  | 0, _, _, cs => flawOn .endInObject cs
  | budget + 1, first, done, cs => do
    match ← seekKey first cs with
    | (false, rest) => pure (done.reverse, rest)
    | (true, rest) =>
      let (key, rest) ← readStringBody limit [] rest
      let rest ← readColon rest
      let (x, rest) ← item rest
      readMembers limit item budget false ((key, x) :: done) rest

/-- A value at a nesting of at most `depth` levels. -/
def readTree (budget : Nat) : Nat → Reader Tree
  | depth, cs =>
    match skipSpace cs with
    | [] => flawOn .endInValue []
    | c :: rest =>
      match c with
      | 'n' => do pure (.null, ← readKeyword ['u', 'l', 'l'] rest)
      | 't' => do pure (.bool true, ← readKeyword ['r', 'u', 'e'] rest)
      | 'f' => do pure (.bool false, ← readKeyword ['a', 'l', 's', 'e'] rest)
      | '"' => do
        let (s, rest) ← readStringBody budget [] rest
        pure (.string s, rest)
      | '[' =>
        match depth with
        | 0 => flawOn .recursionLimit (c :: rest)
        | depth + 1 => do
          let (items, rest) ←
            closing closeSequence (readItems (readTree budget depth) budget true [] rest)
          pure (.array items, rest)
      | '\x7b' =>
        match depth with
        | 0 => flawOn .recursionLimit (c :: rest)
        | depth + 1 => do
          let (members, rest) ←
            closing closeMap (readMembers budget (readTree budget depth) budget true [] rest)
          pure (.object members, rest)
      | _ =>
        if c == '-' || c.isDigit then do
          let (n, rest) ← readNumber (c :: rest)
          pure (.number n, rest)
        else flawOn .expectedValue (c :: rest)

/-! ### Skipping -/

/-- Skips a string behind its opening quote. -/
def skipString : Nat → List Char → Except Fault (List Char)
  | 0, rest => flawAt .endInString rest
  | _, [] => flawAt .endInString []
  | budget + 1, c :: rest =>
    if c == '"' then .ok rest
    else if c == '\\' then
      match rest with
      | [] => flawAt .endInString []
      | 'u' :: rest => do
        let (_, rest) ← readUnit rest
        skipString budget rest
      | e :: rest =>
        if (simpleEscape? e).isSome then skipString budget rest
        else .error (.placed (.flaw .invalidEscape) (byteCount (e :: rest) - 1))
    else if c.toNat < 0x20 then flawAt .controlCharacter rest
    else skipString budget rest

/-- A bracket whose contents are being skipped. -/
inductive Bracket where
  | sequence
  | map
  deriving DecidableEq

/-- Where a value has been skipped, or a bracket opened: closes what closes, and goes on to the
next value inside the innermost open bracket. The result is that bracket with those around it,
or none when the outermost value is complete. -/
def skipToValue : Nat → (after : Bool) → List Bracket → List Char →
    Except Fault (List Bracket × List Char)
  | 0, _, _, cs => flawOn .endInValue cs
  | _, _, [], cs => .ok ([], cs)
  | budget + 1, after, bracket :: outer, cs =>
    match skipSpace cs with
    | [] => flawOn (if bracket = .sequence then .endInList else .endInObject) []
    | c :: rest =>
      if after && c == ',' then toValue budget (bracket :: outer) rest
      else if (c == ']' && bracket = .sequence) || (c == '\x7d' && bracket = .map) then
        skipToValue budget true outer rest
      else if after then
        flawOn (if bracket = .sequence then .expectedListCommaOrEnd else .expectedObjectCommaOrEnd)
          (c :: rest)
      else toValue budget (bracket :: outer) (c :: rest)
where
  /-- A key and its colon come first inside a map. -/
  toValue (budget : Nat) (brackets : List Bracket) (cs : List Char) :
      Except Fault (List Bracket × List Char) :=
    match brackets with
    | .map :: _ =>
      match skipSpace cs with
      | [] => flawOn .endInObject []
      | '"' :: rest => do
        let rest ← skipString budget rest
        let rest ← readColon rest
        pure (brackets, rest)
      | rest => flawOn .keyMustBeString rest
    | _ => .ok (brackets, cs)

/-- Skips values until no bracket is open. -/
def skipTree (limit : Nat) : Nat → List Bracket → List Char → Except Fault (List Char)
  | 0, _, cs => flawOn .endInValue cs
  | budget + 1, around, cs =>
    match skipSpace cs with
    | [] => flawOn .endInValue []
    | c :: rest =>
      let afterValue (result : Except Fault (List Char)) : Except Fault (List Char) := do
        match ← skipToValue limit true around (← result) with
        | ([], rest) => pure rest
        | (brackets, rest) => skipTree limit budget brackets rest
      let inside (bracket : Bracket) : Except Fault (List Char) := do
        match ← skipToValue limit false (bracket :: around) rest with
        | ([], rest) => pure rest
        | (brackets, rest) => skipTree limit budget brackets rest
      match c with
      | 'n' => afterValue (readKeyword ['u', 'l', 'l'] rest)
      | 't' => afterValue (readKeyword ['r', 'u', 'e'] rest)
      | 'f' => afterValue (readKeyword ['a', 'l', 's', 'e'] rest)
      | '-' => afterValue (skipNumber rest)
      | '"' => afterValue (skipString limit rest)
      | '[' => inside .sequence
      | '\x7b' => inside .map
      | _ =>
        if c.isDigit then afterValue (skipNumber (c :: rest))
        else flawOn .expectedValue (c :: rest)

/-! ### Whole texts -/

/-- Runs a reader on a whole text; nothing but white space may follow the value. -/
def runReader {α : Type} (reader : Scope → Reader α) (text : String) : Except Error α :=
  let cs := text.toList
  match reader (.ofText cs) cs with
  | .error fault => .error (fault.toError cs)
  | .ok (value, rest) =>
    match skipSpace rest with
    | [] => .ok value
    | rest => .error (Fault.toError cs (.placed (.flaw .trailingCharacters) (byteCount rest - 1)))

/-- The value that a text denotes, with sorted and distinct keys. -/
def Tree.parse (text : String) : Except Error Tree :=
  (runReader (fun scope => readTree scope.budget scope.depth) text).map Tree.sorted

end CitedChat.Json
