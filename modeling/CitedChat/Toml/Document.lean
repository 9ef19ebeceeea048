import CitedChat.Toml.StringText

/-!
The tables of a TOML document. A header opens a table, or adds one to an array of tables; a dotted
key goes down through tables that dotted keys made. A table that was written out once is not
written out again, and nothing is added to an inline table or an array from outside.
-/

set_option autoImplicit false

namespace CitedChat.Toml

/-- How a table came about, which decides what may be added to it. -/
inductive Origin where
  /-- It has a header of its own, or is the document. -/
  | header
  /-- Only headers of tables inside it were seen. -/
  | implied
  | dotted
  | inline
  deriving DecidableEq

inductive Value where
  | string (text : String)
  | scalar (value : Scalar)
  | array (items : List Value)
  | table (origin : Origin) (members : List (String × Span × Value))
  /-- Tables under one repeated header, newest first. -/
  | tables (elements : List Value)

abbrev Members := List (String × Span × Value)

namespace Value

def kind : Value → String
  | .string _ => "string"
  | .scalar (.boolean _) => "boolean"
  | .scalar (.integer _) => "integer"
  | .scalar (.float _) => "float"
  | .scalar .moment => "datetime"
  | .array _ | .tables _ => "array"
  | .table _ _ => "table"

/-- What a value is called where another one is expected. -/
def found : Value → Json.Found
  | .string text => .string text
  | .scalar (.boolean value) => .bool value
  | .scalar (.integer value) => .integer value
  | .scalar (.float value) => .float value
  | .scalar .moment => .map
  | .array _ | .tables _ => .sequence
  | .table _ _ => .map

end Value

def member? (members : Members) (key : String) : Option Value :=
  (members.find? (·.1 == key)).map (·.2.2)

/-- Puts a value under a key, in the place of the one that is there. -/
def put (members : Members) (key : String) (span : Span) (value : Value) : Members :=
  if (member? members key).isSome then
    members.map fun m => if m.1 == key then (key, m.2.1, value) else m
  else members ++ [(key, span, value)]

/-- A piece of a key with its place. -/
structure Key where
  text : String
  span : Span

/-- Goes down along keys and changes the table at their end. The tables on the way that are not
there yet are made with an origin; `mayEnter` says which of those that are there may be entered. -/
def alter (made : Origin) (mayEnter : Origin → Bool)
    (change : Origin → Members → Except Fault (Origin × Members)) :
    List Key → Origin → Members → Except Fault (Origin × Members)
  | [], origin, members => change origin members
  | key :: rest, origin, members => do
    let enter (inner : Origin) (content : Members) : Except Fault Value := do
      if !mayEnter inner then fault .duplicateKey key.span
      else
        let (inner, content) ← alter made mayEnter change rest inner content
        pure (.table inner content)
    let value ←
      match member? members key.text with
      | none => enter made []
      | some (.table inner content) => enter inner content
      | some (.tables (.table inner content :: older)) => do
        if made == .dotted then fault (.notATable "array") key.span
        else pure (.tables ((← enter inner content) :: older))
      | some other => fault (.notATable other.kind) key.span
    pure (origin, put members key.text key.span value)

/-- Adds a pair to the table in which a dotted key ends. A table that a header speaks of is not
added to under a dotted key. -/
def addPair (path : List Key) (key : Key) (span : Span) (value : Value) (origin : Origin)
    (members : Members) : Except Fault (Origin × Members) :=
  alter .dotted (fun o => o == .dotted || o == .implied)
    (fun origin members =>
      if (origin == .dotted) == path.isEmpty then fault .duplicateKey key.span
      else if (member? members key.text).isSome then fault .duplicateKey key.span
      else pure (origin, members ++ [(key.text, span, value)]))
    path origin members

/-! ### Values -/

/-- The last piece of a key, and the pieces before it. -/
def splitKey (pieces : List Token) : Except Fault (List Key × Key) := do
  let keys ← pieces.mapM fun piece => do pure (⟨← keyText piece, piece.span⟩ : Key)
  match keys.reverse with
  | key :: path => pure (path.reverse, key)
  | [] => fault .missingKey ⟨0, 0⟩

mutual

def Written.value : Written → Except Fault Value
  | .quoted style text span => do pure (.string (← stringText style text span))
  | .plain text span =>
    match Scalar.ofText text with
    | .ok value => .ok (.scalar value)
    | .error objection => fault objection.cause ⟨span.left - objection.start, objection.length⟩
  | .array items _ => do pure (.array (← Written.values items))
  | .table pairs _ => do pure (.table .inline (← Written.members pairs []))

def Written.values : List Written → Except Fault (List Value)
  | [] => .ok []
  | item :: rest => do pure ((← item.value) :: (← Written.values rest))

def Written.members : List (List Token × Written) → Members → Except Fault Members
  | [], members => .ok members
  | (pieces, written) :: rest, members => do
    let (path, key) ← splitKey pieces
    let (_, members) ← addPair path key written.span (← written.value) .header members
    Written.members rest members

end

/-! ### The document -/

/-- What has been read of a document: its members, and the header under which pairs stand. -/
structure Draft where
  members : Members := []
  header : List Key := []

namespace Draft

/-- Changes the table to which a header leads. A repeated header leads to the last of its
tables. -/
def alterAt (draft : Draft) (path : List Key)
    (change : Origin → Members → Except Fault (Origin × Members)) : Except Fault Members := do
  let (_, members) ← alter .implied (· ≠ .inline) change path .header draft.members
  pure members

/-- Opens the table of a header. -/
def openTable (key : Key) (origin : Origin) (members : Members) :
    Except Fault (Origin × Members) :=
  match member? members key.text with
  | none => .ok (origin, put members key.text key.span (.table .header []))
  | some (.table .implied content) =>
    .ok (origin, put members key.text key.span (.table .header content))
  | some _ => fault .duplicateKey key.span

/-- Adds a table under a repeated header. -/
def addTable (key : Key) (origin : Origin) (members : Members) : Except Fault (Origin × Members) :=
  match member? members key.text with
  | none => .ok (origin, put members key.text key.span (.tables [.table .header []]))
  | some (.tables elements) =>
    .ok (origin, put members key.text key.span (.tables (.table .header [] :: elements)))
  | some _ => fault .duplicateKey key.span

def addLine (draft : Draft) : Line → Except Fault Draft
  | .header isRepeated pieces => do
    let (path, key) ← splitKey pieces
    let members ← draft.alterAt path (if isRepeated then addTable key else openTable key)
    pure { members, header := path ++ [key] }
  | .pair pieces written => do
    let (path, key) ← splitKey pieces
    let value ← written.value
    let members ← draft.alterAt draft.header (addPair path key written.span value)
    pure { draft with members }

end Draft

/-- A comment holds no control characters, and a carriage return is followed by a line feed. -/
def checkVoid (t : Token) : Except Fault Unit :=
  match t.kind with
  | .comment =>
    match t.text.dropWhile fun c => !isControl c with
    | [] => .ok ()
    | rest => fault .comment ⟨t.left - (t.text.length - rest.length), 1⟩
  | .newline => if t.text == ['\r'] then fault .loneReturn t.span else .ok ()
  | _ => .ok ()

/-- The members of a document. The layout is looked at first. -/
def read (text : String) : Except Fault Members := do
  let ts := tokens text.toList
  let lines ← lines ts
  ts.forM checkVoid
  let draft ← lines.foldlM Draft.addLine {}
  pure draft.members

end CitedChat.Toml
