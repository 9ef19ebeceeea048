import CitedChat.Json.Record

/-!
Values that are one of several alternatives. An alternative without contents is written by its
name; one with contents as a map from its name alone. A tagged value is a map whose tag names the
alternative, with the contents under a key of their own or beside the tag.
-/

set_option autoImplicit false

namespace CitedChat.Json

def findName {α : Type} (known : List (String × α)) (name : String) : Except Mismatch α :=
  match known.find? (·.1 == name) with
  | some (_, x) => .ok x
  | none => .error (.unknownVariant name (known.map (·.1)))

namespace Decoder

/-- The name of an alternative. -/
def name {α : Type} (known : List (String × α)) : Decoder α :=
  (stringAs "variant identifier").check (findName known)

/-- The contents of a named alternative, and what it is without them, when it is written by its
name alone. -/
structure Alternative (α : Type) where
  alone : Except Mismatch α
  contents : Decoder α

/-- One of several named alternatives. -/
def alternatives {α : Type} (known : List (String × Alternative α)) : Decoder α where
  ofText scope cs :=
    match skipSpace cs with
    | [] => flawOn .endInValue []
    | '\x7b' :: rest => descend scope ('\x7b' :: rest) fun inner => do
      let (a, rest) ← (name known).ofText inner rest
      let rest ← readColon rest
      let (x, rest) ← a.contents.ofText inner rest
      match skipSpace rest with
      | '\x7d' :: rest => pure (x, rest)
      | [] => flawAt .endInObject []
      | rest => flawAt .expectedValue rest
    | '"' :: rest => do
      let (a, rest) ← (name known).ofText scope ('"' :: rest)
      match a.alone with
      | .ok x => pure (x, rest)
      | .error mismatch => .error (.loose mismatch rest)
    | rest => flawOn .expectedValue rest
  ofTree origin tree :=
    match tree with
    | .object [(key, tree)] => do
      let a ← findName known key
      a.contents.ofTree origin tree
    | .object _ => .error (.invalidValue .map "map with a single key")
    | .string key => do
      let a ← findName known key
      a.alone
    | tree => mistyped tree "string or map"

/-- One of several names. -/
def choice {α : Type} (known : List (String × α)) : Decoder α :=
  alternatives (known.map fun (name, x) => (name, ⟨.ok x, unit.map fun _ => x⟩))

/-- An alternative with one value as its contents. -/
def holding {α β : Type} (d : Decoder α) (f : α → β) : Alternative β where
  alone := .error (.invalidType .unitVariant "newtype variant")
  contents := d.map f

/-- An alternative with several values as its contents; `label` names it in full. From a tree a
value that is no sequence is refused before its name is known, and a whole value that is an empty
sequence counts as null. -/
def holdingTuple {σ τ β : Type} (label : String) (fs : Fields σ τ) (f : τ → β) :
    Alternative β where
  alone := .error (.invalidType .unitVariant "tuple variant")
  contents :=
    { ofText := ((tuple label (fs.sized label) fs).map f).ofText
      ofTree := fun origin tree =>
        match origin, tree with
        | .whole, .array [] => mistyped .null label
        | origin, .array items => (fs.ofWholeSequence origin (fs.sized label) items).map f
        | _, tree => mistyped tree "tuple variant" }

/-! ### Tags beside contents -/

/-- A tagged value with its contents under a key of their own. -/
structure Tagged (α : Type) where
  /-- What is expected, for instance "adjacently tagged enum Action". -/
  expected : String
  tagKey : String
  contentKey : String
  /-- The alternatives, with the value of those that may go without contents. -/
  known : List (String × Option α × Decoder α)

namespace Tagged

variable {α : Type} (t : Tagged α)

def tag : Decoder (Option α × Decoder α) :=
  choice t.known

/-- The two keys that matter. -/
inductive Key where
  | tag
  | content

def key? (key : String) : Option Key :=
  if key == t.tagKey then some .tag else if key == t.contentKey then some .content else none

def keyName : Key → String
  | .tag => t.tagKey
  | .content => t.contentKey

/-- A value without contents. -/
def lone (known : Option α × Decoder α) : Except Mismatch α :=
  match known.1 with
  | some x => .ok x
  | none => .error (.missingField t.contentKey)

/-- The next key that matters, the text behind it with it; the closing brace is next if there is
none. -/
def seek (scope : Scope) : Nat → Bool → Reader (Option Key)
  | 0, _, cs => flawOn .endInObject cs
  | budget + 1, first, cs => do
    match ← seekKey first cs with
    | (false, rest) => pure (none, rest)
    | (true, rest) =>
      let (key, rest) ← readStringBody scope.budget [] rest
      match t.key? key with
      | some key => pure (some key, rest)
      | none =>
        let rest ← readColon rest
        let rest ← skipTree scope.budget scope.budget [] rest
        seek scope budget false rest

/-- No key that matters may follow. -/
def finish (scope : Scope) (x : α) (cs : List Char) : Except Fault (α × List Char) := do
  match ← t.seek scope scope.budget false cs with
  | (none, rest) => pure (x, rest)
  | (some key, rest) => .error (.loose (.duplicateField (t.keyName key)) rest)

def readMap (scope : Scope) (cs : List Char) : Except Fault (α × List Char) := do
  match ← t.seek scope scope.budget true cs with
  | (none, rest) => .error (.loose (.missingField t.tagKey) rest)
  | (some .tag, rest) =>
    let (known, rest) ← t.tag.ofText scope (← readColon rest)
    match ← t.seek scope scope.budget false rest with
    | (some .tag, rest) => .error (.loose (.duplicateField t.tagKey) rest)
    | (some .content, rest) =>
      let (x, rest) ← known.2.ofText scope (← readColon rest)
      t.finish scope x rest
    | (none, rest) =>
      match t.lone known with
      | .ok x => pure (x, rest)
      | .error mismatch => .error (.loose mismatch rest)
  | (some .content, rest) =>
    let (tree, rest) ← readTree scope.budget scope.depth (← readColon rest)
    match ← t.seek scope scope.budget false rest with
    | (some .content, rest) => .error (.loose (.duplicateField t.contentKey) rest)
    | (none, rest) => .error (.loose (.missingField t.tagKey) rest)
    | (some .tag, rest) =>
      let (known, rest) ← t.tag.ofText scope (← readColon rest)
      match known.2.ofTree .heldBack tree with
      | .ok x => t.finish scope x rest
      | .error mismatch => .error (.loose mismatch rest)

def readSequence (scope : Scope) (cs : List Char) : Except Fault (α × List Char) := do
  match ← seekItem true cs with
  | (false, rest) => .error (.loose (.invalidLength 0 t.expected) rest)
  | (true, rest) =>
    let (known, rest) ← t.tag.ofText scope rest
    match ← seekItem false rest with
    | (false, rest) => .error (.loose (.invalidLength 1 t.expected) rest)
    | (true, rest) => known.2.ofText scope rest

/-- The members with the keys that matter, in their order. -/
def relevant (members : List (String × Tree)) : List (Key × Tree) :=
  members.filterMap fun (key, tree) => (t.key? key).map fun k => (k, tree)

def ofMembers (origin : Origin) (members : List (String × Tree)) : Except Mismatch α :=
  match t.relevant members with
  | [] => .error (.missingField t.tagKey)
  | (.tag, tag) :: rest => do
    let known ← t.tag.ofTree origin tag
    match rest with
    | [] => t.lone known
    | (.tag, _) :: _ => .error (.duplicateField t.tagKey)
    | (.content, content) :: rest =>
      let x ← known.2.ofTree origin content
      last x rest
  | (.content, content) :: rest =>
    match rest with
    | [] => .error (.missingField t.tagKey)
    | (.content, _) :: _ => .error (.duplicateField t.contentKey)
    | (.tag, tag) :: rest => do
      let known ← t.tag.ofTree origin tag
      let x ← known.2.ofTree .heldBack content
      last x rest
where
  last (x : α) : List (Key × Tree) → Except Mismatch α
    | [] => .ok x
    | (key, _) :: _ => .error (.duplicateField (t.keyName key))

def ofSequence (origin : Origin) (items : List Tree) : Except Mismatch α :=
  match items with
  | [] => .error (.invalidLength 0 t.expected)
  | tag :: rest => do
    let known ← t.tag.ofTree origin tag
    match rest with
    | [] => .error (.invalidLength 1 t.expected)
    | content :: rest =>
      let x ← known.2.ofTree origin content
      if rest.isEmpty then pure x
      else match origin with
        | .whole => .error (.invalidLength items.length "fewer elements in array")
        | .heldBack => .error (.invalidLength items.length "2 elements in sequence")

def decoder : Decoder α where
  ofText scope cs :=
    match skipSpace cs with
    | '[' :: rest => descend scope ('[' :: rest) fun inner =>
      closing closeSequence (t.readSequence inner rest)
    | '\x7b' :: rest => descend scope ('\x7b' :: rest) fun inner =>
      closing closeMap (t.readMap inner rest)
    | rest => refuse scope t.expected rest
  ofTree origin tree :=
    match tree with
    | .array items => t.ofSequence origin items
    | .object members => t.ofMembers origin members
    | tree => mistyped tree t.expected

end Tagged

/-! ### Tags among the fields -/

/-- A tagged value whose fields stand beside the tag. The fields are held back until the tag is
known, so that a fault in them has no place. -/
structure SelfTagged (α : Type) where
  expected : String
  tagKey : String
  known : List (String × Decoder α)

namespace SelfTagged

variable {α : Type} (t : SelfTagged α)

def tag : Decoder (Decoder α) := name t.known

/-- Reads the tag where it stands and holds all other members back. -/
def readMap (scope : Scope) : Nat → Bool → Option (Decoder α) → List (String × Tree) →
    Reader (Decoder α × Tree)
  | 0, _, _, _, cs => flawOn .endInObject cs
  | budget + 1, first, found, held, cs => do
    match ← seekKey first cs with
    | (false, rest) =>
      match found with
      | some d => pure ((d, .object held.reverse), rest)
      | none => .error (.loose (.missingField t.tagKey) rest)
    | (true, rest) =>
      let (key, rest) ← readStringBody scope.budget [] rest
      if key == t.tagKey then
        if found.isSome then .error (.loose (.duplicateField t.tagKey) rest)
        else
          let (d, rest) ← t.tag.ofText scope (← readColon rest)
          readMap scope budget false (some d) held rest
      else
        let (tree, rest) ← readTree scope.budget scope.depth (← readColon rest)
        readMap scope budget false found ((key, tree) :: held) rest

def readSequence (scope : Scope) (cs : List Char) :
    Except Fault ((Decoder α × Tree) × List Char) := do
  match ← seekItem true cs with
  | (false, rest) => .error (.loose (.missingField t.tagKey) rest)
  | (true, rest) =>
    let (d, rest) ← t.tag.ofText scope rest
    let (items, rest) ←
      readItems (readTree scope.budget scope.depth) scope.budget false [] rest
    pure ((d, .array items), rest)

/-- Splits the tag off the members of a tree. -/
def splitMembers (origin : Origin) : Option (Decoder α) → List (String × Tree) →
    List (String × Tree) → Except Mismatch (Decoder α × Tree)
  | found, held, [] =>
    match found with
    | some d => .ok (d, .object held.reverse)
    | none => .error (.missingField t.tagKey)
  | found, held, (key, tree) :: rest =>
    if key == t.tagKey then
      if found.isSome then .error (.duplicateField t.tagKey)
      else do
        let d ← t.tag.ofTree origin tree
        splitMembers origin (some d) held rest
    else splitMembers origin found ((key, tree) :: held) rest

/-- The fields' decoder, chosen by the tag, and the fields themselves. -/
def readParts (scope : Scope) (cs : List Char) : Except Fault ((Decoder α × Tree) × List Char) :=
  match skipSpace cs with
  | '[' :: rest => descend scope ('[' :: rest) fun inner =>
    closing closeSequence (t.readSequence inner rest)
  | '\x7b' :: rest => descend scope ('\x7b' :: rest) fun inner =>
    closing closeMap (t.readMap inner inner.budget true none [] rest)
  | rest => refuse scope t.expected rest

def parts (origin : Origin) (tree : Tree) : Except Mismatch (Decoder α × Tree) :=
  match tree with
  | .array [] => .error (.missingField t.tagKey)
  | .array (tag :: items) => do
    let d ← t.tag.ofTree origin tag
    pure (d, .array items)
  | .object members => t.splitMembers origin none [] members
  | tree => mistyped tree t.expected

def decoder : Decoder α where
  ofText scope cs := do
    let ((d, tree), rest) ← t.readParts scope cs
    match d.ofTree .heldBack tree with
    | .ok x => pure (x, rest)
    | .error mismatch => .error (.loose mismatch rest)
  ofTree origin tree := do
    let (d, tree) ← t.parts origin tree
    d.ofTree .heldBack tree

end SelfTagged

end Decoder

end CitedChat.Json
