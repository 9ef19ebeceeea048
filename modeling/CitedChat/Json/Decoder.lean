import CitedChat.Json.TreeReader
import CitedChat.Word

/-!
Decoders of typed values. A decoder reads its value straight from text, where a fault has a place,
and from a tree, where it has none. Both accept the same values; they differ in the wording of some
refusals, because a text is refused as soon as it cannot go on.

The decoders of records, alternatives and tagged values are built from these in the modules beside
this one.
-/

set_option autoImplicit false

namespace CitedChat.Json

/-- Whether a tree is a value by itself, or the contents of a tagged value kept until its tag was
known. -/
inductive Origin where
  | whole
  | heldBack
  deriving DecidableEq

structure Decoder (α : Type) where
  ofText : Scope → Reader α
  ofTree : Origin → Tree → Except Mismatch α
  /-- What a record takes for a missing field, where it takes anything. -/
  absent : Option α := none

/-! ### Refusals -/

/-- Refuses a value by its first character; a scalar is read to its end. -/
def refuse {α : Type} (scope : Scope) (expected : String) (cs : List Char) : Except Fault α :=
  match cs with
  | [] => flawOn .endInValue []
  | c :: rest =>
    match c with
    | 'n' => do
      let rest ← readKeyword ['u', 'l', 'l'] rest
      mismatchAt (.invalidType .null expected) rest
    | 't' => do
      let rest ← readKeyword ['r', 'u', 'e'] rest
      mismatchAt (.invalidType (.bool true) expected) rest
    | 'f' => do
      let rest ← readKeyword ['a', 'l', 's', 'e'] rest
      mismatchAt (.invalidType (.bool false) expected) rest
    | '"' => do
      let (s, rest) ← readStringBody scope.budget [] rest
      mismatchAt (.invalidType (.string s) expected) rest
    | '[' => mismatchAt (.invalidType .sequence expected) (c :: rest)
    | '\x7b' => mismatchAt (.invalidType .map expected) (c :: rest)
    | _ =>
      if c == '-' || c.isDigit then do
        let (n, rest) ← readNumber (c :: rest)
        mismatchAt (.invalidType (.ofNumber n) expected) rest
      else flawOn .expectedValue (c :: rest)

/-- Refuses a value after looking inside: a bracket is opened, and closed again if it is empty. -/
def refuseInside {α : Type} (scope : Scope) (expected : String) (cs : List Char) :
    Except Fault α :=
  match cs with
  | '[' :: rest => descend scope cs fun _ => do
    let (x, _) ← closing (α := α) closeSequence
      (.error (.loose (.invalidType .sequence expected) rest))
    pure x
  | '\x7b' :: rest => descend scope cs fun _ => do
    let (x, _) ← closing (α := α) closeMap (.error (.loose (.invalidType .map expected) rest))
    pure x
  | cs => refuse scope expected cs

def mistyped {α : Type} (tree : Tree) (expected : String) : Except Mismatch α :=
  .error (.invalidType (.ofTree tree) expected)

namespace Decoder

/-! ### Scalars -/

def map {α β : Type} (f : α → β) (d : Decoder α) : Decoder β where
  ofText scope cs := (d.ofText scope cs).map fun (x, rest) => (f x, rest)
  ofTree origin tree := (d.ofTree origin tree).map f
  absent := d.absent.map f

/-- Checks a value after it was read; a refusal is placed behind the value. -/
def check {α β : Type} (d : Decoder α) (f : α → Except Mismatch β) : Decoder β where
  ofText scope cs := do
    let (x, rest) ← d.ofText scope cs
    match f x with
    | .ok y => pure (y, rest)
    | .error mismatch => mismatchAt mismatch rest
  ofTree origin tree := d.ofTree origin tree >>= f

def stringAs (expected : String) : Decoder String where
  ofText scope cs :=
    match skipSpace cs with
    | '"' :: rest => readStringBody scope.budget [] rest
    | rest => refuse scope expected rest
  ofTree _ tree :=
    match tree with
    | .string s => .ok s
    | tree => mistyped tree expected

def string : Decoder String := stringAs "a string"

/-- A number written as an integer. -/
def number (expected : String) : Decoder Int where
  ofText scope cs :=
    match skipSpace cs with
    | [] => flawOn .endInValue []
    | c :: rest =>
      if c == '-' || c.isDigit then do
        match ← readNumber (c :: rest) with
        | (.integer n, rest) => pure (n, rest)
        | (.float x, rest) => mismatchAt (.invalidType (.float x) expected) rest
      else refuse scope expected (c :: rest)
  ofTree _ tree :=
    match tree with
    | .number (.integer n) => .ok n
    | tree => mistyped tree expected

/-- A number from zero to `2^64 - 1`; `expected` names the type. -/
def natural (expected : String) : Decoder Nat :=
  (number expected).check fun n =>
    if 0 ≤ n ∧ n < Word.limit then .ok n.toNat else .error (.invalidValue (.integer n) expected)

/-- A number from `-2^63` to `2^63 - 1`. -/
def signed64 : Decoder Int :=
  (number "i64").check fun n =>
    if -(Word.signedLimit : Int) ≤ n ∧ n < Word.signedLimit then .ok n
    else .error (.invalidValue (.integer n) "i64")

/-- Nothing but null. -/
def unit : Decoder Unit where
  ofText scope cs :=
    match skipSpace cs with
    | 'n' :: rest => do pure ((), ← readKeyword ['u', 'l', 'l'] rest)
    | rest => refuse scope "unit" rest
  ofTree _ tree :=
    match tree with
    | .null => .ok ()
    | tree => mistyped tree "unit"

/-- Nothing but null, after a look at whatever is there. -/
def bare (expected : String) : Decoder Unit where
  ofText scope cs :=
    match skipSpace cs with
    | 'n' :: rest => do pure ((), ← readKeyword ['u', 'l', 'l'] rest)
    | rest => refuseInside scope expected rest
  ofTree _ tree :=
    match tree with
    | .null => .ok ()
    | tree => mistyped tree expected

/-- Null or a missing field stand for no value. -/
def optional {α : Type} (d : Decoder α) : Decoder (Option α) where
  ofText scope cs :=
    match skipSpace cs with
    | 'n' :: rest => do pure (none, ← readKeyword ['u', 'l', 'l'] rest)
    | rest => (d.ofText scope rest).map fun (x, rest) => (some x, rest)
  ofTree origin tree :=
    match tree with
    | .null => .ok none
    | tree => (d.ofTree origin tree).map some
  absent := some none

/-! ### Lists -/

/-- Decodes items in order up to the first refusal. -/
def ofItems {α : Type} (d : Decoder α) (origin : Origin) : List Tree → Except Mismatch (List α)
  | [] => .ok []
  | tree :: rest => do
    let x ← d.ofTree origin tree
    let xs ← d.ofItems origin rest
    pure (x :: xs)

def list {α : Type} (d : Decoder α) : Decoder (List α) where
  ofText scope cs :=
    match skipSpace cs with
    | '[' :: rest => descend scope ('[' :: rest) fun inner =>
      closing closeSequence (readItems (d.ofText inner) inner.budget true [] rest)
    | rest => refuse scope "a sequence" rest
  ofTree origin tree :=
    match tree with
    | .array items => d.ofItems origin items
    | tree => mistyped tree "a sequence"

/-! ### Running -/

/-- Decodes a text in one pass. -/
def parse {α : Type} (d : Decoder α) (text : String) : Except Error α :=
  runReader d.ofText text

/-- Decodes a value that stands by itself. -/
def decode {α : Type} (d : Decoder α) (tree : Tree) : Except Mismatch α :=
  d.ofTree .whole tree

/-- Decodes a text by way of its tree. -/
def parseTree {α : Type} (d : Decoder α) (text : String) : Except Error α := do
  let tree ← Tree.parse text
  match d.decode tree with
  | .ok x => pure x
  | .error mismatch => .error ⟨.mismatch mismatch, none⟩

end Decoder

end CitedChat.Json
