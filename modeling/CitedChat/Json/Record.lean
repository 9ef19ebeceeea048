import CitedChat.Json.Decoder

/-!
Records and tuples. A record is written as a map from its field names, in any order and beside
other keys, or as a sequence of its fields in declaration order; a tuple is written as such a
sequence only.
-/

set_option autoImplicit false

namespace CitedChat.Json

/-- Named fields in declaration order. Together they decode a product of their types; the first
index is the type of their slots, in which a field not read yet is missing. -/
inductive Fields : Type → Type → Type 1 where
  | nil : Fields Unit Unit
  | cons {α σ τ : Type} (name : String) (decoder : Decoder α) (rest : Fields σ τ) :
      Fields (Option α × σ) (α × τ)

namespace Fields

def count : {σ τ : Type} → Fields σ τ → Nat
  | _, _, .nil => 0
  | _, _, .cons _ _ rest => rest.count + 1

def empty : {σ τ : Type} → Fields σ τ → σ
  | _, _, .nil => ()
  | _, _, .cons _ _ rest => (none, rest.empty)

/-- What a known key leads to: whether its slot is taken, and how its value fills it. -/
structure Entry (σ : Type) where
  taken : Bool
  fill : Decoder σ

def entry (key : String) : {σ τ : Type} → Fields σ τ → σ → Option (Entry σ)
  | _, _, .nil, _ => none
  | _, _, .cons name decoder rest, (slot, slots) =>
    if key == name then some ⟨slot.isSome, decoder.map fun x => (some x, slots)⟩
    else (rest.entry key slots).map fun e => ⟨e.taken, e.fill.map fun s => (slot, s)⟩

/-- The values of all fields, or the first one missing. -/
def finish : {σ τ : Type} → Fields σ τ → σ → Except Mismatch τ
  | _, _, .nil, _ => .ok ()
  | _, _, .cons name decoder rest, (slot, slots) => do
    let x ← match slot <|> decoder.absent with
      | some x => pure x
      | none => .error (.missingField name)
    let xs ← rest.finish slots
    pure (x, xs)

/-! ### From a tree -/

def ofMembers {σ τ : Type} (fs : Fields σ τ) (origin : Origin) :
    σ → List (String × Tree) → Except Mismatch τ
  | slots, [] => fs.finish slots
  | slots, (key, tree) :: rest =>
    match fs.entry key slots with
    | none => fs.ofMembers origin slots rest
    | some e =>
      if e.taken then .error (.duplicateField key)
      else do
        let slots ← e.fill.ofTree origin tree
        fs.ofMembers origin slots rest

/-- The fields in order, with the items left over; `index` counts the fields before these. -/
def ofItems (origin : Origin) (expected : String) :
    {σ τ : Type} → Fields σ τ → Nat → List Tree → Except Mismatch (τ × List Tree)
  | _, _, .nil, _, items => .ok ((), items)
  | _, _, .cons _ decoder rest, index, item :: items => do
    let x ← decoder.ofTree origin item
    let (xs, left) ← rest.ofItems origin expected (index + 1) items
    pure ((x, xs), left)
  | _, _, .cons _ decoder rest, index, [] =>
    match decoder.absent with
    | none => .error (.invalidLength index expected)
    | some x => do
      let (xs, left) ← rest.ofItems origin expected (index + 1) []
      pure ((x, xs), left)

/-- Refuses items beyond the fields. A value by itself counts them all; one held back says how many
there should have been. -/
def ofWholeSequence {σ τ : Type} (fs : Fields σ τ) (origin : Origin) (expected : String)
    (items : List Tree) : Except Mismatch τ := do
  let (x, left) ← fs.ofItems origin expected 0 items
  if left.isEmpty then pure x
  else match origin with
    | .whole => .error (.invalidLength items.length "fewer elements in array")
    | .heldBack =>
      let n := items.length - left.length
      .error (.invalidLength items.length
        (toString n ++ (if n == 1 then " element in sequence" else " elements in sequence")))

/-! ### From text -/

def readMembers {σ τ : Type} (fs : Fields σ τ) (scope : Scope) : Nat → Bool → σ → Reader τ
  | 0, _, _, cs => flawOn .endInObject cs
  | budget + 1, first, slots, cs => do
    match ← seekKey first cs with
    | (false, rest) =>
      match fs.finish slots with
      | .ok x => pure (x, rest)
      | .error mismatch => .error (.loose mismatch rest)
    | (true, rest) =>
      let (key, rest) ← readStringBody scope.budget [] rest
      match fs.entry key slots with
      | none =>
        let rest ← readColon rest
        let rest ← skipTree scope.budget scope.budget [] rest
        fs.readMembers scope budget false slots rest
      | some e =>
        if e.taken then .error (.loose (.duplicateField key) rest)
        else
          let rest ← readColon rest
          let (slots, rest) ← e.fill.ofText scope rest
          fs.readMembers scope budget false slots rest

def readItems (scope : Scope) (expected : String) :
    {σ τ : Type} → Fields σ τ → Nat → Bool → Reader τ
  | _, _, .nil, _, _, cs => .ok ((), cs)
  | _, _, .cons _ decoder rest, index, first, cs => do
    match ← seekItem first cs with
    | (true, more) =>
      let (x, more) ← decoder.ofText scope more
      let (xs, more) ← rest.readItems scope expected (index + 1) false more
      pure ((x, xs), more)
    | (false, more) =>
      match decoder.absent with
      | none => .error (.loose (.invalidLength index expected) more)
      | some x =>
        let (xs, more) ← rest.readItems scope expected (index + 1) first more
        pure ((x, xs), more)

/-- The name of a record or tuple with its size. -/
def sized {σ τ : Type} (fs : Fields σ τ) (name : String) : String :=
  name ++ " with " ++ toString fs.count ++ (if fs.count == 1 then " element" else " elements")

def readSequence {σ τ : Type} (fs : Fields σ τ) (scope : Scope) (expected : String)
    (rest : List Char) : Except Fault (τ × List Char) :=
  descend scope ('[' :: rest) fun inner =>
    closing closeSequence (fs.readItems inner expected 0 true rest)

end Fields

namespace Decoder

/-- A record under a name such as "struct Source". -/
def record {σ τ : Type} (name : String) (fs : Fields σ τ) : Decoder τ where
  ofText scope cs :=
    match skipSpace cs with
    | '[' :: rest => fs.readSequence scope (fs.sized name) rest
    | '\x7b' :: rest => descend scope ('\x7b' :: rest) fun inner =>
      closing closeMap (fs.readMembers inner inner.budget true fs.empty rest)
    | rest => refuse scope name rest
  ofTree origin tree :=
    match tree with
    | .array items => fs.ofWholeSequence origin (fs.sized name) items
    | .object members => fs.ofMembers origin fs.empty members
    | tree => mistyped tree name

/-- A sequence of exactly the given fields; `short` says what is expected where one is missing. -/
def tuple {σ τ : Type} (expected short : String) (fs : Fields σ τ) : Decoder τ where
  ofText scope cs :=
    match skipSpace cs with
    | '[' :: rest => fs.readSequence scope short rest
    | rest => refuse scope expected rest
  ofTree origin tree :=
    match tree with
    | .array items => fs.ofWholeSequence origin short items
    | tree => mistyped tree expected

def pair {α β : Type} (a : Decoder α) (b : Decoder β) : Decoder (α × β) :=
  (tuple "a tuple of size 2" "a tuple of size 2"
    (.cons "0" a (.cons "1" b .nil))).map fun (x, y, ()) => (x, y)

end Decoder

end CitedChat.Json
