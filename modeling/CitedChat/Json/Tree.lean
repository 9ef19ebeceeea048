/-!
JSON values. An object keeps its members in the order in which they were written; `Tree.sorted`
gives the form in which every key occurs once, the last occurrence winning, in ascending order of
the keys' bytes.
-/

set_option autoImplicit false

namespace CitedChat.Json

/-- Whole numbers between `-2^63` and `2^64 - 1` are kept exactly, all others as doubles. -/
inductive Number where
  | integer (value : Int)
  | float (value : Float)

inductive Tree where
  | null
  | bool (value : Bool)
  | number (value : Number)
  | string (value : String)
  | array (items : List Tree)
  | object (members : List (String × Tree))

namespace Tree

instance : Inhabited Tree := ⟨.null⟩

def natural (n : Nat) : Tree :=
  .number (.integer n)

def integer (n : Int) : Tree :=
  .number (.integer n)

/-- The value under a key, the last one if the key is repeated. -/
def lookup (key : String) (members : List (String × Tree)) : Option Tree :=
  (members.reverse.find? (·.1 == key)).map (·.2)

/-- Puts a member in its place among members that ascend; a member of the same key is replaced. -/
def insertMember (key : String) (tree : Tree) : List (String × Tree) → List (String × Tree)
  | [] => [(key, tree)]
  | (k, t) :: rest =>
    if key < k then (key, tree) :: (k, t) :: rest
    else if key == k then (key, tree) :: rest
    else (k, t) :: insertMember key tree rest

mutual

def sorted : Tree → Tree
  | .array items => .array (sortedItems items)
  | .object members => .object (sortedMembers members []) 
  | tree => tree

def sortedItems : List Tree → List Tree
  | [] => []
  | item :: rest => item.sorted :: sortedItems rest

def sortedMembers : List (String × Tree) → List (String × Tree) → List (String × Tree)
  | [], done => done
  | (key, tree) :: rest, done => sortedMembers rest (insertMember key tree.sorted done)

end

/-- The kind of a value, as messages name it. -/
def kind : Tree → String
  | .null => "null"
  | .bool _ => "a boolean"
  | .number _ => "a number"
  | .string _ => "a string"
  | .array _ => "an array"
  | .object _ => "an object"

end Tree

end CitedChat.Json
