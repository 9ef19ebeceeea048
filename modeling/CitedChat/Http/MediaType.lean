/-!
Media types, as far as telling whether a response is an event stream takes: a type and subtype in
any case, and behind a semicolon parameters, which have to be well formed.
-/

set_option autoImplicit false

namespace CitedChat.MediaType

def isTokenChar (c : Char) : Bool :=
  c.isAlphanum || "!#$%&'*+-.^_|~".toList.contains c || c == '\x60'

/-- Where a reader of parameters is. -/
inductive Place where
  /-- Before a parameter. -/
  | gap
  | name
  /-- Right behind the equals sign. -/
  | value
  | plain
  /-- Right behind the opening quote, where another quote does not close. -/
  | openQuote
  | quoted
  | closed
  | broken
  deriving DecidableEq

namespace Place

def next (place : Place) (c : Char) : Place :=
  match place with
  | .gap => if c == ' ' then .gap else if isTokenChar c then .name else .broken
  | .name => if c == '=' then .value else if isTokenChar c then .name else .broken
  | .value => if c == '"' then .openQuote else if isTokenChar c then .plain else .broken
  | .plain => if c == ';' then .gap else if isTokenChar c then .plain else .broken
  | .openQuote => if c.toNat < 0x20 then .broken else .quoted
  | .quoted => if c == '"' then .closed else if c.toNat < 0x20 then .broken else .quoted
  | .closed => if c == ';' then .gap else if c == ' ' then .closed else .broken
  | .broken => .broken

/-- Where parameters may end. -/
def isFinal : Place → Bool
  | .gap | .value | .plain | .closed => true
  | _ => false

end Place

/-- Parameters begin behind the semicolon. -/
def hasGoodParameters (text : List Char) : Bool :=
  (text.foldl Place.next .gap).isFinal

/-- Whether the value of a content type header is visible text. -/
def isVisible (c : Char) : Bool :=
  c == '\t' || (0x20 ≤ c.toNat && c.toNat < 0x7f)

def isEventStream (value : String) : Bool :=
  let cs := value.toList
  cs.all isVisible &&
    (cs.takeWhile (· ≠ ';')).map Char.toLower == "text/event-stream".toList &&
      hasGoodParameters ((cs.dropWhile (· ≠ ';')).drop 1)

end CitedChat.MediaType
