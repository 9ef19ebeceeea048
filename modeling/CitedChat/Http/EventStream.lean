/-!
The framing of an event stream. A stream is a sequence of lines; a line is a comment, a field or
empty, and an empty line dispatches the message that the fields before it describe. A message
without data is none. What the end of the stream leaves without an empty line is dropped.
-/

set_option autoImplicit false

namespace CitedChat.EventStream

/-- A message as it is dispatched. -/
structure Message where
  event : String
  data : String
  deriving DecidableEq

/-- The finished lines. A line ends with a line feed, a carriage return or both; a carriage return
at the very end may still be followed by its line feed, so its line is not finished. `line` holds
the line that has begun, last character first. -/
def linesFrom (line : List Char) : List Char → List (List Char)
  | [] => []
  | ['\r'] => []
  | '\r' :: '\n' :: rest => line.reverse :: linesFrom [] rest
  | '\r' :: rest => line.reverse :: linesFrom [] rest
  | '\n' :: rest => line.reverse :: linesFrom [] rest
  | c :: rest => linesFrom (c :: line) rest

/-- A byte order mark at the beginning does not count. -/
def lines : List Char → List (List Char)
  | '\ufeff' :: rest => linesFrom [] rest
  | cs => linesFrom [] cs

/-- A name and a value, which a colon separates; one space behind the colon does not count. A
comment is a line with an empty name. -/
def field (line : List Char) : String × String :=
  let value :=
    match line.dropWhile (· ≠ ':') with
    | ':' :: ' ' :: value => value
    | ':' :: value => value
    | _ => []
  (String.ofList (line.takeWhile (· ≠ ':')), String.ofList value)

/-- The fields since the last empty line. -/
structure Draft where
  event : String := ""
  /-- The lines of data, last one first. -/
  data : List String := []

namespace Draft

def add (draft : Draft) (line : List Char) : Draft :=
  match field line with
  | ("event", value) => { draft with event := value }
  | ("data", value) => { draft with data := value :: draft.data }
  | _ => draft

/-- The message that a draft describes; its event is `message` unless it names another one. -/
def message? (draft : Draft) : Option Message :=
  if draft.data.isEmpty then none
  else some
    { event := if draft.event.isEmpty then "message" else draft.event
      data := String.intercalate "\n" draft.data.reverse }

end Draft

def dispatch (draft : Draft) : List (List Char) → List Message
  | [] => []
  | [] :: rest => draft.message?.toList ++ dispatch {} rest
  | line :: rest => dispatch (draft.add line) rest

/-- The messages of a stream. -/
def messages (text : List Char) : List Message :=
  dispatch {} (lines text)

end CitedChat.EventStream
