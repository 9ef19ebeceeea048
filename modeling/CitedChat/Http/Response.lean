import CitedChat.Http.MediaType
import CitedChat.Text.Utf8
import CitedChat.Wire.Error

/-!
What a server does with a request: it closes the connection, or it responds. The body of a response
may break off before its declared length, or be followed by silence.
-/

set_option autoImplicit false

namespace CitedChat

/-- What follows the bytes of a body. -/
inductive BodyEnd where
  | complete
  /-- The connection closes before all declared bytes have come. -/
  | cut
  /-- The connection stays open, and nothing more comes. -/
  | silent
  deriving DecidableEq

structure Response where
  status : Nat := 200
  contentType : Option String := some "text/event-stream"
  body : List UInt8 := []
  ending : BodyEnd := .complete

/-- What a server does with one request. -/
inductive Answer where
  | close
  | respond (response : Response)

namespace Response

/-- Responses of these kinds have no body. -/
def isBodiless (r : Response) : Bool :=
  r.status == 204 || r.status == 304

def content (r : Response) : List UInt8 :=
  if r.isBodiless then [] else r.body

def isSilent (r : Response) : Bool :=
  r.ending == .silent && !r.isBodiless

def isCut (r : Response) : Bool :=
  r.ending == .cut && !r.isBodiless

def isSuccess (r : Response) : Bool :=
  200 ≤ r.status && r.status < 300

/-- The value of the content type header; spaces around it do not count. -/
def mediaType (r : Response) : String :=
  let isSpace (c : Char) : Bool := c == ' ' || c == '\t'
  let value := ((r.contentType.getD "").toList.dropWhile isSpace).reverse
  String.ofList (value.dropWhile isSpace).reverse

/-- The body as a text; a byte order mark at its beginning does not count. -/
def text (r : Response) : String :=
  match r.content with
  | 0xef :: 0xbb :: 0xbf :: rest => Text.Utf8.mend rest
  | bytes => Text.Utf8.mend bytes

/-- The body of a refusal; of one that breaks off nothing is kept. -/
def refusalText (r : Response) : String :=
  if r.isCut then "" else r.text

end Response

namespace Answer

/-- The answer leaves the client waiting. -/
def isSilent : Answer → Bool
  | .close => false
  | .respond r => r.isSilent

end Answer

def cutText : String := "error decoding response body"

def unreachableText (url : String) : String :=
  "error sending request for url (" ++ url ++ ")"

/-- The body of a response that is awaited in full. -/
def Answer.wholeBody (url : String) : Answer → Except ServiceError String
  | .close => .error (.http (unreachableText url))
  | .respond r =>
    if !r.isSuccess then .error (.status r.status r.refusalText)
    else if r.isCut then .error (.http cutText)
    else .ok r.text

end CitedChat
