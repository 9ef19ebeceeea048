import CitedChat.Http.Server

/-!
Requests and responses as bytes on a connection. A response is read from the bytes that have come so
far: how long its body is, its head says, and a body whose end has not come is followed by silence
until the connection closes.
-/

set_option autoImplicit false

namespace CitedChat

/-- The bytes of a request to a host; the connection closes after its answer. -/
def Request.bytes (r : Request) (host : String) : List UInt8 :=
  let body := Text.Utf8.encode r.body
  let head := "\r\n".intercalate
    [Request.method ++ " " ++ r.target ++ " HTTP/1.1",
     "host: " ++ host,
     "accept: " ++ r.accept,
     "content-type: " ++ Request.contentType,
     "content-length: " ++ toString body.length,
     "connection: close",
     "\r\n"]
  Text.Utf8.encode head ++ body

namespace Response

/-- Whether a body is known to have come in full, and what has come of it. -/
structure Arrival where
  bytes : List UInt8
  isComplete : Bool
  /-- Whether the head says how long the body is. -/
  isMeasured : Bool

/-- The lines of a head, and the bytes behind its empty line. `line` holds the bytes of the line
that has begun, last one first. -/
def splitHead (line : List UInt8) : List UInt8 → Option (List String × List UInt8)
  | [] => none
  | b :: rest =>
    if b == 10 then
      let text := (line.dropWhile (· == 13)).reverse
      if text.isEmpty then some ([], rest)
      else (splitHead [] rest).map fun (lines, body) => (Text.Utf8.mend text :: lines, body)
    else splitHead (b :: line) rest

def isSpace (c : Char) : Bool :=
  c == ' ' || c == '\t'

/-- A header as a name in lower case and a value. -/
def header (line : String) : String × String :=
  let cs := line.toList
  let value := (((cs.dropWhile (· ≠ ':')).drop 1).dropWhile isSpace).reverse.dropWhile isSpace
  (String.ofList ((cs.takeWhile (· ≠ ':')).map Char.toLower), String.ofList value.reverse)

/-- The status that the first line of a head gives. -/
def status? (line : String) : Option Nat :=
  match line.toList.dropWhile (· ≠ ' ') with
  | ' ' :: a :: b :: c :: _ =>
    if line.startsWith "HTTP/1." then (String.ofList [a, b, c]).toNat? else none
  | _ => none

def hexDigit? (b : UInt8) : Option Nat :=
  let c := Char.ofNat b.toNat
  if c.isDigit then some (c.toNat - '0'.toNat)
  else if 'a' ≤ c && c ≤ 'f' then some (c.toNat - 'a'.toNat + 10)
  else if 'A' ≤ c && c ≤ 'F' then some (c.toNat - 'A'.toNat + 10)
  else none

/-- The size at the beginning of a chunk. -/
def chunkSize (bytes : List UInt8) : Nat :=
  (bytes.takeWhile fun b => (hexDigit? b).isSome).foldl
    (fun n b => n * 16 + (hexDigit? b).getD 0) 0

/-- The body behind chunk marks, as far as it has come; the number bounds the steps. -/
def chunks : Nat → List UInt8 → Arrival
  | 0, _ => ⟨[], false, true⟩
  | bound + 1, bytes =>
    match bytes.dropWhile (· ≠ 10) with
    | [] => ⟨[], false, true⟩
    | _ :: rest =>
      let size := chunkSize bytes
      if size == 0 then ⟨[], true, true⟩
      else if rest.length < size + 2 then ⟨rest.take size, false, true⟩
      else
        let more := chunks bound (rest.drop (size + 2))
        { more with bytes := rest.take size ++ more.bytes }

/-- What has come of a body. -/
def arrival (headers : List (String × String)) (bytes : List UInt8) : Arrival :=
  if (headers.lookup "transfer-encoding").any (·.toLower == "chunked") then
    chunks bytes.length bytes
  else
    match (headers.lookup "content-length").bind String.toNat? with
    | some length => ⟨bytes.take length, length ≤ bytes.length, true⟩
    | none => ⟨bytes, false, false⟩

/-- The response that some bytes give; none while its head is incomplete. -/
def ofBytes? (isClosed : Bool) (bytes : List UInt8) : Option Response := do
  let (head, rest) ← splitHead [] bytes
  let first :: lines := head | none
  let headers := lines.map header
  let body := arrival headers rest
  pure
    { status := ← status? first
      contentType := headers.lookup "content-type"
      body := body.bytes
      ending :=
        if body.isComplete || (isClosed && !body.isMeasured) then .complete
        else if isClosed then .cut
        else .silent }

end Response

/-- The answer that some bytes give; none while it is not clear that there is a response. -/
def Answer.ofBytes? (isClosed : Bool) (bytes : List UInt8) : Option Answer :=
  match Response.ofBytes? isClosed bytes with
  | some r => some (.respond r)
  | none => if isClosed then some .close else none

end CitedChat
