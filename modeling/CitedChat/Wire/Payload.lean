import CitedChat.Text.Characters
import CitedChat.Transcript.Format

/-!
What the service sends while it answers. A payload is a JSON object that brings a fragment of the
answer, a source, a signal that the answer is complete, or several of these. The current protocol
sends whole source records. The legacy protocol sends pairs of a label and an address, which are
numbered as they arrive, and ends the answer by a payload that brings nothing.
-/

set_option autoImplicit false

namespace CitedChat

open Json

inductive Protocol where
  | current
  | legacy
  deriving DecidableEq, Inhabited

def Protocol.name : Protocol → String
  | .current => "current"
  | .legacy => "legacy"

def Protocol.decoder : Decoder Protocol :=
  Decoder.choice [("current", .current), ("legacy", .legacy)]

/-- A payload or reply that was refused: no JSON at all, or JSON of another shape. -/
inductive DecodeError where
  | malformed (detail : String)
  | shape (detail : String)
  deriving DecidableEq

namespace DecodeError

def message : DecodeError → String
  | .malformed detail => "malformed JSON payload: " ++ detail
  | .shape detail => "unexpected payload shape: " ++ detail

def ofJson (e : Json.Error) : DecodeError :=
  match e.category with
  | .misshapen => .shape e.message
  | _ => .malformed e.message

def ofMismatch (m : Mismatch) : DecodeError :=
  .shape m.message

end DecodeError

/-- A piece of a payload. Those of one payload come in the order of these constructors. -/
inductive Part where
  | content (text : String)
  | source (source : Source)
  | finished (signal : String)
  deriving DecidableEq

/-- A payload of the current protocol. -/
structure Payload where
  content : Option String := none
  source : Option Source := none
  finished : Option String := none
  deriving DecidableEq

namespace Payload

/-- Absent fields are not written. -/
def toTree (payload : Payload) : Tree :=
  .object (
    (payload.content.map fun text => ("content", Tree.string text)).toList ++
    (payload.source.map fun source => ("source", source.toTree)).toList ++
    (payload.finished.map fun signal => ("finished", Tree.string signal)).toList)

def decoder : Decoder Payload :=
  (Decoder.record "struct StreamPayload" (
    .cons "content" (.optional .string) <|
    .cons "source" (.optional Source.decoder) <|
    .cons "finished" (.optional .string) .nil)).map
  fun (content, source, finished, ()) => ⟨content, source, finished⟩

/-- An empty fragment contributes nothing. -/
def parts (payload : Payload) : List Part :=
  ((payload.content.filter fun text => !text.isEmpty).map Part.content).toList ++
  (payload.source.map Part.source).toList ++
  (payload.finished.map Part.finished).toList

end Payload

/-- A payload of the legacy protocol. -/
structure LegacyPayload where
  content : Option String
  /-- Label and address. -/
  source : Option (String × String)
  finished : Option String
  deriving DecidableEq

/-- The serial number has to be one, but says nothing. -/
def LegacyPayload.decoder : Decoder LegacyPayload :=
  (Decoder.record "struct LegacyPayload" (
    .cons "serial" (.optional (.natural "u64")) <|
    .cons "content" (.optional .string) <|
    .cons "source" (.optional (.pair .string .string)) <|
    .cons "finished" (.optional .string) .nil)).map
  fun (_, content, source, finished, ()) => ⟨content, source, finished⟩

/-- The source made of a legacy pair: `seen` sources came before it in its turn, and `earlier`
ones before the turn. -/
def legacySource (earlier seen : Nat) (pair : String × String) : Source :=
  ⟨earlier + seen + 1, seen, pair.1, pair.2, ""⟩

/-- The state of decoding one answer. The counts matter to the legacy protocol alone. -/
structure PayloadReader where
  protocol : Protocol
  /-- Sources of the transcript before this answer. -/
  earlier : Nat
  /-- Sources of this answer so far. -/
  seen : Nat := 0

def parseObject (raw : String) : Except DecodeError Tree :=
  match Tree.parse raw with
  | .error e => .error (.ofJson e)
  | .ok (.object members) => .ok (.object members)
  | .ok tree => .error (.shape ("expected a JSON object, got " ++ tree.kind))

/-- Decodes a payload that has to be an object. -/
def decodeObject {α : Type} (decoder : Decoder α) (raw : String) : Except DecodeError α := do
  let tree ← parseObject raw
  (decoder.decode tree).mapError DecodeError.ofMismatch

namespace PayloadReader

/-- The parts of a legacy payload; one that brings neither text nor source ends the answer. -/
def legacyParts (r : PayloadReader) (payload : LegacyPayload) : List Part :=
  let content := ((payload.content.filter fun text => !text.isEmpty).map Part.content).toList
  let source :=
    (payload.source.map fun pair => Part.source (legacySource r.earlier r.seen pair)).toList
  let finished :=
    match payload.finished with
    | some signal => [Part.finished signal]
    | none => if (content ++ source).isEmpty then [Part.finished ""] else []
  content ++ source ++ finished

/-- Two bare texts that end an answer of the legacy protocol. -/
def isLegacyEnd (text : String) : Bool :=
  text == "[0]" || text == "[DONE]"

def read (r : PayloadReader) (raw : String) : Except DecodeError (List Part × PayloadReader) :=
  match r.protocol with
  | .current => do
    let payload ← decodeObject Payload.decoder raw
    pure (payload.parts, r)
  | .legacy =>
    let trimmed := Text.trim raw
    if isLegacyEnd trimmed then .ok ([.finished trimmed], r)
    else do
      let payload ← decodeObject LegacyPayload.decoder raw
      pure (r.legacyParts payload,
        { r with seen := r.seen + (if payload.source.isSome then 1 else 0) })

/-- Decodes payloads in turn; a refused one changes nothing. -/
def readAll : PayloadReader → List String → List (Except DecodeError (List Part))
  | _, [] => []
  | r, raw :: rest =>
    match r.read raw with
    | .ok (parts, r) => .ok parts :: r.readAll rest
    | .error e => .error e :: r.readAll rest

end PayloadReader

end CitedChat
