import CitedChat.Json.Alternatives
import CitedChat.Json.Printer
import CitedChat.Transcript.Turn

/-!
Sources and turns as JSON. A source is a record of its fields; a turn is a map from its role to its
contents, which are a text, or a text and a list of sources.
-/

set_option autoImplicit false

namespace CitedChat

open Json

namespace Source

def toTree (source : Source) : Tree :=
  .object [
    ("ordinal", .natural source.ordinal),
    ("index", .integer source.index),
    ("citation", .string source.citation),
    ("url", .string source.url),
    ("origin_text", .string source.originText)]

def decoder : Decoder Source :=
  (Decoder.record "struct Source" (
    .cons "ordinal" (.natural "usize") <|
    .cons "index" .signed64 <|
    .cons "citation" .string <|
    .cons "url" .string <|
    .cons "origin_text" .string .nil)).map
  fun (ordinal, index, citation, url, originText, ()) =>
    ⟨ordinal, index, citation, url, originText⟩

end Source

namespace Turn

def toTree : Turn → Tree
  | .user text => .object [("User", .string text)]
  | .assistant text sources =>
    .object [("Assistant", .array [.string text, .array (sources.map Source.toTree)])]

/-- Turns whose sources are written in some way that `source` decodes; `label` names the
assistant's alternative. -/
def decoderWith {σ β : Type} (label : String) (source : Decoder σ) (user : String → β)
    (assistant : String → List σ → β) : Decoder β :=
  Decoder.alternatives [
    ("User", Decoder.holding .string user),
    ("Assistant", Decoder.holdingTuple label
      (.cons "0" .string (.cons "1" (.list source) .nil))
      fun (text, sources, ()) => assistant text sources)]

def decoder : Decoder Turn :=
  decoderWith "tuple variant Turn::Assistant" Source.decoder .user .assistant

end Turn

end CitedChat
