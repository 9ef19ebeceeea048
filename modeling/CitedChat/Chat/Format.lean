import CitedChat.Chat.Assembler
import CitedChat.Chat.Event
import CitedChat.Transcript.Format

/-!
Actions, conversations, outcomes, events and counters as JSON. Actions and outcomes carry a tag
beside their contents, events carry it among their fields.
-/

set_option autoImplicit false

namespace CitedChat

open Json

namespace Action

def toTree (action : Action) : Tree :=
  .object [("type", .string action.name), ("payload",
    match action with
    | .addTurn turn => turn.toTree
    | .appendText fragment => .string fragment
    | .appendSource source => source.toTree)]

def decoder : Decoder Action :=
  Decoder.Tagged.decoder {
    expected := "adjacently tagged enum Action"
    tagKey := "type"
    contentKey := "payload"
    known := [
      ("add_turn", none, Turn.decoder.map .addTurn),
      ("append_assistant_text", none, Decoder.string.map .appendText),
      ("append_assistant_source", none, Source.decoder.map .appendSource)] }

end Action

namespace Conversation

def toTree (c : Conversation) : Tree :=
  .array (c.turns.map Turn.toTree)

def decoder : Decoder Conversation :=
  (Decoder.list Turn.decoder).map fun turns => ⟨turns⟩

end Conversation

namespace Outcome

def kind : Outcome → String
  | .finished => "finished"
  | .incomplete => "incomplete"
  | .timedOut => "timed_out"
  | .cancelled => "cancelled"
  | .halted => "halted"
  | .failed _ => "failed"

def toTree (outcome : Outcome) : Tree :=
  .object (("kind", .string outcome.kind) ::
    match outcome with
    | .failed detail => [("detail", .string detail)]
    | _ => [])

/-- An outcome without contents; null may stand for them. -/
def plain (outcome : Outcome) (label : String) : String × Option Outcome × Decoder Outcome :=
  (outcome.kind, some outcome,
    (Decoder.bare ("unit variant TurnOutcome::" ++ label)).map fun _ => outcome)

def decoder : Decoder Outcome :=
  Decoder.Tagged.decoder {
    expected := "adjacently tagged enum TurnOutcome"
    tagKey := "kind"
    contentKey := "detail"
    known := [
      plain .finished "Finished", plain .incomplete "Incomplete", plain .timedOut "TimedOut",
      plain .cancelled "Cancelled", plain .halted "Halted",
      ("failed", none, Decoder.string.map .failed)] }

end Outcome

namespace Event

def kind : Event → String
  | .turnStart _ => "turn_start"
  | .updated _ _ => "updated"
  | .decodeError _ _ => "decode_error"
  | .warning _ _ => "warning"
  | .turnEnd _ _ => "turn_end"
  | .error _ => "error"

def fields : Event → List (String × Tree)
  | .turnStart generation => [("generation", .natural generation)]
  | .updated generation conversation =>
    [("generation", .natural generation), ("conversation", conversation.toTree)]
  | .decodeError generation message | .warning generation message =>
    [("generation", .natural generation), ("message", .string message)]
  | .turnEnd generation outcome =>
    [("generation", .natural generation), ("outcome", outcome.toTree)]
  | .error message => [("message", .string message)]

def toTree (event : Event) : Tree :=
  .object (("type", .string event.kind) :: event.fields)

def label (name : String) : String := "struct variant ChatEvent::" ++ name

def generation : Decoder Nat := .natural "u64"

/-- Fields of an event: a generation and one thing more. -/
def generationAnd {α : Type} (name field : String) (d : Decoder α) (f : Nat → α → Event) :
    Decoder Event :=
  (Decoder.record (label name) (.cons "generation" generation (.cons field d .nil))).map
    fun (generation, x, ()) => f generation x

def decoder : Decoder Event :=
  Decoder.SelfTagged.decoder {
    expected := "internally tagged enum ChatEvent"
    tagKey := "type"
    known := [
      ("turn_start",
        (Decoder.record (label "TurnStart") (.cons "generation" generation .nil)).map
          fun (generation, ()) => .turnStart generation),
      ("updated", generationAnd "Updated" "conversation" Conversation.decoder .updated),
      ("decode_error", generationAnd "DecodeError" "message" .string .decodeError),
      ("warning", generationAnd "Warning" "message" .string .warning),
      ("turn_end", generationAnd "TurnEnd" "outcome" Outcome.decoder .turnEnd),
      ("error", (Decoder.record (label "Error") (.cons "message" .string .nil)).map
        fun (message, ()) => .error message)] }

end Event

namespace AssemblerStats

def toTree (stats : AssemblerStats) : Tree :=
  .object [
    ("fragments", .natural stats.fragments),
    ("sources", .natural stats.sources),
    ("rejected", .natural stats.rejected),
    ("ignored", .natural stats.ignored)]

def decoder : Decoder AssemblerStats :=
  (Decoder.record "struct AssemblerStats" (
    .cons "fragments" (.natural "usize") <|
    .cons "sources" (.natural "usize") <|
    .cons "rejected" (.natural "usize") <|
    .cons "ignored" (.natural "usize") .nil)).map
  fun (fragments, sources, rejected, ignored, ()) => ⟨fragments, sources, rejected, ignored⟩

end AssemblerStats

def DecodePolicy.decoder : Decoder DecodePolicy :=
  Decoder.choice [("skip", .skip), ("halt", .halt)]

end CitedChat
