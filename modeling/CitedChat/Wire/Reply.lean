import CitedChat.Wire.Payload

/-!
The reply to a question asked in one exchange: the whole transcript, or the turn that answers. The
sources of a legacy turn go on counting after those of the request; those of a legacy transcript
count from one.
-/

set_option autoImplicit false

namespace CitedChat

open Json

inductive Reply where
  | transcript (turns : List Turn)
  | turn (turn : Turn)
  deriving DecidableEq

/-- A turn whose sources are pairs of a label and an address. -/
inductive LegacyTurn where
  | user (text : String)
  | assistant (text : String) (pairs : List (String × String))

namespace LegacyTurn

def decoder : Decoder LegacyTurn :=
  Turn.decoderWith "tuple variant LegacyTurn::Assistant" (.pair .string .string) .user .assistant

/-- Numbers pairs: the ordinals follow `earlier` sources, the ranks start from `seen`. -/
def number (earlier : Nat) : Nat → List (String × String) → List Source
  | _, [] => []
  | seen, pair :: rest => legacySource earlier seen pair :: number earlier (seen + 1) rest

def upgrade (earlier : Nat) : LegacyTurn → Turn
  | .user text => .user text
  | .assistant text pairs => .assistant text (number earlier 0 pairs)

/-- Each turn counts on from the sources of the turns before it. -/
def upgradeAll : Nat → List LegacyTurn → List Turn
  | _, [] => []
  | earlier, turn :: rest =>
    let upgraded := turn.upgrade earlier
    upgraded :: upgradeAll (earlier + upgraded.sources.length) rest

end LegacyTurn

/-- Decodes a reply; `earlier` sources belong to the request's transcript. -/
def Protocol.decodeReply (protocol : Protocol) (earlier : Nat) (raw : String) :
    Except DecodeError Reply :=
  match Tree.parse raw with
  | .error e => .error (.ofJson e)
  | .ok tree =>
    match tree with
    | .array _ =>
      match protocol with
      | .current =>
        decode (.list Turn.decoder) tree Reply.transcript
      | .legacy =>
        decode (.list LegacyTurn.decoder) tree fun turns =>
          .transcript (LegacyTurn.upgradeAll 0 turns)
    | .object _ =>
      match protocol with
      | .current => decode Turn.decoder tree Reply.turn
      | .legacy => decode LegacyTurn.decoder tree fun turn => .turn (turn.upgrade earlier)
    | _ => .error (.shape ("expected a turn or an array of turns, got " ++ tree.kind))
where
  decode {α : Type} (decoder : Decoder α) (tree : Tree) (f : α → Reply) :
      Except DecodeError Reply :=
    ((decoder.decode tree).map f).mapError DecodeError.ofMismatch

end CitedChat
