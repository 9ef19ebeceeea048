import CitedChat.Chat.Conversation
import CitedChat.Wire.Payload

/-!
Assembling an answer from payloads. Each payload gives directives; the answer is complete at the
first signal, and a payload that cannot be decoded is dropped or, under the other policy, ends the
answer. After its end every payload is ignored.
-/

set_option autoImplicit false

namespace CitedChat

/-- What a payload that cannot be decoded does to the answer. -/
inductive DecodePolicy where
  | skip
  | halt
  deriving DecidableEq, Inhabited

def DecodePolicy.name : DecodePolicy → String
  | .skip => "skip"
  | .halt => "halt"

inductive Directive where
  | apply (action : Action)
  | finish (signal : String)
  | reject (error : DecodeError)
  deriving DecidableEq

/-- The directive of each part. -/
def Directive.ofPart : Part → Directive
  | .content text => .apply (.appendText text)
  | .source source => .apply (.appendSource source)
  | .finished signal => .finish signal

inductive AssemblerState where
  | streaming
  | finished
  | halted
  deriving DecidableEq, Inhabited

def AssemblerState.name : AssemblerState → String
  | .streaming => "streaming"
  | .finished => "finished"
  | .halted => "halted"

structure AssemblerStats where
  fragments : Nat := 0
  sources : Nat := 0
  rejected : Nat := 0
  /-- Payloads that came after the end. -/
  ignored : Nat := 0
  deriving DecidableEq, Inhabited

/-- Counts a directive. -/
def AssemblerStats.count (s : AssemblerStats) : Directive → AssemblerStats
  | .apply (.appendText _) => { s with fragments := s.fragments + 1 }
  | .apply (.appendSource _) => { s with sources := s.sources + 1 }
  | .apply (.addTurn _) => s
  | .finish _ => s
  | .reject _ => { s with rejected := s.rejected + 1 }

structure Assembler where
  reader : PayloadReader
  policy : DecodePolicy
  state : AssemblerState := .streaming
  stats : AssemblerStats := {}

namespace Assembler

/-- An assembler for an answer that follows `earlier` sources. -/
def start (protocol : Protocol) (earlier : Nat) (policy : DecodePolicy) : Assembler where
  reader := { protocol, earlier }
  policy

def isDone (a : Assembler) : Bool :=
  a.state != .streaming

/-- The parts up to and including the first signal. -/
def untilFinished : List Part → List Part
  | [] => []
  | .finished signal :: _ => [.finished signal]
  | part :: rest => part :: untilFinished rest

theorem untilFinished_isPrefix (parts : List Part) : untilFinished parts <+: parts := by
  induction parts with
  | nil => exact List.prefix_rfl
  | cons part rest ih =>
    cases part with
    | finished signal => exact ⟨rest, rfl⟩
    | content text => exact (List.prefix_cons_inj _).2 ih
    | source source => exact (List.prefix_cons_inj _).2 ih

def isFinish : Directive → Bool
  | .finish _ => true
  | _ => false

def feed (a : Assembler) (raw : String) : List Directive × Assembler :=
  if a.isDone then ([], { a with stats.ignored := a.stats.ignored + 1 })
  else
    match a.reader.read raw with
    | .error e =>
      let state := if a.policy = .halt then .halted else a.state
      ([.reject e], { a with state, stats := a.stats.count (.reject e) })
    | .ok (parts, reader) =>
      let directives := (untilFinished parts).map Directive.ofPart
      let state := if directives.any isFinish then .finished else a.state
      (directives, { a with reader, state, stats := directives.foldl .count a.stats })

theorem feed_of_isDone (a : Assembler) (raw : String) (h : a.isDone = true) :
    a.feed raw = ([], { a with stats.ignored := a.stats.ignored + 1 }) := by
  simp [feed, h]

/-- The directives of payloads fed in turn. -/
def feedAll (a : Assembler) : List String → List (List Directive) × Assembler
  | [] => ([], a)
  | raw :: rest =>
    let (directives, a) := a.feed raw
    let (more, a) := a.feedAll rest
    (directives :: more, a)

end Assembler

/-- The actions among directives, in order. -/
def Directive.actions : List Directive → List Action
  | [] => []
  | .apply action :: rest => action :: actions rest
  | _ :: rest => actions rest

structure Assembled where
  conversation : Conversation
  state : AssemblerState
  stats : AssemblerStats
  deriving DecidableEq

/-- Folds payloads into a conversation until the answer ends or an action is refused. -/
def assembleWith (a : Assembler) (c : Conversation) : List String → Except StoreError Assembled
  | [] => .ok ⟨c, a.state, a.stats⟩
  | raw :: rest => do
    let (directives, a) := a.feed raw
    let c ← c.applyAll (Directive.actions directives)
    if a.isDone then pure ⟨c, a.state, a.stats⟩ else assembleWith a c rest

/-- Folds payloads into a conversation that ends with the answer's turn. -/
def assemble (c : Conversation) (payloads : List String) (protocol : Protocol)
    (policy : DecodePolicy) : Except StoreError Assembled :=
  assembleWith (.start protocol c.sourceCount policy) c payloads

end CitedChat
