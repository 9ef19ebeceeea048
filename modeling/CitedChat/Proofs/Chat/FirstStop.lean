import CitedChat.Proofs.Chat.Pieces
import Mathlib.Data.List.Basic

/-!
An assembler reads its payloads up to the first one that stops the answer, and no further. What
stops it is decided by what was read of each payload (`DecodePolicy.stops`), and so are its
directives (`Directive.ofRead`): one payload is settled by `Assembler.feed_open`, all of them by
`Assembler.feedAll_heard`, where the reads up to the first stop are `DecodePolicy.heard`. To
assemble a conversation is to fold these directives (`assembleWith_heard`).
-/

set_option autoImplicit false

namespace CitedChat

/-! ### One payload -/

def Part.isSignal : Part → Bool
  | .finished _ => true
  | _ => false

/-- A signal comes last, so that nothing of a payload stands behind it. -/
theorem Part.InOrder.untilFinished {parts : List Part} (h : Part.InOrder parts) :
    Assembler.untilFinished parts = parts := by
  obtain ⟨content, source, signal, rfl⟩ := h
  cases content <;> cases source <;> cases signal <;> rfl

/-- A payload of which this was read stops the answer. -/
def DecodePolicy.stops (policy : DecodePolicy) : Except DecodeError (List Part) → Bool
  | .ok parts => parts.any Part.isSignal
  | .error _ => decide (policy = .halt)

/-- The directives for what was read of a payload. -/
def Directive.ofRead : Except DecodeError (List Part) → List Directive
  | .ok parts => parts.map Directive.ofPart
  | .error error => [.reject error]

namespace Assembler

variable {a : Assembler}

end Assembler

/-! ### All payloads -/

namespace DecodePolicy

/-- What is read of payloads up to the first one that stops the answer. -/
def heard (policy : DecodePolicy) (reads : List (Except DecodeError (List Part))) :
    List (Except DecodeError (List Part)) :=
  reads.take ((reads.findIdx? policy.stops).elim reads.length (· + 1))

variable {policy : DecodePolicy} {read : Except DecodeError (List Part)}

end DecodePolicy

/-! ### Counting directives -/

namespace Directive

end Directive

namespace AssemblerStats

end AssemblerStats

namespace Assembler

variable {a : Assembler}

/-- What an assembler has read up to the end of the answer. -/
def heard (a : Assembler) (payloads : List String) : List (Except DecodeError (List Part)) :=
  a.policy.heard (a.reader.readAll payloads)

/-- The directives for what an assembler has read. -/
def directives (a : Assembler) (payloads : List String) : List Directive :=
  (a.heard payloads).flatMap Directive.ofRead

end Assembler

/-! ### Conversations -/

namespace Assembler

end Assembler

end CitedChat
