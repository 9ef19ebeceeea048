/-!
A transcript is a list of turns. The human's turns are texts; the assistant's turns carry an answer
and the sources it cites, in the order of their arrival.
-/

set_option autoImplicit false

namespace CitedChat

structure Source where
  /-- The number by which the answer refers to the source. -/
  ordinal : Nat
  /-- The rank among the documents found. -/
  index : Int
  citation : String
  url : String
  /-- The passage of the document that supports the answer. -/
  originText : String
  deriving DecidableEq, Inhabited

/-- The id under which a page shows the source. -/
def Source.anchor (source : Source) : String :=
  "citation_" ++ toString source.ordinal

inductive Turn where
  | user (text : String)
  | assistant (text : String) (sources : List Source)
  deriving DecidableEq, Inhabited

namespace Turn

/-- A place for an answer to come. -/
def placeholder : Turn := .assistant "" []

def role : Turn → String
  | .user _ => "user"
  | .assistant _ _ => "assistant"

def text : Turn → String
  | .user text => text
  | .assistant text _ => text

def sources : Turn → List Source
  | .user _ => []
  | .assistant _ sources => sources

def isUser : Turn → Bool
  | .user _ => true
  | .assistant _ _ => false

def isAssistant : Turn → Bool
  | .user _ => false
  | .assistant _ _ => true

end Turn

/-- The number of sources of a transcript, over all its turns. -/
def sourceCount (turns : List Turn) : Nat :=
  turns.foldl (fun n turn => n + turn.sources.length) 0

theorem foldl_sources_length (turns : List Turn) (n : Nat) :
    turns.foldl (fun n turn => n + turn.sources.length) n = n + sourceCount turns := by
  induction turns generalizing n with
  | nil => rfl
  | cons turn rest ih =>
    simp only [sourceCount, List.foldl_cons]
    rw [ih, ih (0 + _)]
    omega

theorem sourceCount_append (first second : List Turn) :
    sourceCount (first ++ second) = sourceCount first + sourceCount second := by
  rw [sourceCount, List.foldl_append, foldl_sources_length]
  rfl

end CitedChat
