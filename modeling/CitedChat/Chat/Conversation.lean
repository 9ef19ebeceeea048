import CitedChat.Transcript.Turn

/-!
The conversation as a fold of actions. An action adds a turn or extends the last one, which has to
be the assistant's; one that finds no such turn is refused and changes nothing.
-/

set_option autoImplicit false

namespace CitedChat

inductive Action where
  | addTurn (turn : Turn)
  | appendText (fragment : String)
  | appendSource (source : Source)
  deriving DecidableEq

def Action.name : Action → String
  | .addTurn _ => "add_turn"
  | .appendText _ => "append_assistant_text"
  | .appendSource _ => "append_assistant_source"

/-- Why an action cannot extend the last turn. -/
inductive StoreError where
  | emptyConversation (action : String)
  | notAssistant (action : String) (index : Nat) (role : String)
  deriving DecidableEq

def StoreError.message : StoreError → String
  | .emptyConversation action => "cannot " ++ action ++ ": the conversation is empty"
  | .notAssistant action index role =>
    "cannot " ++ action ++ ": turn " ++ toString index ++ " is a " ++ role ++
      " turn, not an assistant turn"

/-- Turns, oldest first. -/
structure Conversation where
  turns : List Turn := []
  deriving DecidableEq, Inhabited

namespace Conversation

def length (c : Conversation) : Nat :=
  c.turns.length

def last? (c : Conversation) : Option Turn :=
  c.turns.getLast?

def sourceCount (c : Conversation) : Nat :=
  CitedChat.sourceCount c.turns

/-- The latest source of an ordinal. -/
def findSource? (c : Conversation) (ordinal : Nat) : Option Source :=
  (c.turns.reverse.flatMap fun turn => turn.sources.reverse).find? (·.ordinal == ordinal)

/-- Changes the last turn, which has to be the assistant's; `action` is named in a refusal. -/
def extend (c : Conversation) (action : String) (f : String → List Source → Turn) :
    Except StoreError Conversation :=
  match c.turns.reverse with
  | [] => .error (.emptyConversation action)
  | .assistant text sources :: earlier => .ok ⟨(f text sources :: earlier).reverse⟩
  | .user _ :: earlier => .error (.notAssistant action earlier.length "user")

theorem extend_user (earlier : List Turn) (text action : String)
    (f : String → List Source → Turn) :
    extend ⟨earlier ++ [.user text]⟩ action f =
      .error (.notAssistant action earlier.length "user") := by
  simp [extend]

theorem extend_assistant (earlier : List Turn) (text action : String) (sources : List Source)
    (f : String → List Source → Turn) :
    extend ⟨earlier ++ [.assistant text sources]⟩ action f =
      .ok ⟨earlier ++ [f text sources]⟩ := by
  simp [extend]

def apply (c : Conversation) (action : Action) : Except StoreError Conversation :=
  match action with
  | .addTurn turn => .ok ⟨c.turns ++ [turn]⟩
  | .appendText fragment =>
    c.extend action.name fun text sources => .assistant (text ++ fragment) sources
  | .appendSource source =>
    c.extend action.name fun text sources => .assistant text (sources ++ [source])

@[simp] theorem apply_appendText (earlier : List Turn) (text fragment : String)
    (sources : List Source) :
    apply ⟨earlier ++ [.assistant text sources]⟩ (.appendText fragment) =
      .ok ⟨earlier ++ [.assistant (text ++ fragment) sources]⟩ :=
  extend_assistant ..

@[simp] theorem apply_appendSource (earlier : List Turn) (text : String) (sources : List Source)
    (source : Source) :
    apply ⟨earlier ++ [.assistant text sources]⟩ (.appendSource source) =
      .ok ⟨earlier ++ [.assistant text (sources ++ [source])]⟩ :=
  extend_assistant ..

/-- Applies actions in order up to the first refusal. -/
def applyAll (c : Conversation) : List Action → Except StoreError Conversation
  | [] => .ok c
  | action :: rest => do (← c.apply action).applyAll rest

/-- Applies an action, or leaves the conversation as it is. -/
def applyOrKeep (c : Conversation) (action : Action) : Conversation :=
  match c.apply action with
  | .ok next => next
  | .error _ => c

end Conversation

end CitedChat
