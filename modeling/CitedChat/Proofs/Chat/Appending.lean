import CitedChat.Chat.Conversation

/-!
An answer grows by appends. On a conversation that ends with the assistant's turn a run of appends
is never refused: the fragments are added to the text and the sources to the sources, each in order,
and the turns before are left alone (`applyAll_appends`). The sources of a conversation are read
across its turns; their number is `sourceCount`, and `findSource?` searches them from the back.
-/

set_option autoImplicit false

namespace CitedChat

/-! ### The sources of a transcript -/

/-- The sources of all turns, in order. -/
def allSources (turns : List Turn) : List Source :=
  turns.flatMap Turn.sources

theorem allSources_append (first second : List Turn) :
    allSources (first ++ second) = allSources first ++ allSources second :=
  List.flatMap_append

theorem sourceCount_cons (turn : Turn) (rest : List Turn) :
    sourceCount (turn :: rest) = turn.sources.length + sourceCount rest := by
  rw [sourceCount, List.foldl_cons, foldl_sources_length, Nat.zero_add]

theorem length_allSources (turns : List Turn) : (allSources turns).length = sourceCount turns := by
  induction turns with
  | nil => rfl
  | cons turn rest ih =>
    rw [sourceCount_cons, ← ih]
    exact List.length_append

/-- Looking a source up searches the sources from the last one on. -/
theorem Conversation.findSource?_eq (c : Conversation) (ordinal : Nat) :
    c.findSource? ordinal = (allSources c.turns).reverse.find? (·.ordinal == ordinal) := by
  have hreverse : (allSources c.turns).reverse =
      c.turns.reverse.flatMap fun turn ↦ turn.sources.reverse := List.reverse_flatMap
  rw [hreverse]
  rfl

/-! ### Runs of appends -/

namespace Action

/-- An append extends the last turn and adds none. -/
def IsAppend : Action → Prop
  | .addTurn _ => False
  | .appendText _ | .appendSource _ => True

/-- The fragments among actions, joined in order. -/
def joined : List Action → String
  | [] => ""
  | .appendText fragment :: rest => fragment ++ joined rest
  | _ :: rest => joined rest

/-- The sources that actions append, in order. -/
def cited : List Action → List Source
  | [] => []
  | .appendSource source :: rest => source :: cited rest
  | _ :: rest => cited rest

end Action

namespace Conversation

/-- The conversation with a question and a place for its answer. -/
def ask (c : Conversation) (text : String) : Conversation :=
  ⟨c.turns ++ [.user text, .placeholder]⟩

/-- The last turn is the assistant's. -/
def EndsWithAnswer (c : Conversation) : Prop :=
  ∃ earlier text sources, c = ⟨earlier ++ [.assistant text sources]⟩

theorem endsWithAnswer_ask (c : Conversation) (text : String) : (c.ask text).EndsWithAnswer :=
  ⟨c.turns ++ [.user text], "", [], by simp [ask, Turn.placeholder]⟩

theorem sourceCount_ask (c : Conversation) (text : String) :
    (c.ask text).sourceCount = c.sourceCount := by
  rw [sourceCount, ask, sourceCount_append]
  rfl

theorem applyAll_cons {c next : Conversation} {action : Action} (happly : c.apply action = .ok next)
    (rest : List Action) : c.applyAll (action :: rest) = next.applyAll rest := by
  rw [applyAll, happly]
  rfl

/-- Appends to an answer add their fragments to its text and their sources to its sources. -/
theorem applyAll_appends (earlier : List Turn) (text : String) (sources : List Source)
    (actions : List Action) (happends : ∀ action ∈ actions, action.IsAppend) :
    applyAll ⟨earlier ++ [.assistant text sources]⟩ actions =
      .ok ⟨earlier ++ [.assistant (text ++ Action.joined actions)
        (sources ++ Action.cited actions)]⟩ := by
  induction actions generalizing text sources with
  | nil => simp [applyAll, Action.joined, Action.cited]
  | cons action rest ih =>
    obtain ⟨hfirst, hrest⟩ := List.forall_mem_cons.1 happends
    cases action with
    | addTurn turn => exact hfirst.elim
    | appendText fragment =>
      rw [applyAll_cons (apply_appendText earlier text fragment sources), ih _ _ hrest]
      simp only [Action.joined, Action.cited, String.append_assoc]
    | appendSource source =>
      rw [applyAll_cons (apply_appendSource earlier text sources source), ih _ _ hrest]
      simp only [Action.joined, Action.cited, List.append_assoc, List.singleton_append]

/-- Appends to a conversation that ends with an answer are not refused. -/
theorem EndsWithAnswer.applyAll {c : Conversation} (hanswer : c.EndsWithAnswer)
    {actions : List Action} (happends : ∀ action ∈ actions, action.IsAppend) :
    ∃ next, c.applyAll actions = .ok next ∧ next.EndsWithAnswer := by
  obtain ⟨earlier, text, sources, rfl⟩ := hanswer
  exact ⟨_, applyAll_appends earlier text sources actions happends, earlier, _, _, rfl⟩

end Conversation

end CitedChat
