import CitedChat.Proofs.Chat.Appending

/-!
A conversation is only ever added to. An action adds a turn, adds to the last turn if that is the
assistant's, or is refused (`Conversation.applies`), and a refused one changes nothing. In a run of
actions each turn therefore keeps what it has and gets what the actions append that are carried out
while it is the last one (`Conversation.getElem?_reduce`). What a run of appends does depends on its
text and its sources alone (`Conversation.reduce_appends`), not on how they are cut or how they take
turns. This holds of every conversation and every run (`Conversation.appendOnly`).
-/

set_option autoImplicit false

namespace CitedChat

/-! ### What actions append -/

namespace Action

def isAddTurn : Action → Bool
  | .addTurn _ => true
  | .appendText _ | .appendSource _ => false

theorem isAddTurn_eq_false {action : Action} (happend : action.IsAppend) :
    action.isAddTurn = false := by
  cases action with
  | addTurn turn => exact happend.elim
  | appendText fragment => rfl
  | appendSource source => rfl

theorem joined_append (first second : List Action) :
    joined (first ++ second) = joined first ++ joined second := by
  induction first with
  | nil => exact String.empty_append.symm
  | cons action rest ih => cases action <;> simp [joined, ih, String.append_assoc]

theorem cited_append (first second : List Action) :
    cited (first ++ second) = cited first ++ cited second := by
  induction first with
  | nil => rfl
  | cons action rest ih => cases action <;> simp [cited, ih]

theorem joined_map_appendText (fragments : List String) :
    joined (fragments.map .appendText) = String.join fragments := by
  induction fragments with
  | nil => rfl
  | cons fragment rest ih => rw [List.map_cons, joined, ih, String.join_cons]

theorem cited_map_appendText (fragments : List String) :
    cited (fragments.map .appendText) = [] := by
  induction fragments with
  | nil => rfl
  | cons fragment rest ih => exact ih

end Action

namespace Turn

/-- The turn with what actions append to it. A human's turn stays as it is. -/
def grown (actions : List Action) : Turn → Turn
  | .user text => .user text
  | .assistant text sources =>
    .assistant (text ++ Action.joined actions) (sources ++ Action.cited actions)

@[simp] theorem grown_nil (turn : Turn) : turn.grown [] = turn := by
  cases turn <;> simp [grown, Action.joined, Action.cited]

theorem grown_append (turn : Turn) (first second : List Action) :
    turn.grown (first ++ second) = (turn.grown first).grown second := by
  cases turn <;>
    simp [grown, Action.joined_append, Action.cited_append, String.append_assoc]

@[simp] theorem grown_addTurn (turn added : Turn) : turn.grown [.addTurn added] = turn := by
  cases turn <;> simp [grown, Action.joined, Action.cited]

/-- A later state of a turn: the human's is the same, the assistant's has perhaps more text and more
sources behind those that it had. -/
inductive Extends : Turn → Turn → Prop where
  | user (text : String) : Extends (.user text) (.user text)
  | assistant (text fragment : String) (sources more : List Source) :
      Extends (.assistant text sources) (.assistant (text ++ fragment) (sources ++ more))

theorem extends_grown (turn : Turn) (actions : List Action) :
    turn.Extends (turn.grown actions) := by
  cases turn with
  | user text => exact .user text
  | assistant text sources => exact .assistant text _ sources _

end Turn

namespace Conversation

/-! ### One action -/

/-- What becomes of an action. -/
inductive Applies : Conversation → Action → Except StoreError Conversation → Prop where
  | added (turns : List Turn) (turn : Turn) :
      Applies ⟨turns⟩ (.addTurn turn) (.ok ⟨turns ++ [turn]⟩)
  | grown (earlier : List Turn) (text : String) (sources : List Source) {action : Action}
      (happend : action.IsAppend) :
      Applies ⟨earlier ++ [.assistant text sources]⟩ action
        (.ok ⟨earlier ++ [(Turn.assistant text sources).grown [action]]⟩)
  | empty {action : Action} (happend : action.IsAppend) :
      Applies ⟨[]⟩ action (.error (.emptyConversation action.name))
  | user (earlier : List Turn) (text : String) {action : Action} (happend : action.IsAppend) :
      Applies ⟨earlier ++ [.user text]⟩ action
        (.error (.notAssistant action.name earlier.length "user"))

theorem eq_empty_or_concat (c : Conversation) :
    c = ⟨[]⟩ ∨ ∃ earlier last, c = ⟨earlier ++ [last]⟩ := by
  obtain ⟨turns⟩ := c
  obtain rfl | ⟨earlier, last, rfl⟩ := turns.eq_nil_or_concat
  · exact .inl rfl
  · exact .inr ⟨earlier, last, by rw [List.concat_eq_append]⟩

/-- An append finds no turn, the human's turn or the assistant's. -/
theorem applies_append (c : Conversation) {action : Action} (happend : action.IsAppend) :
    c.Applies action (c.apply action) := by
  obtain rfl | ⟨earlier, last, rfl⟩ := c.eq_empty_or_concat
  · cases action with
    | addTurn turn => exact happend.elim
    | _ => exact .empty trivial
  · cases last with
    | user text =>
      cases action with
      | addTurn turn => exact happend.elim
      | _ =>
        rw [apply, extend_user]
        exact .user earlier text trivial
    | assistant text sources =>
      have hgrown := Applies.grown earlier text sources happend
      cases action with
      | addTurn turn => exact happend.elim
      | appendText fragment =>
        rw [apply_appendText]
        simpa [Turn.grown, Action.joined, Action.cited] using hgrown
      | appendSource source =>
        rw [apply_appendSource]
        simpa [Turn.grown, Action.joined, Action.cited] using hgrown

theorem applies (c : Conversation) (action : Action) : c.Applies action (c.apply action) := by
  cases action with
  | addTurn turn => exact .added c.turns turn
  | appendText fragment => exact c.applies_append trivial
  | appendSource source => exact c.applies_append trivial

/-- Refused are just the appends that find no turn of the assistant's. -/
theorem apply_eq_error_iff (c : Conversation) (action : Action) (error : StoreError) :
    c.apply action = .error error ↔ action.isAddTurn = false ∧
      (c.turns = [] ∧ error = .emptyConversation action.name ∨
        ∃ text, c.last? = some (.user text) ∧
          error = .notAssistant action.name (c.length - 1) "user") := by
  have happlies := c.applies action
  generalize c.apply action = result at happlies ⊢
  cases happlies with
  | added turns turn => simp [Action.isAddTurn]
  | grown earlier text sources happend => simp [last?]
  | empty happend =>
    rw [Except.error.injEq, eq_comm]
    simp [last?, Action.isAddTurn_eq_false happend]
  | user earlier text happend =>
    rw [Except.error.injEq, eq_comm]
    simp [last?, length, Action.isAddTurn_eq_false happend]

/-! ### Runs -/

/-- Applies actions in order; a refused one changes nothing. -/
def reduce (c : Conversation) (actions : List Action) : Conversation :=
  actions.foldl applyOrKeep c

/-- The actions of a run that are carried out, each with the number of turns that it finds. -/
def carriedOut : Conversation → List Action → List (Nat × Action)
  | _, [] => []
  | c, action :: rest =>
    match c.apply action with
    | .ok next => (c.length, action) :: next.carriedOut rest
    | .error _ => c.carriedOut rest

/-- Those that are carried out while turn `i` is the last one. -/
def carriedOutAt (c : Conversation) (i : Nat) (actions : List Action) : List Action :=
  ((c.carriedOut actions).filter (·.1 = i + 1)).map Prod.snd

theorem reduce_append (c : Conversation) (first second : List Action) :
    c.reduce (first ++ second) = (c.reduce first).reduce second :=
  List.foldl_append

theorem carriedOut_cons (c : Conversation) (action : Action) (rest : List Action) :
    c.carriedOut (action :: rest) =
      c.carriedOut [action] ++ (c.applyOrKeep action).carriedOut rest := by
  rw [carriedOut, carriedOut, applyOrKeep]
  cases c.apply action <;> rfl

theorem carriedOutAt_cons (c : Conversation) (i : Nat) (action : Action) (rest : List Action) :
    c.carriedOutAt i (action :: rest) =
      c.carriedOutAt i [action] ++ (c.applyOrKeep action).carriedOutAt i rest := by
  rw [carriedOutAt, carriedOut_cons, List.filter_append, List.map_append]
  rfl

/-! ### Turns in a run -/

theorem length_applyOrKeep (c : Conversation) (action : Action) :
    (c.applyOrKeep action).length = c.length + if action.isAddTurn then 1 else 0 := by
  have happlies := c.applies action
  rw [applyOrKeep]
  generalize c.apply action = result at happlies ⊢
  cases happlies with
  | added turns turn => simp [length, Action.isAddTurn]
  | grown earlier text sources happend => simp [length, Action.isAddTurn_eq_false happend]
  | empty happend => simp [Action.isAddTurn_eq_false happend]
  | user earlier text happend => simp [Action.isAddTurn_eq_false happend]

theorem length_reduce (c : Conversation) (actions : List Action) :
    (c.reduce actions).length = c.length + actions.countP Action.isAddTurn := by
  induction actions generalizing c with
  | nil => rfl
  | cons action rest ih =>
    rw [reduce, List.foldl_cons, ← reduce, ih, length_applyOrKeep, List.countP_cons]
    omega

/-- The number of turns that an action finds is no less than that at the start. -/
theorem length_le_of_mem_carriedOut {c : Conversation} {actions : List Action}
    {entry : Nat × Action} (hmem : entry ∈ c.carriedOut actions) : c.length ≤ entry.1 := by
  induction actions generalizing c with
  | nil => cases hmem
  | cons action rest ih =>
    rw [carriedOut_cons, List.mem_append] at hmem
    obtain hmem | hmem := hmem
    · rw [carriedOut] at hmem
      split at hmem
      · rw [carriedOut, List.mem_singleton] at hmem
        exact Nat.le_of_eq (congrArg Prod.fst hmem).symm
      · cases hmem
    · have hlength := c.length_applyOrKeep action
      have := ih hmem
      omega

/-- A turn behind which another one stands gets nothing. -/
theorem carriedOutAt_eq_nil {c : Conversation} {i : Nat} (hbehind : i + 1 < c.length)
    (actions : List Action) : c.carriedOutAt i actions = [] := by
  rw [carriedOutAt, List.map_eq_nil_iff, List.filter_eq_nil_iff]
  intro entry hmem
  have hlength := length_le_of_mem_carriedOut hmem
  simp only [decide_eq_true_eq]
  omega

theorem carriedOutAt_singleton (c : Conversation) (i : Nat) (action : Action) :
    c.carriedOutAt i [action] =
      match c.apply action with
      | .ok _ => if c.length = i + 1 then [action] else []
      | .error _ => [] := by
  rw [carriedOutAt, carriedOut]
  cases c.apply action with
  | ok next => by_cases hlast : c.length = i + 1 <;> simp [carriedOut, hlast]
  | error error => rfl

/-- What one action does to a turn. -/
theorem getElem?_applyOrKeep {c : Conversation} {i : Nat} {turn : Turn}
    (hat : c.turns[i]? = some turn) (action : Action) :
    (c.applyOrKeep action).turns[i]? = some (turn.grown (c.carriedOutAt i [action])) := by
  have happlies := c.applies action
  rw [applyOrKeep, carriedOutAt_singleton]
  generalize c.apply action = result at happlies ⊢
  cases happlies with
  | added turns added =>
    have hbound := (List.getElem?_eq_some_iff.1 hat).1
    have hgrown : turn.grown (if length ⟨turns⟩ = i + 1 then [.addTurn added] else []) = turn := by
      split <;> simp
    simp only [hgrown]
    rw [List.getElem?_append_left hbound]
    exact hat
  | grown earlier text sources happend =>
    by_cases hbound : i < earlier.length
    · have hlast : length ⟨earlier ++ [.assistant text sources]⟩ ≠ i + 1 := by
        simp only [length, List.length_append, List.length_singleton]
        omega
      simp only [if_neg hlast, Turn.grown_nil]
      rw [List.getElem?_append_left hbound] at hat ⊢
      exact hat
    · obtain ⟨hlength, -⟩ := List.getElem?_eq_some_iff.1 hat
      obtain rfl : i = earlier.length := by
        simp only [List.length_append, List.length_singleton] at hlength
        omega
      simp only [List.getElem?_concat_length, Option.some.injEq] at hat
      simp [length, ← hat]
  | empty happend => cases hat
  | user earlier text happend =>
    simp only [Turn.grown_nil]
    exact hat

/-- In a run each turn gets what is appended while it is the last one. -/
theorem getElem?_reduce {c : Conversation} {i : Nat} {turn : Turn}
    (hat : c.turns[i]? = some turn) (actions : List Action) :
    (c.reduce actions).turns[i]? = some (turn.grown (c.carriedOutAt i actions)) := by
  induction actions generalizing c turn with
  | nil => rw [carriedOutAt, carriedOut, List.filter_nil, List.map_nil, Turn.grown_nil]; exact hat
  | cons action rest ih =>
    rw [carriedOutAt_cons, Turn.grown_append]
    exact ih (getElem?_applyOrKeep hat action)

-- The first fragment finds no turn and the last one finds the human's.
example : reduce ⟨[]⟩ [.appendText "a", .addTurn .placeholder, .appendText "b",
    .addTurn (.user "c"), .appendText "d"] = ⟨[.assistant "b" [], .user "c"]⟩ := by decide

/-! ### Runs of appends -/

/-- The conversation with what actions append to its last turn. -/
def growLast (c : Conversation) (actions : List Action) : Conversation :=
  ⟨c.turns.dropLast ++ (c.last?.map (Turn.grown actions)).toList⟩

theorem growLast_concat (earlier : List Turn) (last : Turn) (actions : List Action) :
    growLast ⟨earlier ++ [last]⟩ actions = ⟨earlier ++ [last.grown actions]⟩ := by
  simp [growLast, last?]

theorem growLast_append (c : Conversation) (first second : List Action) :
    c.growLast (first ++ second) = (c.growLast first).growLast second := by
  obtain rfl | ⟨earlier, last, rfl⟩ := c.eq_empty_or_concat
  · rfl
  · rw [growLast_concat, growLast_concat, growLast_concat, Turn.grown_append]

/-- An append adds to the last turn what it can. -/
theorem applyOrKeep_append (c : Conversation) {action : Action} (happend : action.IsAppend) :
    c.applyOrKeep action = c.growLast [action] := by
  have happlies := c.applies action
  rw [applyOrKeep]
  generalize c.apply action = result at happlies ⊢
  cases happlies with
  | added turns turn => exact happend.elim
  | grown earlier text sources happend => exact (growLast_concat earlier _ _).symm
  | empty happend => rfl
  | user earlier text happend => exact (growLast_concat earlier (.user text) _).symm

theorem reduce_appends (c : Conversation) {actions : List Action}
    (happends : ∀ action ∈ actions, action.IsAppend) : c.reduce actions = c.growLast actions := by
  induction actions generalizing c with
  | nil =>
    obtain rfl | ⟨earlier, last, rfl⟩ := c.eq_empty_or_concat
    · rfl
    · rw [growLast_concat, Turn.grown_nil]
      rfl
  | cons action rest ih =>
    obtain ⟨hfirst, hrest⟩ := List.forall_mem_cons.1 happends
    rw [reduce, List.foldl_cons, ← reduce, ih _ hrest, applyOrKeep_append c hfirst,
      ← growLast_append, List.singleton_append]

/-- Runs of appends with the same text and the same sources do the same. -/
theorem reduce_congr (c : Conversation) {first second : List Action}
    (hfirst : ∀ action ∈ first, action.IsAppend) (hsecond : ∀ action ∈ second, action.IsAppend)
    (hjoined : Action.joined first = Action.joined second)
    (hcited : Action.cited first = Action.cited second) : c.reduce first = c.reduce second := by
  have hgrown : Turn.grown first = Turn.grown second := by
    funext turn
    cases turn with
    | user text => rfl
    | assistant text sources => rw [Turn.grown, Turn.grown, hjoined, hcited]
  rw [reduce_appends c hfirst, reduce_appends c hsecond, growLast, growLast, hgrown]

/-! ### Only added to -/

/-- In no run of actions is anything of the conversation taken away or changed. -/
structure AppendOnly (c : Conversation) : Prop where
  /-- There is one more turn for each action that adds one. -/
  length : ∀ actions : List Action,
    (c.reduce actions).length = c.length + actions.countP Action.isAddTurn
  /-- An added turn comes last and is as it was given. -/
  added : ∀ (actions : List Action) (turn : Turn),
    c.reduce (actions ++ [.addTurn turn]) = ⟨(c.reduce actions).turns ++ [turn]⟩
  /-- A turn that is not the last one stays the same from then on. -/
  settled : ∀ (first second : List Action) (i : Nat), i + 1 < (c.reduce first).length →
    (c.reduce (first ++ second)).turns[i]? = (c.reduce first).turns[i]?
  /-- A turn stays the human's, with the same text, or the assistant's, with what it has first. -/
  kept : ∀ (first second : List Action) (i : Nat) (turn : Turn),
    (c.reduce first).turns[i]? = some turn →
    ∃ later, (c.reduce (first ++ second)).turns[i]? = some later ∧ turn.Extends later
  /-- It gets the fragments and the sources of the actions that are carried out while it is the last
  one, in their order. -/
  grown : ∀ (first second : List Action) (i : Nat) (turn : Turn),
    (c.reduce first).turns[i]? = some turn →
    (c.reduce (first ++ second)).turns[i]? =
      some (turn.grown ((c.reduce first).carriedOutAt i second))
  /-- Refused are the appends that find no turn, or the human's turn at the end. -/
  refused : ∀ (actions : List Action) (action : Action) (error : StoreError),
    (c.reduce actions).apply action = .error error ↔ action.isAddTurn = false ∧
      ((c.reduce actions).turns = [] ∧ error = .emptyConversation action.name ∨
        ∃ text, (c.reduce actions).last? = some (.user text) ∧
          error = .notAssistant action.name ((c.reduce actions).length - 1) "user")
  /-- A refused action leaves the conversation as it is. -/
  unchanged : ∀ (actions : List Action) (action : Action) (error : StoreError),
    (c.reduce actions).apply action = .error error →
    c.reduce (actions ++ [action]) = c.reduce actions
  /-- It makes no difference how a text is cut into fragments. -/
  cut : ∀ (before after : List Action) (fragments : List String),
    c.reduce (before ++ fragments.map .appendText ++ after) =
      c.reduce (before ++ [.appendText (String.join fragments)] ++ after)
  /-- It makes no difference which of a fragment and a source comes first. -/
  exchanged : ∀ (before after : List Action) (fragment : String) (source : Source),
    c.reduce (before ++ [.appendText fragment, .appendSource source] ++ after) =
      c.reduce (before ++ [.appendSource source, .appendText fragment] ++ after)

theorem appendOnly (c : Conversation) : c.AppendOnly where
  length := c.length_reduce
  added actions turn := by
    rw [reduce_append]
    rfl
  settled first second i hbehind := by
    have hat := List.getElem?_eq_getElem (Nat.lt_of_succ_lt hbehind)
    rw [reduce_append, hat, getElem?_reduce hat, carriedOutAt_eq_nil hbehind, Turn.grown_nil]
  kept first second i turn hat := by
    rw [reduce_append]
    exact ⟨_, getElem?_reduce hat second, turn.extends_grown _⟩
  grown first second i turn hat := by
    rw [reduce_append]
    exact getElem?_reduce hat second
  refused actions := (c.reduce actions).apply_eq_error_iff
  unchanged actions action error hrefused := by
    rw [reduce_append, reduce, List.foldl_cons, List.foldl_nil, applyOrKeep, hrefused]
  cut before after fragments := by
    have happends : ∀ action ∈ fragments.map Action.appendText, action.IsAppend :=
      List.forall_mem_map.2 fun _ _ ↦ trivial
    rw [reduce_append, reduce_append, reduce_append c (before ++ _), reduce_append c before]
    refine congrArg (reduce · after) (reduce_congr _ happends ?_ ?_ ?_)
    · exact List.forall_mem_singleton.2 trivial
    · rw [Action.joined_map_appendText, Action.joined, Action.joined, String.append_empty]
    · exact Action.cited_map_appendText fragments
  exchanged before after fragment source := by
    rw [reduce_append, reduce_append, reduce_append c (before ++ _), reduce_append c before]
    refine congrArg (reduce · after) (reduce_congr _ ?_ ?_ rfl rfl)
    · simp [Action.IsAppend]
    · simp [Action.IsAppend]

end Conversation

end CitedChat
