import CitedChat.Proofs.Chat.Reducing

/-!
Sources stand in a conversation in the order of their arrival. A run of actions adds the sources
that the actions carry which are carried out, and neither drops nor repeats any
(`Conversation.allSources_reduce`). Looking an ordinal up finds the last source that has it
(`Conversation.findSource?_eq_getLast?`), so that a source which is appended comes before all others
of its ordinal and hides none of another one (`Conversation.keepsSources`).
-/

set_option autoImplicit false

namespace CitedChat

/-- The sources that an action carries. -/
def Action.sources : Action → List Source
  | .addTurn turn => turn.sources
  | .appendText _ => []
  | .appendSource source => [source]

theorem Turn.sources_grown {action : Action} (happend : action.IsAppend) (text : String)
    (sources : List Source) :
    ((Turn.assistant text sources).grown [action]).sources =
      (Turn.assistant text sources).sources ++ action.sources := by
  cases action with
  | addTurn turn => exact happend.elim
  | appendText fragment => rfl
  | appendSource source => rfl

namespace Conversation

/-- The sources that the actions of a run bring, in order. -/
def arrivals (c : Conversation) (actions : List Action) : List Source :=
  (c.carriedOut actions).flatMap fun entry ↦ entry.2.sources

theorem arrivals_cons (c : Conversation) (action : Action) (rest : List Action) :
    c.arrivals (action :: rest) =
      c.arrivals [action] ++ (c.applyOrKeep action).arrivals rest := by
  rw [arrivals, carriedOut_cons, List.flatMap_append]
  rfl

theorem arrivals_singleton (c : Conversation) (action : Action) :
    c.arrivals [action] =
      match c.apply action with
      | .ok _ => action.sources
      | .error _ => [] := by
  rw [arrivals, carriedOut]
  cases c.apply action with
  | ok next => simp [carriedOut]
  | error error => rfl

/-- An action adds its sources behind all others. -/
theorem allSources_applyOrKeep (c : Conversation) (action : Action) :
    allSources (c.applyOrKeep action).turns = allSources c.turns ++ c.arrivals [action] := by
  have happlies := c.applies action
  rw [applyOrKeep, arrivals_singleton]
  generalize c.apply action = result at happlies ⊢
  cases happlies with
  | added turns turn => simp [allSources, Action.sources]
  | grown earlier text sources happend =>
    simp [allSources, Turn.sources_grown happend]
  | empty happend => rfl
  | user earlier text happend => exact (List.append_nil _).symm

theorem allSources_reduce (c : Conversation) (actions : List Action) :
    allSources (c.reduce actions).turns = allSources c.turns ++ c.arrivals actions := by
  induction actions generalizing c with
  | nil => exact (List.append_nil _).symm
  | cons action rest ih =>
    rw [reduce, List.foldl_cons, ← reduce, ih, allSources_applyOrKeep, List.append_assoc,
      ← arrivals_cons]

/-- Looking an ordinal up finds the last source that has it. -/
theorem findSource?_eq_getLast? (c : Conversation) (ordinal : Nat) :
    c.findSource? ordinal = ((allSources c.turns).filter (·.ordinal == ordinal)).getLast? := by
  rw [findSource?_eq, List.getLast?_filter]

theorem findSource?_append {c next : Conversation} {source : Source}
    (hnext : allSources next.turns = allSources c.turns ++ [source]) (ordinal : Nat) :
    next.findSource? ordinal =
      if source.ordinal = ordinal then some source else c.findSource? ordinal := by
  rw [findSource?_eq_getLast?, findSource?_eq_getLast?, hnext, List.filter_append]
  by_cases hsame : source.ordinal = ordinal <;> simp [hsame]

/-- In every run the sources stand in the order of their arrival, and are found by it. -/
structure KeepsSources (c : Conversation) : Prop where
  /-- The sources that the actions bring come behind those that were there, all of them. -/
  inOrder : ∀ actions : List Action,
    allSources (c.reduce actions).turns = allSources c.turns ++ c.arrivals actions
  count : ∀ actions : List Action,
    (c.reduce actions).sourceCount = (allSources c.turns ++ c.arrivals actions).length
  /-- An ordinal leads to the last source that has it. -/
  latest : ∀ (actions : List Action) (ordinal : Nat),
    (c.reduce actions).findSource? ordinal =
      ((allSources c.turns ++ c.arrivals actions).filter (·.ordinal == ordinal)).getLast?
  /-- It leads nowhere if no source has it. -/
  absent : ∀ (actions : List Action) (ordinal : Nat),
    (c.reduce actions).findSource? ordinal = none ↔
      ∀ source ∈ allSources c.turns ++ c.arrivals actions, source.ordinal ≠ ordinal
  /-- A source that is appended is found, and the other ordinals lead where they did. -/
  appended : ∀ (actions : List Action) (source : Source) (next : Conversation),
    (c.reduce actions).apply (.appendSource source) = .ok next →
    next.findSource? source.ordinal = some source ∧
      ∀ ordinal ≠ source.ordinal,
        next.findSource? ordinal = (c.reduce actions).findSource? ordinal

theorem keepsSources (c : Conversation) : c.KeepsSources where
  inOrder := c.allSources_reduce
  count actions := by
    rw [← allSources_reduce, length_allSources]
    rfl
  latest actions ordinal := by
    rw [← allSources_reduce]
    exact findSource?_eq_getLast? _ ordinal
  absent actions ordinal := by
    rw [← allSources_reduce, findSource?_eq_getLast?, List.getLast?_eq_none_iff,
      List.filter_eq_nil_iff]
    simp only [beq_iff_eq]
  appended actions source next happly := by
    have hnext : allSources next.turns = allSources (c.reduce actions).turns ++ [source] := by
      have hstep := (c.reduce actions).allSources_applyOrKeep (.appendSource source)
      rw [applyOrKeep, arrivals_singleton, happly] at hstep
      exact hstep
    refine ⟨?_, fun ordinal hother ↦ ?_⟩
    · rw [findSource?_append hnext, if_pos rfl]
    · rw [findSource?_append hnext, if_neg hother.symm]

end Conversation

end CitedChat
