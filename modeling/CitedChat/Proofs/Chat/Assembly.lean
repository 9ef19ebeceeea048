import CitedChat.Chat.Assembler
import CitedChat.Proofs.Chat.Appending

/-!
Assembling an answer. What a payload gives are appends, which a conversation that ends with an
answer takes (`Assembler.isAppend_of_feed`). `Assembler.reached` lists the conversations that the
assembling goes through, one for each payload that brings something; `reached_eq` says the same by
assembling the prefixes of the payloads.
-/

set_option autoImplicit false

namespace CitedChat

theorem Directive.isAppend_of_ofPart (parts : List Part) :
    ∀ action ∈ Directive.actions (parts.map Directive.ofPart), action.IsAppend := by
  induction parts with
  | nil => simp [Directive.actions]
  | cons part rest ih =>
    cases part with
    | content text => exact List.forall_mem_cons.2 ⟨trivial, ih⟩
    | source source => exact List.forall_mem_cons.2 ⟨trivial, ih⟩
    | finished signal => exact ih

namespace Assembler

/-- What a payload gives, as far as it is for the conversation, extends the last turn. -/
theorem isAppend_of_feed (a : Assembler) (raw : String) :
    ∀ action ∈ Directive.actions (a.feed raw).1, action.IsAppend := by
  unfold feed
  split
  · simp [Directive.actions]
  · cases a.reader.read raw with
    | error error => simp [Directive.actions]
    | ok read => exact Directive.isAppend_of_ofPart _

theorem isDone_eq_false_iff (a : Assembler) : a.isDone = false ↔ a.state = .streaming := by
  simp [isDone]

/-- Once an answer has ended, payloads give nothing. -/
theorem feedAll_of_isDone (a : Assembler) (hdone : a.isDone = true) (payloads : List String) :
    (a.feedAll payloads).1 = List.replicate payloads.length [] := by
  induction payloads generalizing a with
  | nil => rfl
  | cons raw rest ih =>
    rw [feedAll, feed_of_isDone a raw hdone]
    exact congrArg ([] :: ·) (ih _ hdone)

/-- The conversations after those payloads that bring something for the conversation, in order. -/
def reached (a : Assembler) (c : Conversation) : List String → List Conversation
  | [] => []
  | raw :: rest =>
    match c.applyAll (Directive.actions (a.feed raw).1) with
    | .error _ => []
    | .ok next =>
      (if (Directive.actions (a.feed raw).1).isEmpty then [] else [next]) ++
        reached (a.feed raw).2 next rest

theorem reached_cons {a : Assembler} {c next : Conversation} {raw : String}
    (happly : c.applyAll (Directive.actions (a.feed raw).1) = .ok next) (rest : List String) :
    a.reached c (raw :: rest) =
      (if (Directive.actions (a.feed raw).1).isEmpty then [] else [next]) ++
        (a.feed raw).2.reached next rest := by
  rw [reached, happly]

theorem reached_of_isDone (a : Assembler) (hdone : a.isDone = true) (c : Conversation)
    (payloads : List String) : a.reached c payloads = [] := by
  induction payloads generalizing a with
  | nil => rfl
  | cons raw rest ih =>
    rw [reached, feed_of_isDone a raw hdone]
    exact ih _ hdone

end Assembler

theorem assembleWith_cons {a : Assembler} {c next : Conversation} {raw : String}
    (happly : c.applyAll (Directive.actions (a.feed raw).1) = .ok next) (rest : List String) :
    assembleWith a c (raw :: rest) =
      if (a.feed raw).2.isDone then .ok ⟨next, (a.feed raw).2.state, (a.feed raw).2.stats⟩
      else assembleWith (a.feed raw).2 next rest := by
  simp only [assembleWith]
  rw [happly]
  rfl

namespace Assembler

/-- The conversation that payloads lead to, where assembling them does not fail. -/
def conversation? (a : Assembler) (c : Conversation) (payloads : List String) :
    Option Conversation :=
  (assembleWith a c payloads).toOption.map (·.conversation)

/-- The conversation after the payload at a place, if that payload brings something for it. -/
def reachedAt? (a : Assembler) (c : Conversation) (payloads : List String) (k : Nat) :
    Option Conversation :=
  if (Directive.actions ((a.feedAll payloads).1.getD k [])).isEmpty then none
  else a.conversation? c (payloads.take (k + 1))

theorem reachedAt?_zero {a : Assembler} {c next : Conversation} {raw : String}
    (happly : c.applyAll (Directive.actions (a.feed raw).1) = .ok next) (rest : List String) :
    a.reachedAt? c (raw :: rest) 0 =
      if (Directive.actions (a.feed raw).1).isEmpty then none else some next := by
  have hfirst : a.conversation? c [raw] = some next := by
    rw [conversation?, assembleWith_cons happly]
    split <;> rfl
  rw [reachedAt?, List.take_succ_cons, List.take_zero, hfirst]
  rfl

theorem reachedAt?_succ {a : Assembler} {c next : Conversation} {raw : String}
    (happly : c.applyAll (Directive.actions (a.feed raw).1) = .ok next) (rest : List String)
    (k : Nat) :
    a.reachedAt? c (raw :: rest) (k + 1) =
      if (a.feed raw).2.isDone then none else (a.feed raw).2.reachedAt? next rest k := by
  simp only [reachedAt?, feedAll, List.getD_cons_succ, List.take_succ_cons, conversation?,
    assembleWith_cons happly]
  cases hdone : (a.feed raw).2.isDone with
  | false => rfl
  | true =>
    have hnothing : (List.replicate rest.length ([] : List Directive)).getD k [] = [] := by
      rw [List.getD_eq_getElem?_getD, List.getElem?_replicate]
      split <;> rfl
    rw [feedAll_of_isDone _ hdone, hnothing]
    rfl

/-- The conversations reached are those that the prefixes of the payloads lead to, each ending with
a payload that brings something. -/
theorem reached_eq (a : Assembler) {c : Conversation} (hanswer : c.EndsWithAnswer)
    (payloads : List String) :
    a.reached c payloads =
      (List.range payloads.length).filterMap (a.reachedAt? c payloads) := by
  induction payloads generalizing a c with
  | nil => rfl
  | cons raw rest ih =>
    obtain ⟨next, happly, hnext⟩ := hanswer.applyAll (a.isAppend_of_feed raw)
    have htail : (a.feed raw).2.reached next rest =
        (List.range rest.length).filterMap fun k ↦ a.reachedAt? c (raw :: rest) (k + 1) := by
      simp only [reachedAt?_succ happly]
      -- Behind the payload that ends the answer there is nothing to reach on either side.
      cases hdone : (a.feed raw).2.isDone with
      | true => simp [reached_of_isDone _ hdone]
      | false => exact ih _ hnext
    rw [reached_cons happly, htail, List.length_cons, List.range_succ_eq_map, List.filterMap_cons,
      List.filterMap_map, reachedAt?_zero happly]
    split <;> rfl

end Assembler

end CitedChat
