import Mathlib.Data.List.Chain
import CitedChat.Proofs.Chat.Pieces

/-!
An answer only grows. Every action that a payload gives brings something
(`Assembler.brings_of_feed`), so that each conversation which an answer goes through has more in its
last turn than the one before (`Assembler.isChain_reached`), up to the one that assembling leads to
(`assembled_eq_getLast?`). The payloads that bring nothing because they are refused are listed by
`Assembler.refusals`; under the policy that halts there is at most one.
-/

set_option autoImplicit false

namespace CitedChat

namespace Action

/-- An append that is not empty. -/
def Brings : Action → Prop
  | .addTurn _ => False
  | .appendText fragment => fragment ≠ ""
  | .appendSource _ => True

theorem Brings.isAppend {action : Action} (hbrings : action.Brings) : action.IsAppend := by
  cases action with
  | addTurn turn => exact hbrings
  | appendText fragment => trivial
  | appendSource source => trivial

/-- Appends that bring something add to the text or to the sources. -/
theorem joined_or_cited {actions : List Action} (hbrings : ∀ action ∈ actions, action.Brings)
    (hsome : actions ≠ []) : joined actions ≠ "" ∨ cited actions ≠ [] := by
  cases actions with
  | nil => exact absurd rfl hsome
  | cons action rest =>
    have hfirst := hbrings action List.mem_cons_self
    cases action with
    | addTurn turn => exact hfirst.elim
    | appendText fragment =>
      refine .inl fun hempty ↦ hfirst ?_
      rw [joined] at hempty
      exact (String.append_eq_empty_iff.1 hempty).1
    | appendSource source => exact .inr (List.cons_ne_nil _ _)

end Action

namespace Conversation

/-- The last turn, an answer, has more text or more sources, and nothing else has changed. -/
def Grows (c next : Conversation) : Prop :=
  ∃ earlier text sources fragment more,
    c = ⟨earlier ++ [.assistant text sources]⟩ ∧
      next = ⟨earlier ++ [.assistant (text ++ fragment) (sources ++ more)]⟩ ∧
      (fragment ≠ "" ∨ more ≠ [])

theorem EndsWithAnswer.grows {c next : Conversation} (hanswer : c.EndsWithAnswer)
    {actions : List Action} (hbrings : ∀ action ∈ actions, action.Brings) (hsome : actions ≠ [])
    (happly : c.applyAll actions = .ok next) : c.Grows next := by
  obtain ⟨earlier, text, sources, rfl⟩ := hanswer
  rw [applyAll_appends _ _ _ _ fun action hmem ↦ (hbrings action hmem).isAppend] at happly
  cases happly
  exact ⟨earlier, text, sources, _, _, rfl, rfl, Action.joined_or_cited hbrings hsome⟩

end Conversation

/-! ### What payloads bring -/

/-- No reader reads an empty fragment. -/
theorem PayloadReader.content_ne_empty {r next : PayloadReader} {raw : String} {parts : List Part}
    (hread : r.read raw = .ok (parts, next)) : Part.content "" ∉ parts := by
  obtain ⟨fragment, citation, signal, rfl, -⟩ := Protocol.read_cases hread
  have hpieces := r.protocol.content_pieces_ne_empty r.earlier r.seen fragment citation
  cases signal <;> simp [hpieces]

theorem Directive.brings_of_ofPart {parts : List Part} (hcontent : Part.content "" ∉ parts) :
    ∀ action ∈ Directive.actions (parts.map Directive.ofPart), action.Brings := by
  induction parts with
  | nil => simp [Directive.actions]
  | cons part rest ih =>
    rw [List.mem_cons, not_or] at hcontent
    obtain ⟨hfirst, hrest⟩ := hcontent
    cases part with
    | content text =>
      have htext : text ≠ "" := fun hempty ↦ hfirst (by rw [hempty])
      exact List.forall_mem_cons.2 ⟨htext, ih hrest⟩
    | source source => exact List.forall_mem_cons.2 ⟨trivial, ih hrest⟩
    | finished signal => exact ih hrest

namespace Assembler

variable {a : Assembler} {raw : String}

/-- What a payload gives for the conversation brings something. -/
theorem brings_of_feed (a : Assembler) (raw : String) :
    ∀ action ∈ Directive.actions (a.feed raw).1, action.Brings := by
  cases hdone : a.isDone with
  | true =>
    rw [feed_of_isDone a raw hdone]
    simp [Directive.actions]
  | false =>
    cases hread : a.reader.read raw with
    | error error =>
      simp only [feed, hdone, hread]
      simp [Directive.actions]
    | ok read =>
      obtain ⟨parts, reader⟩ := read
      rw [feed_read hdone hread]
      have hcontent := PayloadReader.content_ne_empty hread
      exact Directive.brings_of_ofPart fun hmem ↦
        hcontent ((untilFinished_isPrefix parts).subset hmem)

/-- The conversations that an answer goes through, from the first on: each has more in its last turn
than the one before. -/
theorem isChain_reached (a : Assembler) {c : Conversation} (hanswer : c.EndsWithAnswer)
    (payloads : List String) : (c :: a.reached c payloads).IsChain Conversation.Grows := by
  induction payloads generalizing a c with
  | nil => exact List.isChain_singleton c
  | cons raw rest ih =>
    obtain ⟨next, happly, hnext⟩ := hanswer.applyAll (a.isAppend_of_feed raw)
    have hrest := ih (a.feed raw).2 hnext
    rw [reached_cons happly]
    cases hactions : Directive.actions (a.feed raw).1 with
    | nil =>
      rw [hactions] at happly
      cases happly
      exact hrest
    | cons action more =>
      have hsome : Directive.actions (a.feed raw).1 ≠ [] := by
        rw [hactions]
        exact List.cons_ne_nil _ _
      exact List.isChain_cons_cons.2 ⟨hanswer.grows (a.brings_of_feed raw) hsome happly, hrest⟩

end Assembler

/-- Assembling leads to the last conversation that the answer goes through. -/
theorem assembled_eq_getLast? {a : Assembler} {c : Conversation} (hanswer : c.EndsWithAnswer)
    {payloads : List String} {result : Assembled}
    (hassemble : assembleWith a c payloads = .ok result) :
    result.conversation = (a.reached c payloads).getLast?.getD c := by
  induction payloads generalizing a c with
  | nil =>
    cases hassemble
    rfl
  | cons raw rest ih =>
    obtain ⟨next, happly, hnext⟩ := hanswer.applyAll (a.isAppend_of_feed raw)
    have hlast : (a.reached c (raw :: rest)).getLast?.getD c =
        ((a.feed raw).2.reached next rest).getLast?.getD next := by
      rw [Assembler.reached_cons happly]
      cases hactions : Directive.actions (a.feed raw).1 with
      | nil =>
        rw [hactions] at happly
        cases happly
        rfl
      | cons action more =>
        rw [List.isEmpty_cons, if_neg Bool.false_ne_true, List.singleton_append, List.getLast?_cons]
        rfl
    rw [assembleWith_cons happly] at hassemble
    rw [hlast]
    split at hassemble
    · next hdone =>
      cases hassemble
      rw [Assembler.reached_of_isDone _ hdone]
      rfl
    · exact ih hnext hassemble

/-! ### What is refused -/

namespace Assembler

/-- The errors of the payloads that are refused, in order, up to the end of the answer. -/
def refusals (a : Assembler) : List String → List DecodeError
  | [] => []
  | raw :: rest =>
    if a.isDone then []
    else
      match a.reader.read raw with
      | .error error => error :: (a.feed raw).2.refusals rest
      | .ok _ => (a.feed raw).2.refusals rest

variable {a : Assembler} {raw : String}

theorem refusals_of_isDone (hdone : a.isDone = true) (payloads : List String) :
    a.refusals payloads = [] := by
  cases payloads with
  | nil => rfl
  | cons raw rest => simp [refusals, hdone]

/-- A payload that is refused gives its error, and ends the answer under the policy that halts. -/
theorem feed_error (hopen : a.isDone = false) {error : DecodeError}
    (hread : a.reader.read raw = .error error) :
    (a.feed raw).1 = [.reject error] ∧ (a.policy = .halt → (a.feed raw).2.isDone = true) := by
  simp only [feed, hopen, hread]
  refine ⟨rfl, fun hhalt ↦ ?_⟩
  simp [isDone, hhalt]

theorem policy_feed (a : Assembler) (raw : String) : (a.feed raw).2.policy = a.policy := by
  unfold feed
  split
  · rfl
  · cases a.reader.read raw <;> rfl

/-- Under the policy that halts no payload is refused after the first. -/
theorem length_refusals_le_one (hhalt : a.policy = .halt) (payloads : List String) :
    (a.refusals payloads).length ≤ 1 := by
  induction payloads generalizing a with
  | nil => exact Nat.zero_le 1
  | cons raw rest ih =>
    have hrest := ih ((a.policy_feed raw).trans hhalt)
    cases hdone : a.isDone with
    | true => simp [refusals, hdone]
    | false =>
      cases hread : a.reader.read raw with
      | error error =>
        have hend := (feed_error hdone hread).2 hhalt
        simp [refusals, hdone, hread, refusals_of_isDone hend]
      | ok read => simpa [refusals, hdone, hread] using hrest

end Assembler

end CitedChat
