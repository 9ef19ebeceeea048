import CitedChat.Proofs.Chat.NumberedTurn
import CitedChat.Proofs.Chat.Operation

/-!
A session over the legacy protocol that starts empty has a numbered transcript in every state that
it reaches, whatever is done with it: each operation keeps the transcript numbered
(`World.keepsNumbers_operate`), and so does every run of them (`World.keepsNumbers_run`). Only a
transcript that is put in from outside would have to be numbered on its own.
-/

set_option autoImplicit false

namespace CitedChat

/-- An operation of a session over the legacy protocol, which brings no transcript from outside. -/
def Operation.IsLegacy : Operation → Prop
  | .submit _ _ transport _ _ => transport.RepliesLegacy
  | .setConversation _ => False
  | _ => True

namespace World

variable {w : World}

/-- Every operation keeps the transcript numbered. -/
theorem keepsNumbers_operate (hprotocol : w.session.protocol = .legacy)
    (hnumbered : Numbered w.conversation.turns) {operation : Operation}
    (hlegacy : operation.IsLegacy) : KeepsNumbers w (w.operate operation) := by
  have hsame : KeepsNumbers w w := keepsNumbers_of_quiet hnumbered rfl (.refl w)
  cases operation with
  | submit mode text transport limit abortAfter =>
    rw [operate]
    have hput := w.attempts (mode.getD w.session.mode) text transport limit abortAfter
    generalize w.attempt (mode.getD w.session.mode) text transport limit abortAfter = result
      at hput ⊢
    cases hput with
    | refused hsubmit => exact hsame
    | submitted hsubmit => exact keepsNumbers_submit hprotocol hnumbered hlegacy hsubmit
    | brokenOff hbeyond htext hidle =>
      have hasked := keepsNumbers_asked hnumbered text
      have hleave := undisturbed_leave (w.asked text)
      exact hasked.trans (keepsNumbers_of_quiet hasked.numbered hleave.protocol hleave.quiet)
  | giveUp =>
    have hleave := undisturbed_leave w
    exact keepsNumbers_of_quiet hnumbered hleave.protocol hleave.quiet
  | abort => exact keepsNumbers_of_quiet hnumbered rfl ⟨rfl, rfl⟩
  | clear =>
    simp only [operate, Session.clear, Session.setConversation]
    cases w.session.gate.busy with
    | true => exact hsame
    | false => exact ⟨rfl, numbered_nil, [], (List.append_nil _).symm, fun _ hmem ↦ by cases hmem⟩
  | setConversation conversation => exact hlegacy.elim
  | setMode mode => exact keepsNumbers_of_quiet hnumbered rfl ⟨rfl, rfl⟩
  | setTimeout timeout => exact keepsNumbers_of_quiet hnumbered rfl ⟨rfl, rfl⟩
  | awaitIdle ms =>
    rw [operate, awaitIdle]
    split <;> exact keepsNumbers_of_quiet hnumbered rfl ⟨rfl, rfl⟩
  | watch =>
    have hwatch : Undisturbed w w.watch := ⟨rfl, rfl⟩
    have hwake := hwatch.trans (undisturbed_wake w.watch)
    exact keepsNumbers_of_quiet hnumbered hwake.protocol hwake.quiet

/-- Every run of operations keeps the transcript numbered. -/
theorem keepsNumbers_run (hprotocol : w.session.protocol = .legacy)
    (hnumbered : Numbered w.conversation.turns) {operations : List Operation}
    (hlegacy : ∀ operation ∈ operations, operation.IsLegacy) :
    KeepsNumbers w (w.operateAll operations) := by
  induction operations generalizing w with
  | nil => exact keepsNumbers_of_quiet hnumbered rfl (.refl w)
  | cons operation rest ih =>
    obtain ⟨hfirst, hrest⟩ := List.forall_mem_cons.1 hlegacy
    have hstep := keepsNumbers_operate hprotocol hnumbered hfirst
    exact hstep.trans (ih (hstep.protocol.trans hprotocol) hstep.numbered hrest)

/-- In every state that a session over the legacy protocol reaches from the empty conversation, and
in every conversation that it tells on the way, the ordinals count the sources of the transcript
from one on and the ranks count those of each turn from zero; so no ordinal occurs twice, and an
ordinal leads to the source at its place. -/
theorem legacy_sources_numbered {start : World} (hprotocol : start.session.protocol = .legacy)
    (hempty : start.conversation = {}) {operations : List Operation}
    (hlegacy : ∀ operation ∈ operations, operation.IsLegacy) :
    ∃ told, (start.operateAll operations).snapshots = start.snapshots ++ told ∧
      ∀ c ∈ (start.operateAll operations).conversation :: told,
        (∀ (k : Nat) (source : Source), (allSources c.turns)[k]? = some source →
          source.ordinal = k + 1) ∧
        (∀ turn ∈ c.turns, ∀ (k : Nat) (source : Source), turn.sources[k]? = some source →
          source.index = k) ∧
        ((allSources c.turns).map Source.ordinal).Nodup ∧
        (∀ ordinal, c.findSource? ordinal =
          if 1 ≤ ordinal ∧ ordinal ≤ c.sourceCount then (allSources c.turns)[ordinal - 1]?
          else none) := by
  have hnumbered : Numbered start.conversation.turns := by
    rw [hempty]
    exact numbered_nil
  have hrun := keepsNumbers_run hprotocol hnumbered hlegacy
  obtain ⟨told, hsnapshots, htold⟩ := hrun.told
  refine ⟨told, hsnapshots, fun c hmem ↦ ?_⟩
  have hc : Numbered c.turns := by
    obtain rfl | hmem := List.mem_cons.1 hmem
    · exact hrun.numbered
    · exact htold c hmem
  exact ⟨hc.ordinal, hc.index, hc.nodup_ordinals, hc.findSource?⟩

theorem legacy_sources_numbered_two_sources :
    let client : Client := { baseUrl := "", protocol := .legacy }
    let reply := "\x7b\"Assistant\":[\"a\",[[\"l\",\"u\"],[\"m\",\"v\"]]]\x7d"
    let transport : Transport :=
      { stream := fun _ ↦ .ok []
        exchange := fun request ↦ client.decodeReply request reply }
    let start : World := { session := { protocol := .legacy } }
    let operations : List Operation :=
      [.setMode .batch, .submit none "hi" transport none none, .abort]
    (start.operateAll operations).conversation =
        ⟨[.user "hi", .assistant "a" [⟨1, 0, "l", "u", ""⟩, ⟨2, 1, "m", "v", ""⟩]]⟩ ∧
      (start.operateAll operations).conversation.findSource? 2 = some ⟨2, 1, "m", "v", ""⟩ := by
  intro client reply transport start operations
  have hlegacy : transport.RepliesLegacy := by
    intro request answer hexchange
    exact ⟨client, reply, rfl, hexchange⟩
  have hoperations : ∀ operation ∈ operations, operation.IsLegacy := by
    simp [operations, Operation.IsLegacy, hlegacy]
  have hprotocol : start.session.protocol = .legacy := rfl
  have hempty : start.conversation = {} := rfl
  obtain ⟨told, -, hnumbered⟩ := legacy_sources_numbered hprotocol hempty hoperations
  obtain ⟨-, -, -, hfind⟩ := hnumbered _ List.mem_cons_self
  have hconversation : (start.operateAll operations).conversation =
      ⟨[.user "hi", .assistant "a" [⟨1, 0, "l", "u", ""⟩, ⟨2, 1, "m", "v", ""⟩]]⟩ := by
    decide +kernel
  refine ⟨hconversation, (hfind 2).trans ?_⟩
  rw [hconversation]
  decide

end World

end CitedChat
