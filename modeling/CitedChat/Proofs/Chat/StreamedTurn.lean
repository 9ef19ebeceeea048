import CitedChat.Proofs.Chat.Following
import Mathlib.Data.List.Basic

/-!
A streamed turn is the assembling of what its transport delivers: a submission leaves the
conversation that `assemble` gives for the payloads heard, tells its subscribers the conversations
in between, and ends as the assembled answer does, or, if that is open, as the transport made it
end.
-/

set_option autoImplicit false

namespace CitedChat

namespace World

/-- A streamed turn refines the assembler. Whatever the transport's script and whatever ends the
turn, the conversation left behind is the one assembled from the payloads heard before that end,
also when the submission is given up there; subscribers are told the question and then each
conversation that a payload leads to which brings something; and the turn ends as the answer does,
or, if that is still open, as the transport made it end. What is heard are the first payloads of the
script, and of a recorded stream that nothing disturbs it is all of them, an open answer being
incomplete. -/
theorem submit_streaming_assembles (w : World) {text : String}
    (htext : Text.isBlankText text = false) (hidle : w.session.gate.busy = false)
    (transport : Transport) (limit abortAfter : Option Nat) :
    ∃ ended result,
      w.submit .streaming text transport limit abortAfter = .ok ended ∧
      assemble (w.conversation.ask text) (w.heard text transport limit abortAfter).payloads
        w.session.protocol w.session.policy = .ok result ∧
      ended.1.conversation = result.conversation ∧
      ended.1.leave.conversation = result.conversation ∧
      ended.2 = result.state.ending (w.heard text transport limit abortAfter).ending ∧
      ended.1.snapshots = w.snapshots ++ w.conversation.ask text ::
        (List.range (w.heard text transport limit abortAfter).payloads.length).filterMap
          ((w.asked text).assembler.reachedAt? (w.conversation.ask text)
            (w.heard text transport limit abortAfter).payloads) ∧
      (w.heard text transport limit abortAfter).payloads <+:
        (transport.script (w.request text)).filterMap Item.payload? ∧
      (transport.IsPlain → w.session.timeout = none → limit = none → abortAfter = none →
        ∀ payloads, transport.stream (w.request text) = .ok (replay payloads) →
          w.heard text transport limit abortAfter = ⟨payloads, .outcome .incomplete⟩) := by
  have hanswer : (w.asked text).conversation.EndsWithAnswer :=
    Conversation.endsWithAnswer_ask w.conversation text
  have hfollows :=
    runStreaming_follows (w.flight limit abortAfter) transport (w.request text) hanswer
  obtain ⟨result, hassemble, hconversation, hending⟩ := hfollows.assembled
  refine ⟨_, result, submit_eq w .streaming htext hidle transport limit abortAfter, hassemble, ?_,
    ?_, hending, ?_, payloads_listen_isPrefix _ false _ _, ?_⟩
  · exact (quiet_conclude _ _ _).conversation.trans hconversation
  · exact ((quiet_conclude _ _ _).trans (undisturbed_leave _).quiet).conversation.trans
      hconversation
  · rw [(quiet_conclude _ _ _).snapshots, run, hfollows.snapshots, snapshots_asked,
      Assembler.reached_eq _ hanswer, List.append_assoc]
    rfl
  · rintro hplain htimeout rfl rfl payloads hstream
    exact heard_replay w text hplain htimeout payloads hstream

theorem submit_streaming_assembles_answer :
    Text.isBlankText "hi" = false ∧ ({} : World).session.gate.busy = false ∧
      ∃ ended,
        ({} : World).submit .streaming "hi"
          { stream := fun _ ↦ .ok (replay
              ["\x7b\"content\":\"a\"\x7d", "\x7b", "\x7b\"finished\":\"\"\x7d"])
            exchange := fun _ ↦ .error (.http "closed") } = .ok ended ∧
        ended.1.conversation = ⟨[.user "hi", .assistant "a" []]⟩ ∧
        ended.2 = .outcome .finished := by
  have htext : Text.isBlankText "hi" = false := by decide
  obtain ⟨ended, result, hsubmit, hassemble, hconversation, -, hending, -, -, hheard⟩ :=
    submit_streaming_assembles {} htext rfl
      { stream := fun _ ↦ .ok (replay
          ["\x7b\"content\":\"a\"\x7d", "\x7b", "\x7b\"finished\":\"\"\x7d"])
        exchange := fun _ ↦ .error (.http "closed") } none none
  rw [hheard (by simp [Transport.IsPlain]) rfl rfl rfl _ rfl] at hassemble hending
  have hresult : assemble (Conversation.ask {} "hi")
      ["\x7b\"content\":\"a\"\x7d", "\x7b", "\x7b\"finished\":\"\"\x7d"] .current .skip =
      .ok ⟨⟨[.user "hi", .assistant "a" []]⟩, .finished, ⟨1, 0, 1, 0⟩⟩ := by decide +kernel
  obtain rfl : _ = result := Except.ok.inj (hresult.symm.trans hassemble)
  exact ⟨htext, rfl, ended, hsubmit, hconversation, hending⟩

end World

end CitedChat
