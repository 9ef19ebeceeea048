import CitedChat.Proofs.Chat.BatchTurn
import CitedChat.Proofs.Chat.Following
import CitedChat.Proofs.Chat.Pieces
import CitedChat.Proofs.Json.Printing
import Mathlib.Data.List.Basic

/-!
An answer is the same whether it comes in pieces or at once: both submissions finish and leave the
same conversation, the question and the turn that the answer makes behind the sources before it.
-/

set_option autoImplicit false

namespace CitedChat

namespace World

section Answers

variable {w : World} {text answer : String} {protocol : Protocol}
  {citations : List protocol.Citation} {transport : Transport} {limit abortAfter : Option Nat}

/-- A streamed answer is the turn that it makes behind the sources of the conversation. -/
theorem submit_streaming_answer (htext : Text.isBlankText text = false)
    (hidle : w.session.gate.busy = false) (hprotocol : w.session.protocol = protocol)
    (hstreams :
      protocol.Streams (w.heard text transport limit abortAfter).payloads answer citations) :
    ∃ ended, w.submit .streaming text transport limit abortAfter = .ok ended ∧
      ended.2 = .outcome .finished ∧
      ended.1.conversation = ⟨w.request text ++
        [.assistant answer (protocol.citeAll w.conversation.sourceCount 0 citations)]⟩ := by
  have hanswer : (w.asked text).conversation.EndsWithAnswer :=
    Conversation.endsWithAnswer_ask w.conversation text
  have hreader : (w.asked text).assembler.reader = ⟨protocol, w.conversation.sourceCount, 0⟩ := by
    rw [← hprotocol, ← w.conversation.sourceCount_ask text]
    rfl
  have hfollows :=
    runStreaming_follows (w.flight limit abortAfter) transport (w.request text) hanswer
  obtain ⟨result, hassemble, hconversation, hending⟩ := hfollows.assembled
  obtain ⟨result', hassemble', hstate, hanswered⟩ :=
    assembleWith_streams hstreams hreader rfl (w.request text) "" []
  rw [conversation_asked] at hassemble
  obtain rfl : result' = result := Except.ok.inj (hassemble'.symm.trans hassemble)
  rw [String.empty_append, List.nil_append] at hanswered
  refine ⟨_, submit_eq w .streaming htext hidle transport limit abortAfter, ?_, ?_⟩
  · rw [run, hending, hstate]
    rfl
  · exact (quiet_conclude _ _ _).conversation.trans (hconversation.trans hanswered)

/-- A replied answer is the turn that it makes behind the sources of the conversation. -/
theorem submit_batch_answer (htext : Text.isBlankText text = false)
    (hidle : w.session.gate.busy = false)
    (hfits : ∀ citation ∈ citations, protocol.Fits citation)
    (hawaits : w.Awaits text transport limit abortAfter) {client : Client}
    (hclient : client.protocol = protocol) {raw : String}
    (hexchange : transport.exchange (w.request text) = client.decodeReply (w.request text) raw)
    (hraw : Json.Tree.parse raw = .ok (protocol.answerTree answer citations).sorted) :
    ∃ ended, w.submit .batch text transport limit abortAfter = .ok ended ∧
      ended.2 = .outcome .finished ∧
      ended.1.conversation = ⟨w.request text ++
        [.assistant answer (protocol.citeAll w.conversation.sourceCount 0 citations)]⟩ := by
  have hreply : transport.exchange (w.request text) = .ok (.turn (.assistant answer
      (protocol.citeAll w.conversation.sourceCount 0 citations))) := by
    rw [hexchange, Client.decodeReply, hclient, Protocol.decodeReply_answer hfits hraw,
      sourceCount_request]
    rfl
  have hcall := (quiet_call (w.asked text) (w.flight limit abortAfter) transport.connect
    (w.request text)).conversation
  rw [conversation_asked] at hcall
  have hadopt := adopt_assistant hcall (w.flight limit abortAfter) answer
    (protocol.citeAll w.conversation.sourceCount 0 citations)
  have hrun : (w.asked text).run .batch (w.flight limit abortAfter) transport (w.request text) =
      World.replace ((w.asked text).call (w.flight limit abortAfter) transport.connect
        (w.request text)).1 (w.flight limit abortAfter) ⟨w.request text ++
          [.assistant answer (protocol.citeAll w.conversation.sourceCount 0 citations)]⟩ := by
    rw [Awaits] at hawaits
    rw [run, runBatch_eq, ← hadopt]
    rcases hcalled : (w.asked text).call (w.flight limit abortAfter) transport.connect
      (w.request text) with ⟨u, ending⟩
    rw [hcalled] at hawaits
    obtain rfl : ending = none := hawaits
    simp only [hreply]
  refine ⟨_, submit_eq w .batch htext hidle transport limit abortAfter, ?_, ?_⟩
  · rw [hrun]
    rfl
  · rw [hrun, (quiet_conclude _ _ _).conversation]
    rfl

end Answers

/-- An answer that is streamed in any pieces leaves the same conversation as one that is replied at
once, with the same ordinals and ranks. -/
theorem submit_streaming_agrees_submit_batch (w : World) {text : String}
    (htext : Text.isBlankText text = false) (hidle : w.session.gate.busy = false)
    {protocol : Protocol} (hprotocol : w.session.protocol = protocol) {answer : String}
    {citations : List protocol.Citation} (hfits : ∀ citation ∈ citations, protocol.Fits citation)
    {streamed : Transport} {limit abortAfter : Option Nat}
    (hstreams : protocol.Streams (w.heard text streamed limit abortAfter).payloads answer citations)
    {exchanged : Transport} {limit' abortAfter' : Option Nat}
    (hawaits : w.Awaits text exchanged limit' abortAfter') {client : Client}
    (hclient : client.protocol = protocol) {raw : String}
    (hexchange : exchanged.exchange (w.request text) = client.decodeReply (w.request text) raw)
    (hraw : Json.Tree.parse raw = .ok (protocol.answerTree answer citations).sorted) :
    ∃ byStream byBatch,
      w.submit .streaming text streamed limit abortAfter = .ok byStream ∧
      w.submit .batch text exchanged limit' abortAfter' = .ok byBatch ∧
      byStream.2 = .outcome .finished ∧ byBatch.2 = .outcome .finished ∧
      byStream.1.conversation = byBatch.1.conversation ∧
      byBatch.1.conversation =
        ⟨w.conversation.turns ++ [.user text] ++
          [.assistant answer (protocol.citeAll w.conversation.sourceCount 0 citations)]⟩ := by
  obtain ⟨byStream, hsubmit, hend, hconversation⟩ :=
    submit_streaming_answer htext hidle hprotocol hstreams
  obtain ⟨byBatch, hsubmit', hend', hconversation'⟩ :=
    submit_batch_answer htext hidle hfits hawaits hclient hexchange hraw
  exact ⟨byStream, byBatch, hsubmit, hsubmit', hend, hend', hconversation.trans hconversation'.symm,
    hconversation'⟩

/-- A legacy answer in two pieces, behind one source of an earlier turn. -/
theorem submit_streaming_agrees_submit_batch_legacy :
    let w : World :=
      { session :=
          { protocol := .legacy
            conversation := ⟨[.user "p", .assistant "q" [⟨1, 0, "c", "u", ""⟩]]⟩ } }
    let payloads :=
      ["\x7b\"content\":\"a\"\x7d", "\x7b\"source\":[\"l\",\"v\"],\"finished\":\"\"\x7d"]
    let reply := "\x7b\"Assistant\":[\"a\",[[\"l\",\"v\"]]]\x7d"
    let client : Client := { baseUrl := "", protocol := .legacy }
    let transport : Transport :=
      { stream := fun _ ↦ .ok (replay payloads)
        exchange := fun request ↦ client.decodeReply request reply }
    ∃ byStream byBatch,
      w.submit .streaming "hi" transport = .ok byStream ∧
      w.submit .batch "hi" transport = .ok byBatch ∧
      byStream.2 = .outcome .finished ∧ byBatch.2 = .outcome .finished ∧
      byStream.1.conversation = byBatch.1.conversation ∧
      byBatch.1.conversation =
        ⟨[.user "p", .assistant "q" [⟨1, 0, "c", "u", ""⟩], .user "hi",
          .assistant "a" [⟨2, 0, "l", "v", ""⟩]]⟩ := by
  intro w payloads reply client transport
  have hplain : transport.IsPlain := by simp [Transport.IsPlain, transport]
  have hfirst : Protocol.Brings .legacy "\x7b\"content\":\"a\"\x7d" "a" none none :=
    ⟨some "a", by decide +kernel, rfl⟩
  have hlast : Protocol.Brings .legacy "\x7b\"source\":[\"l\",\"v\"],\"finished\":\"\"\x7d" ""
      (some ("l", "v")) (some "") :=
    ⟨none, by decide +kernel, rfl⟩
  have hstreams : Protocol.Streams .legacy payloads "a" [("l", "v")] :=
    .more hfirst (.inl (by decide)) (.last [] hlast (.inr rfl))
  have hheard := w.heard_replay "hi" hplain rfl payloads rfl
  have hprotocol : w.session.protocol = .legacy := rfl
  have hexchange :
      transport.exchange (w.request "hi") = client.decodeReply (w.request "hi") reply := rfl
  have hraw : Json.Tree.parse reply =
      .ok (Protocol.answerTree .legacy "a" [("l", "v")]).sorted := by
    have htext : (Protocol.answerTree .legacy "a" [("l", "v")]).text = reply := by decide +kernel
    have hsources (depth : Nat) :
        (Json.Tree.array [.array [.string "l", .string "v"]]).Readable (depth + 2) :=
      .array (List.forall_mem_singleton.2 (.array (by simp [Json.Tree.Readable.string])))
    rw [← htext]
    exact Json.Tree.parse_text (.object (List.forall_mem_singleton.2
      (.array (List.forall_mem_cons.2 ⟨.string "a", List.forall_mem_singleton.2 (hsources _)⟩))))
  exact submit_streaming_agrees_submit_batch w (by decide) rfl hprotocol (by simp [Protocol.Fits])
    (by rw [hheard]; exact hstreams) (w.awaits_of_isPlain "hi" hplain rfl) rfl hexchange hraw

end World

end CitedChat
