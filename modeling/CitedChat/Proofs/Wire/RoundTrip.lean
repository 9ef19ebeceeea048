import CitedChat.Proofs.Transcript.RoundTrip

/-!
What the current protocol writes is read back: the parts of a payload (`Payload.decodeObject_text`),
the transcript of a request and a single turn (`Protocol.decodeReply_array`,
`Protocol.decodeReply_object`).
-/

set_option autoImplicit false

namespace CitedChat

open Json

/-! ### Payloads -/

namespace Payload

/-- The numbers of the source fit. -/
def Fits (payload : Payload) : Prop :=
  ∀ source ∈ payload.source, source.Fits

/-- The members of a payload are those of its fields that have values. -/
theorem lookup_members (payload : Payload) : ∃ members, payload.toTree = .object members ∧
    (members.map Prod.fst).Nodup ∧ (∀ m ∈ members, m.1 ∈ ["content", "source", "finished"]) ∧
    Tree.lookup "content" members = payload.content.map .string ∧
    Tree.lookup "source" members = payload.source.map Source.toTree ∧
    Tree.lookup "finished" members = payload.finished.map .string := by
  obtain ⟨content, source, finished⟩ := payload
  refine ⟨_, rfl, ?_⟩
  cases content <;> cases source <;> cases finished <;> simp [Tree.lookup_cons, Tree.lookup_nil]

theorem restores_toTree {depth : Nat} {payload : Payload} (hfits : payload.Fits) :
    decoder.Restores (depth + 2) payload.toTree payload := by
  have htext (text : Option String) :
      Decoder.string.optional.RestoresField (depth + 1) (text.map .string) text :=
    Decoder.restoresField_optional (fun text _ ↦ Decoder.restores_string text) fun _ _ ↦ nofun
  have hsource : Source.decoder.optional.RestoresField (depth + 1)
      (payload.source.map Source.toTree) payload.source :=
    Decoder.restoresField_optional (fun source hmem ↦ Source.restores_toTree (hfits source hmem))
      fun _ _ ↦ nofun
  obtain ⟨members, htree, hkeys, hknown, hlookups⟩ := payload.lookup_members
  unfold decoder
  rw [htree]
  refine Decoder.Restores.map (x := (payload.content, payload.source, payload.finished, ()))
    (Decoder.restores_record _ (by simp [Fields.names]) hkeys ?_ ?_) _
  · exact hknown
  · simp [Fields.Restores, hlookups, htext, hsource]

/-- The parts of a payload are those of its fields that have values, apart from an empty text. -/
theorem parts_eq (payload : Payload) : payload.parts =
    (payload.content.toList.filter (· ≠ "")).map .content ++
      payload.source.toList.map .source ++ payload.finished.toList.map .finished := by
  rw [parts, Protocol.content_parts_eq_filter]
  cases payload.source <;> cases payload.finished <;> rfl

/-- A payload that is written is read back. -/
theorem decodeObject_text {payload : Payload} (hfits : payload.Fits) :
    decodeObject decoder payload.toTree.text = .ok payload := by
  have hrestores : decoder.Restores depthLimit payload.toTree payload := restores_toTree hfits
  have hobject : parseObject payload.toTree.text = .ok payload.toTree.sorted := by
    rw [parseObject, Tree.parse_text hrestores.readable]
    rfl
  have hdecode : decoder.decode payload.toTree.sorted = .ok payload := hrestores.sorted .whole
  simp only [decodeObject, hobject, bind, Except.bind, hdecode]
  rfl

end Payload

/-! ### Replies -/

namespace Protocol

/-- A list of turns is a transcript. -/
theorem decodeReply_array {items : List Tree} {turns : List Turn}
    (h : Turn.decoder.list.Restores depthLimit (.array items) turns) (earlier : Nat) :
    decodeReply .current earlier (Tree.array items).text = .ok (.transcript turns) := by
  have hparse := Tree.parse_text h.readable
  have hdecode : Turn.decoder.list.decode (Tree.array items).sorted = .ok turns := h.sorted .whole
  rw [Tree.sorted] at hparse hdecode
  simp only [decodeReply, hparse, decodeReply.decode, hdecode]
  rfl

/-- A turn by itself is an answer. -/
theorem decodeReply_object {members : List (String × Tree)} {turn : Turn}
    (h : Turn.decoder.Restores depthLimit (.object members) turn) (earlier : Nat) :
    decodeReply .current earlier (Tree.object members).text = .ok (.turn turn) := by
  have hparse := Tree.parse_text h.readable
  have hdecode : Turn.decoder.decode (Tree.object members).sorted = .ok turn := h.sorted .whole
  rw [Tree.sorted] at hparse hdecode
  simp only [decodeReply, hparse, decodeReply.decode, hdecode]
  rfl

/-- What the current protocol writes is read back as it was: a payload as its parts, a transcript
from the body of a request, bare or from under its key, and a turn by itself. -/
theorem current_roundTrip (payload : Payload) (hpayload : payload.Fits) (turns : List Turn)
    (hturns : ∀ turn ∈ turns, turn.Fits) (client : Client) (earlier seen : Nat) :
    PayloadReader.read ⟨.current, earlier, seen⟩ payload.toTree.text =
        .ok ((payload.content.toList.filter (· ≠ "")).map .content ++
          payload.source.toList.map .source ++ payload.finished.toList.map .finished,
          ⟨.current, earlier, seen⟩) ∧
      decodeReply .current earlier
          ({ client with envelope := .bare }.requestBody turns).sorted.text =
        .ok (.transcript turns) ∧
      (∃ members messages,
        Tree.parse ({ client with envelope := .wrapped }.requestBody turns).sorted.text =
            .ok (.object members) ∧
          Tree.lookup "messages" members = some messages ∧
          decodeReply .current earlier messages.text = .ok (.transcript turns)) ∧
      ∀ turn ∈ turns, decodeReply .current earlier turn.toTree.text = .ok (.turn turn) := by
  have htranscript (depth : Nat) :
      Turn.decoder.list.Restores (depth + 5) (Tree.array (turns.map Turn.toTree)).sorted turns :=
    (Decoder.Restores.list fun turn hmem ↦ Turn.restores_toTree (hturns turn hmem)).sorted_tree
  refine ⟨?_, ?_, ?_, fun turn hmem ↦ ?_⟩
  · rw [PayloadReader.read, Payload.decodeObject_text hpayload, ← payload.parts_eq]
    rfl
  · exact decodeReply_array (htranscript 122) earlier
  · have hreadable : (Envelope.wrapped.body turns).sorted.Readable depthLimit :=
      .object (List.forall_mem_singleton.2 (htranscript 121).readable)
    have hparse := Tree.parse_text hreadable
    rw [Tree.sorted_sorted] at hparse
    exact ⟨_, _, hparse, rfl, decodeReply_array (htranscript 122) earlier⟩
  · have h : Turn.decoder.Restores depthLimit turn.toTree turn :=
      Turn.restores_toTree (hturns turn hmem)
    cases turn with
    | user text => exact decodeReply_object h earlier
    | assistant text sources => exact decodeReply_object h earlier

/-- A source at the ends of its ranges, behind an empty text, and turns with characters that are
escaped. -/
theorem current_roundTrip_farthest :
    let source : Source := ⟨Word.limit - 1, -Word.signedLimit, "\"", "/\\", "\x01é"⟩
    let payload : Payload := ⟨some "", some source, some ""⟩
    let turns : List Turn := [.user "\n", .assistant "" [source]]
    payload.Fits ∧ (∀ turn ∈ turns, turn.Fits) ∧
      PayloadReader.read ⟨.current, 3, 1⟩ payload.toTree.text =
        .ok ([.source source, .finished ""], ⟨.current, 3, 1⟩) ∧
      decodeReply .current 3 ((Envelope.bare.body turns).sorted.text) = .ok (.transcript turns) ∧
      ∀ turn ∈ turns, decodeReply .current 3 turn.toTree.text = .ok (.turn turn) := by
  intro source payload turns
  have hsource : source.Fits := ⟨by decide, by decide⟩
  have hpayload : payload.Fits := by
    rintro _ ⟨⟩
    exact hsource
  have hturns : ∀ turn ∈ turns, turn.Fits :=
    List.forall_mem_cons.2 ⟨List.forall_mem_nil _,
      List.forall_mem_singleton.2 (List.forall_mem_singleton.2 hsource)⟩
  obtain ⟨hparts, hbare, -, hturn⟩ :=
    current_roundTrip payload hpayload turns hturns ⟨"http://localhost", .current, .wrapped⟩ 3 1
  exact ⟨hpayload, hturns, hparts, hbare, hturn⟩

end Protocol

end CitedChat
