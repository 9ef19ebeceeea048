import CitedChat.Proofs.Chat.BatchTurn
import CitedChat.Proofs.Chat.Following
import CitedChat.Proofs.Chat.Pieces
import CitedChat.Proofs.Library
import CitedChat.Proofs.Transcript.Numbering

/-!
A turn of the legacy protocol keeps a transcript numbered. While an answer is streamed the reader's
count agrees with the sources that the answer has so far and with those before it
(`Assembler.CountsOn`); every payload keeps this up, also one that is refused (`CountsOn.feed`). A
reply, whether it is one turn or a whole transcript, comes numbered (`decodeReply_legacy_cases`). So
a submission leaves and tells numbered transcripts only (`World.keepsNumbers_submit`).
-/

set_option autoImplicit false

namespace CitedChat

/-! ### Streamed answers -/

/-- What a legacy reader reads is a piece of an answer, in the words of the legacy protocol. -/
theorem read_legacy_cases {earlier seen : Nat} {raw : String} {parts : List Part}
    {reader : PayloadReader}
    (hread : PayloadReader.read ⟨.legacy, earlier, seen⟩ raw = .ok (parts, reader)) :
    ∃ (fragment : String) (pair : Option (String × String)) (signal : Option String),
      parts = Protocol.pieces .legacy earlier seen fragment pair ++
          (signal.map Part.finished).toList ∧
        reader = ⟨.legacy, earlier, seen + pair.toList.length⟩ :=
  Protocol.read_cases hread

namespace Assembler

/-- A legacy assembler counts on: so many sources before the answer and so many in it as the
conversation has, which is numbered. -/
structure CountsOn (a : Assembler) (c : Conversation) : Prop where
  answer : ∃ before text sources, c = ⟨before ++ [.assistant text sources]⟩ ∧
    a.reader = ⟨.legacy, sourceCount before, sources.length⟩
  numbered : Numbered c.turns

variable {a : Assembler} {c : Conversation}

/-- A payload from which nothing is read leaves the counts as they are. -/
theorem CountsOn.of_nothing (hcounts : a.CountsOn c) {b : Assembler}
    (hreader : b.reader = a.reader) :
    b.CountsOn c where
  answer := by
    rw [hreader]
    exact hcounts.answer
  numbered := hcounts.numbered

/-- Sources that are appended to an answer are numbered by the counts. -/
theorem CountsOn.feed (hcounts : a.CountsOn c) (raw : String) {next : Conversation}
    (happly : c.applyAll (Directive.actions (a.feed raw).1) = .ok next) :
    (a.feed raw).2.CountsOn next := by
  cases hdone : a.isDone with
  | true =>
    rw [feed_of_isDone a raw hdone] at happly ⊢
    cases happly
    exact hcounts.of_nothing rfl
  | false =>
    cases hread : a.reader.read raw with
    | error error =>
      have hfeed : Directive.actions (a.feed raw).1 = [] ∧ (a.feed raw).2.reader = a.reader := by
        simp only [Assembler.feed, hdone, hread]
        exact ⟨rfl, rfl⟩
      rw [hfeed.1] at happly
      cases happly
      exact hcounts.of_nothing hfeed.2
    | ok read =>
      obtain ⟨before, text, sources, rfl, hreader⟩ := hcounts.answer
      obtain ⟨parts, reader⟩ := read
      have hfeed := feed_read hdone hread
      rw [hreader] at hread
      -- What was read is a piece of the answer, and the reader counted its citation.
      obtain ⟨fragment, pair, signal, rfl, rfl⟩ := read_legacy_cases hread
      obtain ⟨-, hcited, -⟩ :=
        actions_pieces .legacy (sourceCount before) sources.length fragment pair signal
      rw [Conversation.applyAll_appends _ _ _ _ (a.isAppend_of_feed raw)] at happly
      cases happly
      have hnumber : Action.cited (Directive.actions (a.feed raw).1) =
          LegacyTurn.number (sourceCount before) sources.length pair.toList := by
        rw [hfeed]
        refine hcited.trans ?_
        cases pair <;> rfl
      obtain ⟨hbefore, hanswer⟩ := (numbered_append_iff before _).1 hcounts.numbered
      rw [hnumber]
      refine ⟨⟨before, _, _, rfl, ?_⟩, (numbered_append_iff before _).2 ⟨hbefore, ?_⟩⟩
      · rw [hfeed, List.length_append, length_number]
      · exact NumberedFrom.append_number hanswer pair.toList

/-- Assembling an answer goes through numbered conversations only, and leads to one. -/
theorem CountsOn.assembled (hcounts : a.CountsOn c) (payloads : List String) :
    (∀ result, assembleWith a c payloads = .ok result → Numbered result.conversation.turns) ∧
      ∀ x ∈ a.reached c payloads, Numbered x.turns := by
  induction payloads generalizing a c with
  | nil =>
    refine ⟨fun result hassemble ↦ ?_, fun x hmem ↦ absurd hmem List.not_mem_nil⟩
    cases hassemble
    exact hcounts.numbered
  | cons raw rest ih =>
    obtain ⟨before, text, sources, hanswer, -⟩ := hcounts.answer
    have hends : c.EndsWithAnswer := ⟨before, text, sources, hanswer⟩
    obtain ⟨next, happly, -⟩ := hends.applyAll (a.isAppend_of_feed raw)
    have hnext := hcounts.feed raw happly
    obtain ⟨hrest, hreached⟩ := ih hnext
    refine ⟨fun result hassemble ↦ ?_, fun x hmem ↦ ?_⟩
    · rw [assembleWith_cons happly] at hassemble
      split at hassemble
      · cases hassemble
        exact hnext.numbered
      · exact hrest result hassemble
    · rw [reached_cons happly, List.mem_append] at hmem
      obtain hmem | hmem := hmem
      · split at hmem
        · exact absurd hmem List.not_mem_nil
        · rw [List.mem_singleton.1 hmem]
          exact hnext.numbered
      · exact hreached x hmem

end Assembler

/-! ### Replies -/

/-- The replies of a transport are texts that a client of the legacy protocol decoded. -/
def Transport.RepliesLegacy (transport : Transport) : Prop :=
  ∀ request reply, transport.exchange request = .ok reply →
    ∃ (client : Client) (raw : String), client.protocol = .legacy ∧
      client.decodeReply request raw = .ok reply

/-- A legacy reply is a transcript numbered from one on, or a turn that counts on from the request.
-/
theorem decodeReply_legacy_cases {earlier : Nat} {raw : String} {reply : Reply}
    (hdecode : Protocol.legacy.decodeReply earlier raw = .ok reply) :
    (∃ turns, reply = .transcript (LegacyTurn.upgradeAll 0 turns)) ∨
      ∃ turn : LegacyTurn, reply = .turn (turn.upgrade earlier) := by
  rw [Protocol.decodeReply] at hdecode
  split at hdecode
  · cases hdecode
  · split at hdecode
    · obtain ⟨turns, -, rfl⟩ := Except.map_eq_ok (Except.mapError_eq_ok hdecode)
      exact .inl ⟨turns, rfl⟩
    · obtain ⟨turn, -, rfl⟩ := Except.map_eq_ok (Except.mapError_eq_ok hdecode)
      exact .inr ⟨turn, rfl⟩
    · cases hdecode

theorem Transport.RepliesLegacy.cases {transport : Transport} (hlegacy : transport.RepliesLegacy)
    {request : List Turn} {reply : Reply} (hexchange : transport.exchange request = .ok reply) :
    (∃ turns, reply = .transcript (LegacyTurn.upgradeAll 0 turns)) ∨
      ∃ turn : LegacyTurn, reply = .turn (turn.upgrade (sourceCount request)) := by
  obtain ⟨client, raw, hclient, hdecode⟩ := hlegacy request reply hexchange
  rw [Client.decodeReply, hclient] at hdecode
  cases hreply : Protocol.legacy.decodeReply (sourceCount request) raw with
  | error error =>
    rw [hreply] at hdecode
    cases hdecode
  | ok decoded =>
    rw [hreply] at hdecode
    cases hdecode
    exact decodeReply_legacy_cases hreply

/-! ### Submissions -/

namespace World

/-- From one world to another the protocol stays, and the conversation reached and those told on the
way are numbered. -/
structure KeepsNumbers (w v : World) : Prop where
  protocol : v.session.protocol = w.session.protocol
  numbered : Numbered v.conversation.turns
  told : ∃ told, v.snapshots = w.snapshots ++ told ∧ ∀ c ∈ told, Numbered c.turns

variable {u v w : World}

theorem KeepsNumbers.trans (hfirst : KeepsNumbers u v) (hsecond : KeepsNumbers v w) :
    KeepsNumbers u w where
  protocol := hsecond.protocol.trans hfirst.protocol
  numbered := hsecond.numbered
  told := by
    obtain ⟨told, hsnapshots, htold⟩ := hfirst.told
    obtain ⟨more, hsnapshots', hmore⟩ := hsecond.told
    refine ⟨told ++ more, ?_, fun c hmem ↦ ?_⟩
    · rw [hsnapshots', hsnapshots, List.append_assoc]
    · obtain hmem | hmem := List.mem_append.1 hmem
      · exact htold c hmem
      · exact hmore c hmem

theorem keepsNumbers_of_quiet (hnumbered : Numbered w.conversation.turns)
    (hprotocol : v.session.protocol = w.session.protocol) (hquiet : Quiet w v) :
    KeepsNumbers w v where
  protocol := hprotocol
  numbered := by
    rw [hquiet.conversation]
    exact hnumbered
  told := by
    refine ⟨[], ?_, fun _ hmem ↦ absurd hmem List.not_mem_nil⟩
    rw [hquiet.snapshots, List.append_nil]

theorem keepsNumbers_replace (w : World) (f : Flight) {c : Conversation}
    (hnumbered : Numbered c.turns) : KeepsNumbers w (w.replace f c).1 where
  protocol := rfl
  numbered := hnumbered
  told := by
    refine ⟨[c], snapshots_replace w f c, fun x hmem ↦ ?_⟩
    rw [List.mem_singleton.1 hmem]
    exact hnumbered

section Turns

variable {request : List Turn} (hrequest : Numbered request)
  (hwaits : w.conversation = ⟨request ++ [.placeholder]⟩)

include hrequest hwaits

theorem numbered_waiting : Numbered w.conversation.turns := by
  rw [hwaits]
  exact (numbered_append_iff request .placeholder).2 ⟨hrequest, numberedFrom_nil _⟩

/-- A streamed legacy turn keeps the transcript numbered. -/
theorem keepsNumbers_runStreaming (hprotocol : w.session.protocol = .legacy) (f : Flight)
    (transport : Transport) : KeepsNumbers w (w.runStreaming f transport request).1 := by
  have hanswer : w.conversation.EndsWithAnswer := ⟨request, "", [], hwaits⟩
  have hfollows := runStreaming_follows f transport request hanswer
  have hcounts : w.assembler.CountsOn w.conversation := by
    refine ⟨⟨request, "", [], hwaits, ?_⟩, numbered_waiting hrequest hwaits⟩
    have hcount : w.conversation.sourceCount = sourceCount request := by
      rw [hwaits, Conversation.sourceCount, sourceCount_append]
      rfl
    rw [assembler, Assembler.start, hprotocol, hcount]
    rfl
  obtain ⟨result, hassemble, hconversation, -⟩ := hfollows.assembled
  obtain ⟨hresult, hreached⟩ := hcounts.assembled _
  refine ⟨hfollows.settings.protocol, ?_, _, hfollows.snapshots, hreached⟩
  rw [hconversation]
  exact hresult result hassemble

/-- A legacy reply is adopted as a numbered transcript. -/
theorem keepsNumbers_adopt (f : Flight) {reply : Reply}
    (hreply : (∃ turns, reply = .transcript (LegacyTurn.upgradeAll 0 turns)) ∨
      ∃ turn : LegacyTurn, reply = .turn (turn.upgrade (sourceCount request))) :
    KeepsNumbers w (w.adopt f reply).1 := by
  obtain ⟨turns, rfl⟩ | ⟨turn, rfl⟩ := hreply
  · exact keepsNumbers_replace w f (numbered_upgradeAll turns)
  · have hturn := numberedFrom_upgrade (sourceCount request) turn
    cases turn with
    | user text =>
      exact keepsNumbers_of_quiet (numbered_waiting hrequest hwaits) rfl (quiet_emit w rfl)
    | assistant text pairs =>
      have hadopt := adopt_assistant hwaits f text (LegacyTurn.number (sourceCount request) 0 pairs)
      rw [LegacyTurn.upgrade, hadopt]
      exact keepsNumbers_replace w f ((numbered_append_iff request _).2 ⟨hrequest, hturn⟩)

/-- A legacy batch turn keeps the transcript numbered. -/
theorem keepsNumbers_runBatch (f : Flight) {transport : Transport}
    (hlegacy : transport.RepliesLegacy) : KeepsNumbers w (w.runBatch f transport request).1 := by
  obtain ⟨hsettings, hquiet⟩ := sameSettings_call w f transport.connect request
  have hcall := keepsNumbers_of_quiet (numbered_waiting hrequest hwaits) hsettings.protocol hquiet
  rw [runBatch_eq]
  rcases hcalled : w.call f transport.connect request with ⟨v, _ | ending⟩
  · rw [hcalled] at hcall hquiet
    dsimp only
    cases hexchange : transport.exchange request with
    | error error =>
      exact hcall.trans (keepsNumbers_of_quiet hcall.numbered rfl (quiet_failed v error))
    | ok reply =>
      exact hcall.trans
        (keepsNumbers_adopt hrequest (hquiet.conversation.trans hwaits) f (hlegacy.cases hexchange))
  · rw [hcalled] at hcall
    exact hcall

end Turns

theorem keepsNumbers_asked (hnumbered : Numbered w.conversation.turns) (text : String) :
    KeepsNumbers w (w.asked text) := by
  have hrequest : Numbered (w.request text) :=
    (numbered_append_iff w.conversation.turns (.user text)).2 ⟨hnumbered, numberedFrom_nil _⟩
  have hwaiting := numbered_waiting hrequest (conversation_asked w text)
  refine ⟨rfl, hwaiting, _, snapshots_asked w text, fun c hmem ↦ ?_⟩
  rw [List.mem_singleton.1 hmem]
  exact hwaiting

/-- A submission keeps the transcript numbered, however it ends. -/
theorem keepsNumbers_submit (hprotocol : w.session.protocol = .legacy)
    (hnumbered : Numbered w.conversation.turns) {mode : Mode} {text : String}
    {transport : Transport} (hlegacy : transport.RepliesLegacy) {limit abortAfter : Option Nat}
    {ended : World × Ending}
    (hsubmit : w.submit mode text transport limit abortAfter = .ok ended) :
    KeepsNumbers w ended.1 := by
  obtain ⟨htext, hidle⟩ := accepted_of_submit hsubmit
  rw [submit_eq w mode htext hidle] at hsubmit
  cases hsubmit
  have hrequest : Numbered (w.request text) :=
    (numbered_append_iff w.conversation.turns (.user text)).2 ⟨hnumbered, numberedFrom_nil _⟩
  have hwaits := conversation_asked w text
  have hrun : KeepsNumbers (w.asked text) ((w.asked text).run mode (w.flight limit abortAfter)
      transport (w.request text)).1 := by
    cases mode with
    | streaming => exact keepsNumbers_runStreaming hrequest hwaits hprotocol _ transport
    | batch => exact keepsNumbers_runBatch hrequest hwaits _ hlegacy
  refine ((keepsNumbers_asked hnumbered text).trans hrun).trans
    (keepsNumbers_of_quiet hrun.numbered ?_ ?_)
  · exact (sameSettings_conclude _ _ _).protocol
  · exact quiet_conclude _ _ _

end World

end CitedChat
