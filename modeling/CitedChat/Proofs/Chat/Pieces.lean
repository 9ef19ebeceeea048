import CitedChat.Proofs.Chat.Assembly
import CitedChat.Proofs.Wire.Citation

/-!
An answer that comes in pieces. A payload that brings a piece extends the answer by that piece
(`Assembler.applyAll_feed`), so that payloads which stream an answer, cut in any way, are assembled
to its text and to the sources that its citations stand for (`assembleWith_streams`).
-/

set_option autoImplicit false

namespace CitedChat

namespace Protocol

theorem citeAll_append (protocol : Protocol) (earlier seen : Nat)
    (citation : Option protocol.Citation) (rest : List protocol.Citation) :
    protocol.citeAll earlier seen (citation.toList ++ rest) =
      (citation.map (protocol.cite earlier seen)).toList ++
        protocol.citeAll earlier (protocol.advance seen citation.toList.length) rest := by
  cases citation with
  | none => cases protocol <;> rfl
  | some citation => rfl

end Protocol

namespace Assembler

theorem feed_read {a : Assembler} (hopen : a.isDone = false) {raw : String} {parts : List Part}
    {reader : PayloadReader} (hread : a.reader.read raw = .ok (parts, reader)) :
    a.feed raw =
      let directives := (untilFinished parts).map Directive.ofPart
      (directives,
        { a with
          reader, state := if directives.any isFinish then .finished else a.state
          stats := directives.foldl .count a.stats }) := by
  simp only [feed, hopen, hread]
  rfl

theorem actions_pieces (protocol : Protocol) (earlier seen : Nat) (fragment : String)
    (citation : Option protocol.Citation) (signal : Option String) :
    let directives := (untilFinished (protocol.pieces earlier seen fragment citation ++
      (signal.map Part.finished).toList)).map Directive.ofPart
    Action.joined (Directive.actions directives) = fragment ∧
      Action.cited (Directive.actions directives) =
        (citation.map (protocol.cite earlier seen)).toList ∧
      directives.any isFinish = signal.isSome := by
  by_cases hfragment : fragment = "" <;> cases citation <;> cases signal <;>
    simp [Protocol.pieces, hfragment, untilFinished, Directive.ofPart, Directive.actions,
      Action.joined, Action.cited, isFinish]

end Assembler

section Pieces

variable {protocol : Protocol} {earlier seen : Nat} {a : Assembler} {raw fragment : String}
  {citation : Option protocol.Citation} {signal : Option String}

/-- A payload that brings a piece of an answer extends the answer by that piece. -/
theorem Assembler.applyAll_feed (hreader : a.reader = ⟨protocol, earlier, seen⟩)
    (hopen : a.isDone = false) (hbrings : protocol.Brings raw fragment citation signal)
    (hpiece : fragment ≠ "" ∨ citation.isSome) (before : List Turn) (text : String)
    (sources : List Source) :
    Conversation.applyAll ⟨before ++ [.assistant text sources]⟩ (Directive.actions (a.feed raw).1) =
        .ok ⟨before ++ [.assistant (text ++ fragment)
          (sources ++ (citation.map (protocol.cite earlier seen)).toList)]⟩ ∧
      (a.feed raw).2.reader = ⟨protocol, earlier, protocol.advance seen citation.toList.length⟩ ∧
      (a.feed raw).2.state = if signal.isSome then .finished else a.state := by
  have hread := protocol.read_brings hbrings hpiece earlier seen
  rw [← hreader] at hread
  have hfeed := feed_read hopen hread
  obtain ⟨hjoined, hcited, hfinish⟩ :=
    actions_pieces protocol earlier seen fragment citation signal
  refine ⟨?_, ?_, ?_⟩
  · rw [Conversation.applyAll_appends _ _ _ _ (a.isAppend_of_feed raw), hfeed]
    dsimp only
    rw [hjoined, hcited]
  · rw [hfeed]
  · rw [hfeed]
    dsimp only
    rw [hfinish]

/-- A payload that brings the end alone changes nothing else. -/
theorem Assembler.feed_ends (hreader : a.reader = ⟨protocol, earlier, seen⟩)
    (hopen : a.isDone = false) (hends : protocol.Ends raw) :
    Directive.actions (a.feed raw).1 = [] ∧ (a.feed raw).2.state = .finished := by
  obtain ⟨signal, hread⟩ := Protocol.read_ends hends earlier seen
  rw [← hreader] at hread
  rw [feed_read hopen hread]
  exact ⟨rfl, rfl⟩

/-- However an answer is cut into payloads, they are assembled to its text and to the sources that
its citations stand for. -/
theorem assembleWith_streams {payloads : List String} {citations : List protocol.Citation}
    {answer : String} (hstreams : protocol.Streams payloads answer citations)
    (hreader : a.reader = ⟨protocol, earlier, seen⟩) (hopen : a.isDone = false) (before : List Turn)
    (text : String) (sources : List Source) :
    ∃ result, assembleWith a ⟨before ++ [.assistant text sources]⟩ payloads = .ok result ∧
      result.state = .finished ∧
      result.conversation = ⟨before ++ [.assistant (text ++ answer)
        (sources ++ protocol.citeAll earlier seen citations)]⟩ := by
  induction hstreams generalizing a seen text sources with
  | @signal raw behind hends =>
    obtain ⟨hnothing, hstate⟩ := Assembler.feed_ends hreader hopen hends
    have happly : Conversation.applyAll ⟨before ++ [.assistant text sources]⟩
        (Directive.actions (a.feed raw).1) = .ok ⟨before ++ [.assistant text sources]⟩ := by
      rw [hnothing]
      rfl
    rw [assembleWith_cons happly, Assembler.isDone, hstate]
    exact ⟨_, rfl, rfl, by simp [Protocol.citeAll]⟩
  | @last raw fragment signal citation behind hbrings hpiece =>
    obtain ⟨happly, -, hstate⟩ :=
      Assembler.applyAll_feed hreader hopen hbrings hpiece before text sources
    rw [assembleWith_cons happly, Assembler.isDone, hstate]
    have hcite := protocol.citeAll_append earlier seen citation []
    rw [List.append_nil, Protocol.citeAll, List.append_nil] at hcite
    rw [hcite]
    exact ⟨_, rfl, rfl, rfl⟩
  | @more raw fragment answer citation rest citations hbrings hpiece hrest ih =>
    obtain ⟨happly, hnext, hstate⟩ :=
      Assembler.applyAll_feed hreader hopen hbrings hpiece before text sources
    have hopen' : (a.feed raw).2.isDone = false := by
      rw [Assembler.isDone_eq_false_iff, hstate]
      exact (Assembler.isDone_eq_false_iff a).1 hopen
    rw [assembleWith_cons happly, hopen', Protocol.citeAll_append, ← String.append_assoc,
      ← List.append_assoc]
    exact ih hnext hopen' _ _

end Pieces

end CitedChat
