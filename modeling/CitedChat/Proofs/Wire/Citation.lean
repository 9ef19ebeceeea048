import CitedChat.Proofs.Json.Decoding
import CitedChat.Wire.Client

/-!
How the two protocols bring an answer. An answer cites by whole source records or by pairs of a
label and an address (`Protocol.Citation`); the latter become sources by their place in the turn and
in the transcript (`Protocol.citeAll`). `Protocol.Brings` says what a payload brings and
`read_brings` what is read of it, `Protocol.answerTree` is the reply that gives the same answer at
once and `decodeReply_answer` the turn it is decoded to, and `Protocol.Streams` ranges over the ways
of cutting an answer into payloads.
-/

set_option autoImplicit false

namespace CitedChat

open Json

/-- The numbers of a source fit the words that hold them. -/
structure Source.Fits (source : Source) : Prop where
  ordinal : source.ordinal < Word.limit
  index : -(Word.signedLimit : Int) ≤ source.index ∧ source.index < Word.signedLimit

namespace Protocol

/-! ### Citations -/

/-- What an answer cites by: a source record, or a label and an address. -/
def Citation : Protocol → Type
  | .current => Source
  | .legacy => String × String

/-- What is written of a citation can be read back. -/
def Fits : (protocol : Protocol) → protocol.Citation → Prop
  | .current, source => Source.Fits source
  | .legacy, _ => True

def citationTree : (protocol : Protocol) → protocol.Citation → Tree
  | .current, source => Source.toTree source
  | .legacy, pair => .array [.string pair.1, .string pair.2]

/-- The source that a citation stands for, where `seen` ones came before it in its turn and
`earlier` ones before the turn. -/
def cite : (protocol : Protocol) → (earlier seen : Nat) → protocol.Citation → Source
  | .current, _, _, source => source
  | .legacy, earlier, seen, pair => legacySource earlier seen pair

/-- How far a reader has counted that counts as the protocol does. -/
def advance : Protocol → (seen count : Nat) → Nat
  | .current, seen, _ => seen
  | .legacy, seen, count => seen + count

def citeAll (protocol : Protocol) (earlier : Nat) : Nat → List protocol.Citation → List Source
  | _, [] => []
  | seen, citation :: rest =>
    protocol.cite earlier seen citation :: protocol.citeAll earlier (protocol.advance seen 1) rest

theorem citeAll_current (earlier seen : Nat) (sources : List Source) :
    citeAll .current earlier seen sources = sources := by
  induction sources generalizing seen with
  | nil => rfl
  | cons source rest ih => exact congrArg (source :: ·) (ih _)

theorem citeAll_legacy (earlier seen : Nat) (pairs : List (String × String)) :
    citeAll .legacy earlier seen pairs = LegacyTurn.number earlier seen pairs := by
  induction pairs generalizing seen with
  | nil => rfl
  | cons pair rest ih => exact congrArg (legacySource earlier seen pair :: ·) (ih _)

/-! ### Payloads -/

/-- A payload brings a fragment, which may be empty, a citation and a signal, where it brings them.
-/
def Brings : (protocol : Protocol) → (raw fragment : String) → Option protocol.Citation →
    (signal : Option String) → Prop
  | .current, raw, fragment, citation, signal =>
    ∃ content, decodeObject Payload.decoder raw = .ok ⟨content, citation, signal⟩ ∧
      content.getD "" = fragment
  | .legacy, raw, fragment, citation, signal =>
    ∃ content, decodeObject LegacyPayload.decoder raw = .ok ⟨content, citation, signal⟩ ∧
      content.getD "" = fragment

/-- A payload that brings nothing but the end of the answer. -/
def Ends : Protocol → (raw : String) → Prop
  | .current, raw => ∃ signal, Brings .current raw "" none (some signal)
  | .legacy, raw =>
    PayloadReader.isLegacyEnd (Text.trim raw) = true ∨ ∃ signal, Brings .legacy raw "" none signal

/-- Payloads that bring an answer in pieces: each a fragment, a citation or both, and a signal with
the last one or after it. What comes behind the signal is of no account. -/
inductive Streams (protocol : Protocol) : List String → String → List protocol.Citation → Prop where
  | signal {raw : String} (behind : List String) (hends : protocol.Ends raw) :
      Streams protocol (raw :: behind) "" []
  | last {raw fragment signal : String} {citation : Option protocol.Citation} (behind : List String)
      (hbrings : protocol.Brings raw fragment citation (some signal))
      (hpiece : fragment ≠ "" ∨ citation.isSome) :
      Streams protocol (raw :: behind) fragment citation.toList
  | more {raw fragment text : String} {citation : Option protocol.Citation} {rest : List String}
      {citations : List protocol.Citation}
      (hbrings : protocol.Brings raw fragment citation none)
      (hpiece : fragment ≠ "" ∨ citation.isSome) (hrest : Streams protocol rest text citations) :
      Streams protocol (raw :: rest) (fragment ++ text) (citation.toList ++ citations)

/-- The parts of a payload apart from a signal. -/
def pieces (protocol : Protocol) (earlier seen : Nat) (fragment : String)
    (citation : Option protocol.Citation) : List Part :=
  (if fragment.isEmpty then [] else [.content fragment]) ++
    (citation.map fun c ↦ Part.source (protocol.cite earlier seen c)).toList

theorem content_parts (content : Option String) :
    ((content.filter fun text ↦ !text.isEmpty).map Part.content).toList =
      if (content.getD "").isEmpty then [] else [.content (content.getD "")] := by
  cases content with
  | none => rfl
  | some text => by_cases hempty : text = "" <;> simp [hempty]

theorem content_parts_eq_filter (content : Option String) :
    ((content.filter fun text ↦ !text.isEmpty).map Part.content).toList =
      (content.toList.filter (· ≠ "")).map .content := by
  rw [content_parts]
  cases content with
  | none => rfl
  | some text => by_cases hempty : text = "" <;> simp [hempty]

end Protocol

theorem decodeObject_isObject {α : Type} {decoder : Decoder α} {raw : String} {value : α}
    (hdecode : decodeObject decoder raw = .ok value) :
    ∃ members, Tree.parse raw = .ok (.object members) := by
  obtain ⟨tree, hobject, -⟩ := Except.bind_eq_ok hdecode
  rw [parseObject] at hobject
  split at hobject
  · cases hobject
  · next members hparse => exact ⟨members, hparse⟩
  · cases hobject

theorem isBlank_of_isSpace {c : Char} (hspace : isSpace c = true) : Text.isBlank c = true := by
  simp only [isSpace, Bool.or_eq_true, beq_iff_eq] at hspace
  rcases hspace with ((rfl | rfl) | rfl) | rfl <;> decide

theorem trimStartList_of_skipSpace {cs inner : List Char}
    (hspace : skipSpace cs = '\x7b' :: inner) :
    Text.trimStartList cs = '\x7b' :: inner := by
  induction cs with
  | nil => cases hspace
  | cons c rest ih =>
    rw [skipSpace, List.dropWhile_cons] at hspace
    rw [Text.trimStartList, List.dropWhile_cons]
    cases hc : isSpace c with
    | true =>
      rw [hc] at hspace
      rw [if_pos (isBlank_of_isSpace hc)]
      exact ih hspace
    | false =>
      rw [hc] at hspace
      cases hspace
      rfl

/-- A text that denotes an object is none of those that end a legacy answer. -/
theorem isLegacyEnd_of_parse_object {raw : String} {members : List (String × Tree)}
    (hparse : Tree.parse raw = .ok (.object members)) :
    PayloadReader.isLegacyEnd (Text.trim raw) = false := by
  obtain ⟨inner, hspace⟩ := Tree.parse_object hparse
  have htrim : ∃ rest, Text.trimList raw.toList = '\x7b' :: rest := by
    rw [Text.trimList, trimStartList_of_skipSpace hspace, Text.trimEndList, List.reverse_cons,
      List.dropWhile_append]
    split
    · exact ⟨[], rfl⟩
    · exact ⟨_, List.reverse_append⟩
  obtain ⟨rest, htrim⟩ := htrim
  have hother (tail : List Char) :
      String.ofList ('\x7b' :: rest) ≠ String.ofList ('[' :: tail) := by
    intro hsame
    have hlist := String.ofList_injective hsame
    simp at hlist
  rw [Text.trim, htrim, PayloadReader.isLegacyEnd, Bool.or_eq_false_iff]
  exact ⟨beq_false_of_ne (hother ['0', ']']), beq_false_of_ne (hother ['D', 'O', 'N', 'E', ']'])⟩

namespace Protocol

theorem pieces_isEmpty {protocol : Protocol} {fragment : String}
    {citation : Option protocol.Citation} (hpiece : fragment ≠ "" ∨ citation.isSome)
    (earlier seen : Nat) : (protocol.pieces earlier seen fragment citation).isEmpty = false := by
  rw [pieces]
  cases citation with
  | some citation => simp
  | none =>
    have hfragment : fragment ≠ "" := by simpa using hpiece
    simp [hfragment]

theorem legacyParts_eq (earlier seen : Nat) (payload : LegacyPayload) :
    PayloadReader.legacyParts ⟨.legacy, earlier, seen⟩ payload =
      let pieces := pieces .legacy earlier seen (payload.content.getD "") payload.source
      pieces ++
        match payload.finished with
        | some signal => [.finished signal]
        | none => if pieces.isEmpty then [.finished ""] else [] := by
  rw [PayloadReader.legacyParts, content_parts]
  rfl

/-- A legacy reader reads an object as a payload. -/
theorem read_legacy {raw : String} {payload : LegacyPayload}
    (hdecode : decodeObject LegacyPayload.decoder raw = .ok payload) (earlier seen : Nat) :
    PayloadReader.read ⟨.legacy, earlier, seen⟩ raw =
      .ok (PayloadReader.legacyParts ⟨.legacy, earlier, seen⟩ payload,
        ⟨.legacy, earlier, advance .legacy seen payload.source.toList.length⟩) := by
  obtain ⟨members, hobject⟩ := decodeObject_isObject hdecode
  have hcount : (if payload.source.isSome then 1 else 0) = payload.source.toList.length := by
    cases payload.source <;> rfl
  simp only [PayloadReader.read, isLegacyEnd_of_parse_object hobject, hdecode, advance, ← hcount]
  rfl

/-- What is read of a payload that brings a piece of an answer. -/
theorem read_brings {protocol : Protocol} {raw fragment : String}
    {citation : Option protocol.Citation} {signal : Option String}
    (hbrings : protocol.Brings raw fragment citation signal)
    (hpiece : fragment ≠ "" ∨ citation.isSome) (earlier seen : Nat) :
    PayloadReader.read ⟨protocol, earlier, seen⟩ raw =
      .ok (protocol.pieces earlier seen fragment citation ++ (signal.map Part.finished).toList,
        ⟨protocol, earlier, protocol.advance seen citation.toList.length⟩) := by
  cases protocol with
  | current =>
    obtain ⟨content, hdecode, rfl⟩ := hbrings
    have hparts : Payload.parts ⟨content, citation, signal⟩ =
        pieces .current earlier seen (content.getD "") citation ++
          (signal.map Part.finished).toList := by
      rw [Payload.parts, content_parts]
      rfl
    rw [PayloadReader.read, hdecode, ← hparts]
    rfl
  | legacy =>
    obtain ⟨content, hdecode, rfl⟩ := hbrings
    rw [read_legacy hdecode, legacyParts_eq]
    simp only [pieces_isEmpty hpiece]
    cases signal <;> rfl

/-- What is read of a payload that brings the end alone. -/
theorem read_ends {protocol : Protocol} {raw : String} (hends : protocol.Ends raw)
    (earlier seen : Nat) :
    ∃ signal, PayloadReader.read ⟨protocol, earlier, seen⟩ raw =
      .ok ([.finished signal], ⟨protocol, earlier, seen⟩) := by
  cases protocol with
  | current =>
    obtain ⟨signal, content, hdecode, hcontent⟩ := hends
    have hparts : Payload.parts ⟨content, none, some signal⟩ = [.finished signal] := by
      rw [Payload.parts, content_parts, hcontent]
      rfl
    refine ⟨signal, ?_⟩
    rw [PayloadReader.read, hdecode, ← hparts]
    rfl
  | legacy =>
    obtain hend | ⟨signal, content, hdecode, hcontent⟩ := hends
    · exact ⟨Text.trim raw, by simp only [PayloadReader.read, hend]; rfl⟩
    · rw [read_legacy hdecode, legacyParts_eq, hcontent]
      cases signal with
      | some signal => exact ⟨signal, rfl⟩
      | none => exact ⟨"", rfl⟩

/-- Whatever is read is a piece of an answer, perhaps an empty one, with or without a signal, and a
citation among it is counted as the protocol counts. -/
theorem read_cases {protocol : Protocol} {earlier seen : Nat} {raw : String} {parts : List Part}
    {reader : PayloadReader}
    (hread : PayloadReader.read ⟨protocol, earlier, seen⟩ raw = .ok (parts, reader)) :
    ∃ (fragment : String) (citation : Option protocol.Citation) (signal : Option String),
      parts = protocol.pieces earlier seen fragment citation ++
          (signal.map Part.finished).toList ∧
        reader = ⟨protocol, earlier, protocol.advance seen citation.toList.length⟩ := by
  cases protocol with
  | current =>
    obtain ⟨payload, hdecode, hpayload⟩ := Except.bind_eq_ok hread
    cases hpayload
    refine ⟨payload.content.getD "", payload.source, payload.finished, ?_, rfl⟩
    rw [Payload.parts, content_parts]
    rfl
  | legacy =>
    cases hend : PayloadReader.isLegacyEnd (Text.trim raw) with
    | true =>
      simp only [PayloadReader.read, hend, if_true] at hread
      cases hread
      exact ⟨"", none, some (Text.trim raw), rfl, rfl⟩
    | false =>
      cases hdecode : decodeObject LegacyPayload.decoder raw with
      | error error =>
        simp only [PayloadReader.read, hend, hdecode] at hread
        cases hread
      | ok payload =>
        rw [read_legacy hdecode, legacyParts_eq] at hread
        cases hread
        cases hfinished : payload.finished with
        | some signal => exact ⟨payload.content.getD "", payload.source, some signal, rfl, rfl⟩
        | none =>
          by_cases hnothing : (pieces .legacy earlier seen (payload.content.getD "")
              payload.source).isEmpty
          · exact ⟨payload.content.getD "", payload.source, some "", by simp [hnothing], rfl⟩
          · exact ⟨payload.content.getD "", payload.source, none, by simp [hnothing], rfl⟩

theorem content_pieces_ne_empty (protocol : Protocol) (earlier seen : Nat) (fragment : String)
    (citation : Option protocol.Citation) :
    Part.content "" ∉ protocol.pieces earlier seen fragment citation := by
  intro hmem
  obtain hmem | hmem := List.mem_append.1 hmem
  · split at hmem
    · cases hmem
    · next hfragment =>
      cases List.mem_singleton.1 hmem
      exact hfragment rfl
  · cases citation <;> simp at hmem

end Protocol

/-- At most one of each kind, in this order. -/
def Part.InOrder (parts : List Part) : Prop :=
  ∃ (content : Option String) (source : Option Source) (signal : Option String),
    parts = (content.map Part.content).toList ++ (source.map Part.source).toList ++
      (signal.map Part.finished).toList

theorem Part.inOrder_of_read {r next : PayloadReader} {raw : String} {parts : List Part}
    (hread : r.read raw = .ok (parts, next)) : Part.InOrder parts := by
  obtain ⟨fragment, citation, signal, rfl, -⟩ := Protocol.read_cases hread
  refine ⟨if fragment.isEmpty then none else some fragment,
    citation.map (r.protocol.cite r.earlier r.seen), signal, ?_⟩
  rw [Protocol.pieces, Option.map_map]
  split <;> rfl

theorem Part.content_ne_empty_of_read {r next : PayloadReader} {raw : String} {parts : List Part}
    (hread : r.read raw = .ok (parts, next)) : Part.content "" ∉ parts := by
  obtain ⟨fragment, citation, signal, rfl, -⟩ := Protocol.read_cases hread
  refine List.not_mem_append (Protocol.content_pieces_ne_empty _ _ _ _ _) ?_
  cases signal <;> simp

/-! ### Payloads in turn -/

namespace PayloadReader

/-- What a reader makes of a payload. -/
def parts (r : PayloadReader) (raw : String) : Except DecodeError (List Part) :=
  (r.read raw).map Prod.fst

/-- The reader after a payload, whether it was read or refused. -/
def next (r : PayloadReader) (raw : String) : PayloadReader :=
  match r.read raw with
  | .ok (_, next) => next
  | .error _ => r

theorem readAll_cons (r : PayloadReader) (raw : String) (rest : List String) :
    r.readAll (raw :: rest) = r.parts raw :: (r.next raw).readAll rest := by
  rw [readAll, parts, next]
  cases r.read raw <;> rfl

end PayloadReader

/-! ### Replies -/

namespace Source

theorem sorted_toTree (source : Source) :
    source.toTree.sorted = .object [
      ("citation", .string source.citation),
      ("index", .integer source.index),
      ("ordinal", .natural source.ordinal),
      ("origin_text", .string source.originText),
      ("url", .string source.url)] := by
  simp only [toTree, Tree.sorted, Tree.sortedMembers, Tree.insertMember, Tree.natural, Tree.integer,
    String.reduceLT, String.reduceBEq, if_true, if_false, Bool.false_eq_true]

/-- The fields of a source are found in the order of their keys, whatever decodes the numbers. -/
theorem ofMembers_fields {ordinals : Decoder Nat} {indices : Decoder Int} {origin : Origin}
    {source : Source} {ordinal index : Tree}
    (hordinal : ordinals.ofTree origin ordinal = .ok source.ordinal)
    (hindex : indices.ofTree origin index = .ok source.index) :
    (Fields.cons "ordinal" ordinals <| .cons "index" indices <| .cons "citation" .string <|
        .cons "url" .string <| .cons "origin_text" .string .nil).ofMembers origin
      (none, none, none, none, none, ()) [
        ("citation", .string source.citation), ("index", index), ("ordinal", ordinal),
        ("origin_text", .string source.originText), ("url", .string source.url)] =
      .ok (source.ordinal, source.index, source.citation, source.url, source.originText, ()) := by
  have hfilled : (Fields.cons "ordinal" ordinals <| .cons "index" indices <|
      .cons "citation" .string <| .cons "url" .string <| .cons "origin_text" .string .nil).finish
        (some source.ordinal, some source.index, some source.citation, some source.url,
          some source.originText, ()) =
      .ok (source.ordinal, source.index, source.citation, source.url, source.originText, ()) := rfl
  simp [Fields.ofMembers, Fields.entry, Decoder.ofTree_map, Decoder.ofTree_string, hordinal, hindex,
    Except.map, bind, Except.bind, hfilled]

/-- A source that is written is read back. -/
theorem ofTree_toTree {source : Source} (hfits : source.Fits) (origin : Origin) :
    decoder.ofTree origin source.toTree.sorted = .ok source := by
  have hfields := ofMembers_fields (Decoder.ofTree_natural "usize" origin hfits.ordinal)
    (Decoder.ofTree_signed64 origin hfits.index)
  rw [sorted_toTree, decoder, Decoder.ofTree_map, Decoder.ofTree_record]
  exact congrArg _ hfields

end Source

theorem LegacyTurn.ofTree_pair (origin : Origin) (pair : String × String) :
    (Decoder.pair Decoder.string Decoder.string).ofTree origin
      (.array [.string pair.1, .string pair.2]) = .ok pair := by
  rfl

/-- An assistant's turn is decoded with its text and its sources, however those are written. -/
theorem Turn.ofTree_decoderWith {σ β : Type} (label : String) {source : Decoder σ}
    (user : String → β) (assistant : String → List σ → β) (text : String) {items : List Tree}
    {sources : List σ} (hitems : source.ofItems .whole items = .ok sources) :
    (Turn.decoderWith label source user assistant).decode
      (.object [("Assistant", .array [.string text, .array items])]) =
      .ok (assistant text sources) := by
  have hlist : (Decoder.list source).ofTree .whole (.array items) = .ok sources := hitems
  have hfields (expected : String) :
      (Fields.cons "0" .string (.cons "1" (.list source) .nil)).ofItems .whole expected 0
        [.string text, .array items] = .ok ((text, sources, ()), []) := by
    simp [Fields.ofItems, Decoder.ofTree_string, hlist, bind, Except.bind, pure, Except.pure]
  rw [Decoder.decode, decoderWith, Decoder.ofTree_alternatives (by simp [findName]; rfl)]
  simp only [Decoder.holdingTuple, Fields.ofWholeSequence, hfields]
  rfl

namespace Protocol

/-- A reply that is the answering turn. -/
def answerTree (protocol : Protocol) (text : String) (citations : List protocol.Citation) : Tree :=
  .object [("Assistant", .array [.string text, .array (citations.map protocol.citationTree)])]

theorem sorted_answerTree (protocol : Protocol) (text : String)
    (citations : List protocol.Citation) :
    (protocol.answerTree text citations).sorted =
      .object [("Assistant", .array [.string text,
        .array (citations.map fun citation ↦ (protocol.citationTree citation).sorted)])] := by
  simp [answerTree, Tree.sorted, Tree.sortedMembers, Tree.insertMember, Tree.sortedItems_eq,
    Function.comp_def]

/-- The reply that gives an answer at once is decoded to the turn that the answer makes behind
`earlier` sources. -/
theorem decodeReply_answer {protocol : Protocol} {raw text : String}
    {citations : List protocol.Citation} (hfits : ∀ citation ∈ citations, protocol.Fits citation)
    (hparse : Tree.parse raw = .ok (protocol.answerTree text citations).sorted) (earlier : Nat) :
    protocol.decodeReply earlier raw =
      .ok (.turn (.assistant text (protocol.citeAll earlier 0 citations))) := by
  rw [sorted_answerTree] at hparse
  cases protocol with
  | current =>
    have hitems : Source.decoder.ofItems .whole
        (citations.map fun citation ↦ (citationTree .current citation).sorted) = .ok citations :=
      Decoder.ofItems_map _ fun source hmem ↦ Source.ofTree_toTree (hfits source hmem) .whole
    have hturn := Turn.ofTree_decoderWith "tuple variant Turn::Assistant" Turn.user .assistant text
      hitems
    have hcite : citeAll .current earlier 0 citations = citations := citeAll_current ..
    simp only [decodeReply, hparse, decodeReply.decode, Turn.decoder, hturn]
    rw [hcite]
    rfl
  | legacy =>
    have hitems : (Decoder.pair Decoder.string Decoder.string).ofItems .whole
        (citations.map fun citation ↦ (citationTree .legacy citation).sorted) = .ok citations :=
      Decoder.ofItems_map _ fun pair _ ↦ LegacyTurn.ofTree_pair .whole pair
    have hturn := Turn.ofTree_decoderWith "tuple variant LegacyTurn::Assistant" LegacyTurn.user
      .assistant text hitems
    have hcite : citeAll .legacy earlier 0 citations = LegacyTurn.number earlier 0 citations :=
      citeAll_legacy ..
    simp only [decodeReply, hparse, decodeReply.decode, LegacyTurn.decoder, hturn]
    rw [hcite]
    rfl

end Protocol

end CitedChat
