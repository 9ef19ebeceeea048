import CitedChat.Proofs.Transcript.Numbering
import CitedChat.Proofs.Wire.LegacyReply

/-!
The legacy protocol counts alike wherever its pairs come from. A reader numbers the pairs of the
payloads that it accepts in the order of their arrival (`PayloadReader.sourcesRead_legacy`), so that
a payload from which no source is read may be left out (`PayloadReader.readAll_eraseIdx`). What is
read of a written turn is settled by the ordinals of its sources (`LegacyTurn.eq_upgrade_iff`,
`LegacyTurn.eq_upgradeAll_iff`). A turn by itself counts on from the request as a reader does, a
transcript from one (`Protocol.legacy_numbersAlike`).
-/

set_option autoImplicit false

namespace CitedChat

open Json

/-! ### Payloads -/

def Part.source? : Part → Option Source
  | .content _ => none
  | .source s => some s
  | .finished _ => none

namespace PayloadReader

/-- The sources that were read of a payload. -/
def sourcesOf : Except DecodeError (List Part) → List Source
  | .ok parts => parts.filterMap Part.source?
  | .error _ => []

/-- The sources that were read of payloads, in order. -/
def sourcesRead (reads : List (Except DecodeError (List Part))) : List Source :=
  reads.flatMap sourcesOf

/-- The pair that a legacy payload carries, if it is accepted and carries one. -/
def pair? (raw : String) : Option (String × String) :=
  if isLegacyEnd (Text.trim raw) then none
  else
    match decodeObject LegacyPayload.decoder raw with
    | .ok payload => payload.source
    | .error _ => none

theorem pair?_eq_some_iff (raw : String) (pair : String × String) :
    pair? raw = some pair ↔ ∃ (d : Document) (payload : LegacyPayload),
      raw = d.text ∧ d.BringsLegacy payload ∧ payload.source = some pair := by
  constructor
  · intro hpair
    rw [pair?] at hpair
    split at hpair
    · cases hpair
    · split at hpair
      · next payload hdecode =>
        obtain ⟨d, rfl, hbrings⟩ := LegacyPayload.exists_document hdecode
        exact ⟨d, payload, rfl, hbrings, hpair⟩
      · cases hpair
  · rintro ⟨d, payload, rfl, hbrings, hsource⟩
    rw [pair?, isLegacyEnd_of_brings hbrings,
      (LegacyPayload.decodeObject_eq_ok_iff d payload).2 hbrings]
    exact hsource

/-- From a legacy payload the source of its pair is read, which takes the next number. -/
theorem sourcesOf_legacy (earlier seen : Nat) (raw : String) :
    sourcesOf (parts ⟨.legacy, earlier, seen⟩ raw) =
        LegacyTurn.number earlier seen (pair? raw).toList ∧
      next ⟨.legacy, earlier, seen⟩ raw =
        ⟨.legacy, earlier, seen + (pair? raw).toList.length⟩ := by
  rw [parts, next, pair?]
  cases hend : isLegacyEnd (Text.trim raw) with
  | true =>
    rw [read_legacy_bare earlier seen hend]
    exact ⟨rfl, rfl⟩
  | false =>
    rw [read_legacy_payload earlier seen hend]
    cases decodeObject LegacyPayload.decoder raw with
    | error error => exact ⟨rfl, rfl⟩
    | ok payload =>
      refine ⟨?_, rfl⟩
      have hcontent (texts : List String) :
          (texts.map Part.content).filterMap Part.source? = [] := by simp [Part.source?]
      have hfinished (signals : List String) :
          (signals.map Part.finished).filterMap Part.source? = [] := by simp [Part.source?]
      change (legacyParts ⟨.legacy, earlier, seen⟩ payload).filterMap Part.source? =
        LegacyTurn.number earlier seen payload.source.toList
      rw [legacyParts_eq_pieces, List.filterMap_append, List.filterMap_append, hcontent, hfinished]
      cases payload.source <;> rfl

end PayloadReader

theorem LegacyTurn.number_append (earlier seen : Nat) (first second : List (String × String)) :
    number earlier seen (first ++ second) =
      number earlier seen first ++ number earlier (seen + first.length) second := by
  induction first generalizing seen with
  | nil => rfl
  | cons pair rest ih =>
    rw [List.cons_append, number, number, ih, List.cons_append, List.length_cons]
    congr 3
    omega

theorem LegacyTurn.number_eq_mapIdx (earlier : Nat) (pairs : List (String × String)) :
    number earlier 0 pairs = pairs.mapIdx fun i pair ↦
      ⟨earlier + i + 1, i, pair.1, pair.2, ""⟩ := by
  refine List.ext_getElem? fun k ↦ ?_
  rw [getElem?_number, List.getElem?_mapIdx, Nat.zero_add]
  rfl

namespace PayloadReader

/-- The pairs that payloads carry are numbered in the order of their arrival, wherever they come
from. -/
theorem sourcesRead_legacy (earlier seen : Nat) (payloads : List String) :
    sourcesRead (readAll ⟨.legacy, earlier, seen⟩ payloads) =
      LegacyTurn.number earlier seen (payloads.filterMap pair?) := by
  induction payloads generalizing seen with
  | nil => rfl
  | cons raw rest ih =>
    obtain ⟨hsources, hnext⟩ := sourcesOf_legacy earlier seen raw
    have hpairs : (raw :: rest).filterMap pair? = (pair? raw).toList ++ rest.filterMap pair? := by
      rw [List.filterMap_cons]
      cases pair? raw <;> rfl
    rw [readAll_cons, sourcesRead, List.flatMap_cons, hsources, hnext, hpairs,
      LegacyTurn.number_append]
    exact congrArg _ (ih _)

/-- There is a payload that carries nothing but the pair. -/
theorem exists_carrying (pair : String × String) : ∃ raw, pair? raw = some pair := by
  let members : List (String × Tree) := [("source", .array [.string pair.1, .string pair.2])]
  have hreadable : (Tree.object members).Readable depthLimit :=
    .object (List.forall_mem_singleton.2 (.array (by simp [Tree.Readable.string])))
  have hwritten : LegacyPayload.WrittenIn ⟨none, some pair, none⟩ members :=
    ⟨⟨none, .absent⟩, .absent, .value rfl, .absent⟩
  have hparse := Tree.parse_text hreadable
  have hdecode : decodeObject LegacyPayload.decoder (Tree.object members).text =
      .ok ⟨none, some pair, none⟩ := by
    have hpayload := (LegacyPayload.exactIn_decoder _ members).2 hwritten
    rw [decodeObject, parseObject, hparse]
    exact congrArg (Except.mapError DecodeError.ofMismatch) hpayload
  refine ⟨(Tree.object members).text, ?_⟩
  rw [pair?, isLegacyEnd_of_parse_object hparse, hdecode]
  rfl

/-- Any pairs can be carried by payloads. -/
theorem exists_carryingAll (pairs : List (String × String)) :
    ∃ payloads : List String, payloads.filterMap pair? = pairs := by
  induction pairs with
  | nil => exact ⟨[], rfl⟩
  | cons pair rest ih =>
    obtain ⟨raw, hraw⟩ := exists_carrying pair
    obtain ⟨payloads, hpayloads⟩ := ih
    exact ⟨raw :: payloads, by rw [List.filterMap_cons, hraw, hpayloads]⟩

/-- A payload from which no source is read leaves the reader as it is. -/
theorem next_eq_self {r : PayloadReader} {raw : String}
    (hnone : ∀ parts, r.parts raw = .ok parts → ∀ source, Part.source source ∉ parts) :
    r.next raw = r := by
  rw [next]
  split
  · next parts next hread =>
    have hparts := hnone parts (by rw [PayloadReader.parts, hread]; rfl)
    obtain ⟨fragment, citation, signal, rfl, rfl⟩ := Protocol.read_cases hread
    cases citation with
    | some citation =>
      have hmem : Part.source (r.protocol.cite r.earlier r.seen citation) ∈
          r.protocol.pieces r.earlier r.seen fragment (some citation) := by
        simp [Protocol.pieces]
      exact absurd (List.mem_append_left _ hmem) (hparts _)
    | none => cases r with | mk protocol earlier seen => cases protocol <;> rfl
  · rfl

/-- Such a payload may be left out: what is read of the others stays the same. -/
theorem readAll_eraseIdx {r : PayloadReader} {payloads : List String} {i : Nat}
    (hnone : ∀ parts, (r.readAll payloads)[i]? = some (.ok parts) →
      ∀ source, Part.source source ∉ parts) :
    r.readAll (payloads.eraseIdx i) = (r.readAll payloads).eraseIdx i := by
  induction payloads generalizing r i with
  | nil => rfl
  | cons raw rest ih =>
    rw [readAll_cons] at hnone ⊢
    cases i with
    | zero =>
      have hnext : r.next raw = r := next_eq_self fun parts hread ↦
        hnone parts (congrArg some hread)
      rw [List.eraseIdx_cons_zero, List.eraseIdx_cons_zero, hnext]
    | succ i =>
      rw [List.eraseIdx_cons_succ, List.eraseIdx_cons_succ, readAll_cons, ih hnone]

end PayloadReader

/-! ### Replies -/

namespace LegacyTurn

/-- A turn is read as it is written: the sources made of its pairs are ranked by their places and
have no passages. -/
inductive ReadAs : LegacyTurn → Turn → Prop where
  | user (text : String) : ReadAs (.user text) (.user text)
  | assistant (text : String) {sources : List Source}
      (hplaces : ∀ (k : Nat) (source : Source), sources[k]? = some source →
        source.index = k ∧ source.originText = "") :
      ReadAs (.assistant text (sources.map fun source ↦ (source.citation, source.url)))
        (.assistant text sources)

theorem readAs_upgrade (earlier : Nat) (written : LegacyTurn) :
    written.ReadAs (written.upgrade earlier) := by
  cases written with
  | user text => exact .user text
  | assistant text pairs =>
    have hpairs : (number earlier 0 pairs).map (fun source ↦ (source.citation, source.url)) =
        pairs := by
      refine List.ext_getElem? fun k ↦ ?_
      rw [List.getElem?_map, getElem?_number, Option.map_map]
      exact Option.map_id'
    have hplaces : ∀ (k : Nat) (source : Source), (number earlier 0 pairs)[k]? = some source →
        source.index = k ∧ source.originText = "" := by
      intro k source hat
      rw [getElem?_number, Option.map_eq_some_iff, Nat.zero_add] at hat
      obtain ⟨pair, -, rfl⟩ := hat
      exact ⟨rfl, rfl⟩
    have hread := ReadAs.assistant text hplaces
    rw [hpairs] at hread
    exact hread

/-- What is read of a turn is settled by the ordinals of its sources. -/
theorem ReadAs.eq_upgrade {written : LegacyTurn} {turn : Turn} (hread : written.ReadAs turn)
    {earlier : Nat} (hordinals : turn.sources.map Source.ordinal =
      List.range' (earlier + 1) turn.sources.length) : turn = written.upgrade earlier := by
  cases hread with
  | user text => rfl
  | assistant text hplaces =>
    next sources =>
    refine congrArg (Turn.assistant text) (List.ext_getElem? fun k ↦ ?_)
    rw [getElem?_number, List.getElem?_map, Option.map_map]
    cases hat : sources[k]? with
    | none => rfl
    | some source =>
      have hordinal := (ordinals_eq_range'_iff earlier sources).1 hordinals k source hat
      obtain ⟨hindex, horigin⟩ := hplaces k source hat
      obtain ⟨ordinal, index, citation, url, originText⟩ := source
      simp only at hordinal hindex horigin
      simp [legacySource, hordinal, hindex, horigin]

theorem eq_upgrade_iff (earlier : Nat) (written : LegacyTurn) (turn : Turn) :
    turn = written.upgrade earlier ↔ written.ReadAs turn ∧
      turn.sources.map Source.ordinal = List.range' (earlier + 1) turn.sources.length := by
  constructor
  · rintro rfl
    exact ⟨readAs_upgrade earlier written, (ordinals_eq_range'_iff earlier _).2
      fun k source hat ↦ (numberedFrom_upgrade earlier written k source hat).1⟩
  · exact fun hread ↦ hread.1.eq_upgrade hread.2

/-- Turns are read as they are written, and the ordinals of their sources count on. -/
theorem eq_upgradeAll_iff (earlier : Nat) (written : List LegacyTurn) (turns : List Turn) :
    turns = upgradeAll earlier written ↔ List.Forall₂ ReadAs written turns ∧
      (allSources turns).map Source.ordinal = List.range' (earlier + 1) (sourceCount turns) := by
  induction written generalizing earlier turns with
  | nil =>
    constructor
    · rintro rfl
      exact ⟨.nil, rfl⟩
    · rintro ⟨⟨⟩, -⟩
      rfl
  | cons first rest ih =>
    have hrange (turn : Turn) (others : List Turn) :
        (allSources (turn :: others)).map Source.ordinal =
            List.range' (earlier + 1) (sourceCount (turn :: others)) ↔
          turn.sources.map Source.ordinal = List.range' (earlier + 1) turn.sources.length ∧
            (allSources others).map Source.ordinal =
              List.range' (earlier + turn.sources.length + 1) (sourceCount others) := by
      rw [sourceCount_cons, ← List.range'_append, allSources, List.flatMap_cons, List.map_append,
        Nat.one_mul, Nat.add_right_comm]
      exact List.append_eq_append_iff_of_size_eq_left (by simp)
    constructor
    · rintro rfl
      obtain ⟨hread, hordinals⟩ := (eq_upgrade_iff earlier first _).1 rfl
      obtain ⟨hrest, hothers⟩ := (ih _ _).1 rfl
      exact ⟨.cons hread hrest, (hrange _ _).2 ⟨hordinals, hothers⟩⟩
    · rintro ⟨hturns, hordinals⟩
      cases hturns with
      | cons hread hrest =>
        next turn others =>
        obtain ⟨hturn, hothers⟩ := (hrange _ _).1 hordinals
        obtain rfl := hread.eq_upgrade hturn
        rw [upgradeAll, (ih _ others).2 ⟨hrest, hothers⟩]

end LegacyTurn

namespace Protocol

/-- The legacy protocol counts alike in its three ways of answering. -/
structure LegacyNumbersAlike (earlier : Nat) : Prop where
  /-- A pair is carried by an accepted payload that has one, and by no other payload. -/
  carried : ∀ (raw : String) (pair : String × String), PayloadReader.pair? raw = some pair ↔
    ∃ (d : Document) (payload : LegacyPayload),
      raw = d.text ∧ d.BringsLegacy payload ∧ payload.source = some pair
  /-- From payloads the carried pairs are read, numbered in the order of their arrival. -/
  streamed : ∀ payloads : List String,
    PayloadReader.sourcesRead (PayloadReader.readAll ⟨.legacy, earlier, 0⟩ payloads) =
      (payloads.filterMap PayloadReader.pair?).mapIdx fun i pair ↦
        ⟨earlier + i + 1, i, pair.1, pair.2, ""⟩
  /-- A payload that was refused or has no source may be left out: what is read of the others stays
  the same. -/
  leavesOut : ∀ (payloads : List String) (i : Nat),
    (∀ parts, (PayloadReader.readAll ⟨.legacy, earlier, 0⟩ payloads)[i]? = some (.ok parts) →
      ∀ source, .source source ∉ parts) →
    PayloadReader.readAll ⟨.legacy, earlier, 0⟩ (payloads.eraseIdx i) =
      (PayloadReader.readAll ⟨.legacy, earlier, 0⟩ payloads).eraseIdx i
  /-- Any pairs can be carried by payloads, and written in a turn or in a list of turns. -/
  written : (∀ pairs, ∃ payloads : List String, payloads.filterMap PayloadReader.pair? = pairs) ∧
    (∀ turn : LegacyTurn, ∃ d : Document, d.tree = turn.toTree) ∧
    ∀ turns : List LegacyTurn, ∃ d : Document, d.tree = .array (turns.map LegacyTurn.toTree)
  /-- A turn by itself is read as it is written, and the ordinals of its sources follow those of the
  request. -/
  turn : ∀ (raw : String) (turn : Turn), decodeReply .legacy earlier raw = .ok (.turn turn) ↔
    ∃ (d : Document) (written : LegacyTurn), raw = d.text ∧ d.tree = written.toTree ∧
      written.ReadAs turn ∧
      turn.sources.map Source.ordinal = List.range' (earlier + 1) turn.sources.length
  /-- It has the sources that are read of payloads with its pairs. -/
  asStreamed : ∀ (d : Document) (text : String) (payloads : List String),
    d.tree = (LegacyTurn.assistant text (payloads.filterMap PayloadReader.pair?)).toTree →
    decodeReply .legacy earlier d.text = .ok (.turn (.assistant text
      (PayloadReader.sourcesRead (PayloadReader.readAll ⟨.legacy, earlier, 0⟩ payloads))))
  /-- The turns of a transcript are read as they are written, and the ordinals of their sources
  count from one across the turns. -/
  transcript : ∀ (raw : String) (turns : List Turn),
    decodeReply .legacy earlier raw = .ok (.transcript turns) ↔
      ∃ (d : Document) (written : List LegacyTurn), raw = d.text ∧
        d.tree = .array (written.map LegacyTurn.toTree) ∧
        List.Forall₂ LegacyTurn.ReadAs written turns ∧
        (allSources turns).map Source.ordinal = List.range' 1 (sourceCount turns)

theorem legacy_numbersAlike (earlier : Nat) : LegacyNumbersAlike earlier where
  carried := PayloadReader.pair?_eq_some_iff
  streamed payloads := by
    rw [PayloadReader.sourcesRead_legacy, LegacyTurn.number_eq_mapIdx]
  leavesOut payloads i hnone := PayloadReader.readAll_eraseIdx hnone
  written := ⟨PayloadReader.exists_carryingAll, LegacyTurn.exists_document,
    LegacyTurn.exists_documentOfAll⟩
  turn raw turn := by
    rw [decodeReply_legacy_eq_ok_iff]
    simp only [Reply.turn.injEq, reduceCtorEq, and_false, exists_false, or_false,
      LegacyTurn.eq_upgrade_iff, exists_and_left]
  asStreamed d text payloads htree := by
    rw [PayloadReader.sourcesRead_legacy, decodeReply_legacy_eq_ok_iff]
    exact ⟨d, rfl, .inl ⟨_, htree, rfl⟩⟩
  transcript raw turns := by
    rw [decodeReply_legacy_eq_ok_iff]
    simp only [Reply.transcript.injEq, reduceCtorEq, and_false, exists_false, false_or,
      LegacyTurn.eq_upgradeAll_iff, exists_and_left]

end Protocol

end CitedChat
