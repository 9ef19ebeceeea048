import CitedChat.Proofs.Text.Trimming
import CitedChat.Proofs.Wire.Acceptance

/-!
What the legacy protocol accepts as a payload. Two bare texts end the answer, whatever white space
is around them (`PayloadReader.EndsBare`); any other text has to be that of an object in which a
payload is written (`LegacyPayload.WrittenIn`). From a payload its text is read, if there is any,
then its source, then a signal: the one that is written, or the empty one where there is nothing
else (`PayloadReader.legacyParts_eq_pieces`). So something is read of every payload, and the reader
accepts these texts and no others (`PayloadReader.legacy_acceptsExactly`).
-/

set_option autoImplicit false

namespace CitedChat

open Json

/-! ### Payloads as they are written -/

/-- The parts of a legacy payload stand under their keys, may be null and need not be there. Where a
key is repeated, its last value counts. The serial number is looked at and says nothing. -/
structure LegacyPayload.WrittenIn (payload : LegacyPayload) (members : List (String × Tree)) :
    Prop where
  serial : ∃ serial : Option Nat, Given (fun n tree ↦ tree = .natural n ∧ n < Word.limit)
    (Tree.lookup "serial" members) serial
  content : Given (fun text tree ↦ tree = .string text) (Tree.lookup "content" members)
    payload.content
  source : Given (fun pair tree ↦ tree = .array [.string pair.1, .string pair.2])
    (Tree.lookup "source" members) payload.source
  finished : Given (fun text tree ↦ tree = .string text) (Tree.lookup "finished" members)
    payload.finished

/-- The value is an object in which the legacy payload is written. -/
def Json.Document.BringsLegacy (d : Document) (payload : LegacyPayload) : Prop :=
  ∃ members, d.value.tree = .object members ∧ payload.WrittenIn members

/-- A bare text that ends a legacy answer, with white space around it. -/
def PayloadReader.EndsBare (raw signal : String) : Prop :=
  (signal = "[0]" ∨ signal = "[DONE]") ∧ ∃ before after : List Char,
    (∀ c ∈ before, Text.isBlank c = true) ∧ (∀ c ∈ after, Text.isBlank c = true) ∧
      raw.toList = before ++ (signal.toList ++ after)

/-! ### Decoding -/

namespace LegacyPayload

/-- The fields that the decoder of legacy payloads reads. -/
def fields : Fields
    (Option (Option Nat) × Option (Option String) × Option (Option (String × String)) ×
      Option (Option String) × Unit)
    (Option Nat × Option String × Option (String × String) × Option String × Unit) :=
  .cons "serial" (.optional (.natural "u64")) <| .cons "content" (.optional .string) <|
    .cons "source" (.optional (.pair .string .string)) <| .cons "finished" (.optional .string) .nil

theorem exact_source : (Decoder.pair .string .string).Exact fun pair tree ↦
    tree = .array [.string pair.1, .string pair.2] := by
  intro tree pair
  rw [Decoder.exact_string.pair Decoder.exact_string rfl rfl]
  constructor
  · rintro ⟨first, second, htree, rfl, rfl⟩
    exact htree
  · intro htree
    exact ⟨_, _, htree, rfl, rfl⟩

theorem fills_fields (payload : LegacyPayload) (members : List (String × Tree)) :
    (∃ serial, fields.Fills .whole (fun name ↦ (Tree.lookup name members).map Tree.sorted)
      fields.empty (serial, payload.content, payload.source, payload.finished, ())) ↔
      payload.WrittenIn members := by
  have hserial := (Decoder.exact_natural "u64").fills_optional_iff (fun _ ↦ by rintro ⟨⟨⟩, -⟩)
  have htext := Decoder.exact_string.fills_optional_iff (fun _ ↦ nofun)
  have hsource := exact_source.fills_optional_iff (fun _ ↦ nofun)
  simp only [fields, Fields.Fills, Fields.empty, hserial, htext, hsource]
  constructor
  · rintro ⟨serial, hserial, hcontent, hsource, hfinished, -⟩
    exact ⟨⟨serial, hserial⟩, hcontent, hsource, hfinished⟩
  · rintro ⟨⟨serial, hserial⟩, hcontent, hsource, hfinished⟩
    exact ⟨serial, hserial, hcontent, hsource, hfinished, trivial⟩

/-- The decoder accepts the objects in which a payload is written. -/
theorem exactIn_decoder : decoder.ExactIn WrittenIn := by
  intro payload members
  have hnames : fields.names.Nodup := by simp [fields, Fields.names]
  have hrecord := Decoder.exact_record "struct LegacyPayload" hnames
  refine ((hrecord.map _) (.object members) payload).trans ⟨?_, fun hwritten ↦ ?_⟩
  · rintro ⟨⟨serial, values⟩, ⟨_, hmembers, hfills⟩ | ⟨_, hitems, -⟩, rfl⟩
    · cases hmembers
      exact (fills_fields _ members).1 ⟨serial, hfills⟩
    · cases hitems
  · obtain ⟨serial, hfills⟩ := (fills_fields payload members).2 hwritten
    exact ⟨_, .inl ⟨members, rfl, hfills⟩, rfl⟩

theorem decodeObject_eq_ok_iff (d : Document) (payload : LegacyPayload) :
    decodeObject decoder d.text = .ok payload ↔ d.BringsLegacy payload :=
  exactIn_decoder.decodeObject_eq_ok_iff d payload

/-- What is decoded comes from a document. -/
theorem exists_document {raw : String} {payload : LegacyPayload}
    (hdecode : decodeObject decoder raw = .ok payload) :
    ∃ d : Document, raw = d.text ∧ d.BringsLegacy payload := by
  obtain ⟨members, hparse⟩ := decodeObject_isObject hdecode
  obtain ⟨d, rfl, -⟩ := Tree.parse_eq_ok_iff.1 hparse
  exact ⟨d, rfl, (decodeObject_eq_ok_iff d payload).1 hdecode⟩

/-- The signal that is read of a payload: the one that is written, or the empty one where there is
neither text nor source. -/
def signal? (payload : LegacyPayload) : Option String :=
  payload.finished.or
    (if payload.content.getD "" = "" ∧ payload.source = none then some "" else none)

end LegacyPayload

/-! ### Texts -/

namespace PayloadReader

variable {raw : String}

/-- Trimming finds the bare texts. -/
theorem endsBare_iff (raw signal : String) :
    EndsBare raw signal ↔ isLegacyEnd (Text.trim raw) = true ∧ Text.trim raw = signal := by
  constructor
  · rintro ⟨hsignal, before, after, hbefore, hafter, hraw⟩
    have htrim : Text.trim raw = signal := by
      rw [Text.trim, hraw]
      obtain rfl | rfl := hsignal
      · rw [Text.trimList_append (by decide) (by simp) hbefore hafter, String.ofList_toList]
      · rw [Text.trimList_append (by decide) (by simp) hbefore hafter, String.ofList_toList]
    rw [htrim]
    obtain rfl | rfl := hsignal
    · exact ⟨rfl, rfl⟩
    · exact ⟨rfl, rfl⟩
  · rintro ⟨hend, rfl⟩
    obtain ⟨before, after, hbefore, hafter, hraw⟩ := Text.exists_trimList raw.toList
    refine ⟨by simpa [isLegacyEnd] using hend, before, after, hbefore, hafter, ?_⟩
    rw [Text.trim, String.toList_ofList]
    exact hraw

theorem forall_not_endsBare_iff :
    (∀ signal, ¬ EndsBare raw signal) ↔ isLegacyEnd (Text.trim raw) = false := by
  simp [endsBare_iff]

/-- The text of an object in which a payload is written is none of those that end the answer. -/
theorem isLegacyEnd_of_brings {d : Document} {payload : LegacyPayload}
    (hbrings : d.BringsLegacy payload) : isLegacyEnd (Text.trim d.text) = false := by
  obtain ⟨members, hobject, -⟩ := hbrings
  have hparse : Tree.parse d.text = .ok (Tree.object members).sorted := by
    rw [d.parse_text, Document.tree, hobject]
  exact isLegacyEnd_of_parse_object hparse

/-! ### Reading -/

variable (earlier seen : Nat)

theorem read_legacy_bare (hend : isLegacyEnd (Text.trim raw) = true) :
    read ⟨.legacy, earlier, seen⟩ raw =
      .ok ([.finished (Text.trim raw)], ⟨.legacy, earlier, seen⟩) := by
  simp only [read, hend]
  rfl

theorem read_legacy_payload (hend : isLegacyEnd (Text.trim raw) = false) :
    read ⟨.legacy, earlier, seen⟩ raw = (decodeObject LegacyPayload.decoder raw).map fun payload ↦
      (legacyParts ⟨.legacy, earlier, seen⟩ payload,
        ⟨.legacy, earlier, seen + payload.source.toList.length⟩) := by
  cases hdecode : decodeObject LegacyPayload.decoder raw with
  | error error =>
    simp only [read, hend, hdecode]
    rfl
  | ok payload => exact Protocol.read_legacy hdecode earlier seen

/-- The text, the source and the signal of a payload, as far as there are any. -/
theorem legacyParts_eq_pieces (payload : LegacyPayload) :
    legacyParts ⟨.legacy, earlier, seen⟩ payload =
      (payload.content.toList.filter (· ≠ "")).map .content ++
        payload.source.toList.map (fun pair ↦ .source (legacySource earlier seen pair)) ++
          payload.signal?.toList.map .finished := by
  obtain ⟨content, source, finished⟩ := payload
  rw [legacyParts, LegacyPayload.signal?, Protocol.content_parts_eq_filter]
  cases content with
  | none => cases source <;> cases finished <;> simp
  | some text => by_cases htext : text = "" <;> cases source <;> cases finished <;> simp [htext]

/-- What is read: a bare text that ends the answer, or a payload. -/
theorem read_legacy_eq_ok_iff (raw : String) (result : List Part × PayloadReader) :
    read ⟨.legacy, earlier, seen⟩ raw = .ok result ↔
      (∃ signal, EndsBare raw signal ∧
        result = ([.finished signal], ⟨.legacy, earlier, seen⟩)) ∨
      ∃ (d : Document) (payload : LegacyPayload), raw = d.text ∧ d.BringsLegacy payload ∧
        result = (legacyParts ⟨.legacy, earlier, seen⟩ payload,
          ⟨.legacy, earlier, seen + payload.source.toList.length⟩) := by
  constructor
  · intro hread
    cases hend : isLegacyEnd (Text.trim raw) with
    | true =>
      rw [read_legacy_bare earlier seen hend] at hread
      exact .inl ⟨_, (endsBare_iff raw _).2 ⟨hend, rfl⟩, (Except.ok.inj hread).symm⟩
    | false =>
      rw [read_legacy_payload earlier seen hend] at hread
      obtain ⟨payload, hdecode, rfl⟩ := Except.map_eq_ok hread
      obtain ⟨d, rfl, hbrings⟩ := LegacyPayload.exists_document hdecode
      exact .inr ⟨d, payload, rfl, hbrings, rfl⟩
  · rintro (⟨signal, hbare, rfl⟩ | ⟨d, payload, rfl, hbrings, rfl⟩)
    · obtain ⟨hend, rfl⟩ := (endsBare_iff raw signal).1 hbare
      exact read_legacy_bare earlier seen hend
    · rw [read_legacy_payload earlier seen (isLegacyEnd_of_brings hbrings),
        (LegacyPayload.decodeObject_eq_ok_iff d payload).2 hbrings]
      rfl

/-- What is refused is no bare text that ends the answer, and the decoder of payloads refuses it. -/
theorem read_legacy_eq_error_iff (raw : String) (error : DecodeError) :
    read ⟨.legacy, earlier, seen⟩ raw = .error error ↔
      (∀ signal, ¬ EndsBare raw signal) ∧
        decodeObject LegacyPayload.decoder raw = .error error := by
  rw [forall_not_endsBare_iff]
  cases hend : isLegacyEnd (Text.trim raw) with
  | true => simp [read_legacy_bare earlier seen hend]
  | false =>
    rw [read_legacy_payload earlier seen hend]
    cases decodeObject LegacyPayload.decoder raw <;> simp [Except.map]

/-- A signal is read of a payload if it is written there, or if nothing else is. -/
theorem finished_mem_legacyParts_iff (payload : LegacyPayload) (signal : String) :
    .finished signal ∈ legacyParts ⟨.legacy, earlier, seen⟩ payload ↔
      payload.finished = some signal ∨ payload.finished = none ∧
        (payload.content = none ∨ payload.content = some "") ∧ payload.source = none ∧
          signal = "" := by
  have hsignal : .finished signal ∈ legacyParts ⟨.legacy, earlier, seen⟩ payload ↔
      payload.signal? = some signal := by
    simp [legacyParts_eq_pieces]
  rw [hsignal, LegacyPayload.signal?]
  cases payload.finished with
  | some written => simp
  | none => cases payload.content <;> simp [and_assoc, eq_comm]

/-- Something is read of every payload. -/
theorem legacyParts_ne_nil (payload : LegacyPayload) :
    legacyParts ⟨.legacy, earlier, seen⟩ payload ≠ [] := by
  rw [legacyParts_eq_pieces, LegacyPayload.signal?]
  cases payload.source with
  | some pair => simp
  | none =>
    by_cases hcontent : payload.content.getD "" = ""
    · cases payload.finished <;> simp [hcontent]
    · cases htext : payload.content with
      | none => exact absurd (by rw [htext]; rfl) hcontent
      | some text =>
        rw [htext] at hcontent
        simp [show text ≠ "" from hcontent]

/-- The legacy reader accepts exactly the grammar of its payloads. -/
structure AcceptsLegacyExactly (r : PayloadReader) : Prop where
  /-- Accepted is a bare text that ends the answer, which is its signal, and an object with a
  payload written in it, which is read part by part. A source takes the next number. -/
  accepted : ∀ (raw : String) (parts : List Part) (next : PayloadReader),
    r.read raw = .ok (parts, next) ↔
      (∃ signal, EndsBare raw signal ∧ parts = [.finished signal] ∧ next = r) ∨
      ∃ (d : Document) (payload : LegacyPayload), raw = d.text ∧ d.BringsLegacy payload ∧
        parts = (payload.content.toList.filter (· ≠ "")).map .content ++
          payload.source.toList.map (fun pair ↦ .source (legacySource r.earlier r.seen pair)) ++
            payload.signal?.toList.map .finished ∧
        next = { r with seen := r.seen + payload.source.toList.length }
  /-- Malformed is any other text that is no text of the format. -/
  malformed : ∀ raw : String, (∃ detail, r.read raw = .error (.malformed detail)) ↔
    (∀ signal, ¬ EndsBare raw signal) ∧ ∀ d : Document, raw ≠ d.text
  /-- Any other value has the wrong shape. -/
  misshapen : ∀ raw : String, (∃ detail, r.read raw = .error (.shape detail)) ↔
    (∀ signal, ¬ EndsBare raw signal) ∧
      ∃ d : Document, raw = d.text ∧ ∀ payload, ¬ d.BringsLegacy payload
  /-- Something is read: at most a fragment, a source and a signal, in this order, and no empty
  fragment. -/
  inOrder : ∀ (raw : String) (parts : List Part) (next : PayloadReader),
    r.read raw = .ok (parts, next) → parts ≠ [] ∧ Part.InOrder parts ∧ .content "" ∉ parts
  /-- A payload ends the answer if it has a signal, or has neither text nor source. -/
  ends : ∀ (d : Document) (payload : LegacyPayload) (parts : List Part) (next : PayloadReader),
    d.BringsLegacy payload → r.read d.text = .ok (parts, next) → ∀ signal,
      .finished signal ∈ parts ↔ payload.finished = some signal ∨ payload.finished = none ∧
        (payload.content = none ∨ payload.content = some "") ∧ payload.source = none ∧ signal = ""

theorem legacy_acceptsExactly : AcceptsLegacyExactly ⟨.legacy, earlier, seen⟩ where
  accepted raw parts next := by
    simp only [read_legacy_eq_ok_iff, Prod.mk.injEq, legacyParts_eq_pieces]
  malformed raw := by
    rw [← LegacyPayload.exactIn_decoder.decodeObject_malformed_iff]
    simp only [read_legacy_eq_error_iff, exists_and_left]
  misshapen raw := by
    simp only [read_legacy_eq_error_iff, exists_and_left]
    rw [LegacyPayload.exactIn_decoder.decodeObject_misshapen_iff]
    rfl
  inOrder raw parts next hread := by
    refine ⟨?_, Part.inOrder_of_read hread, Part.content_ne_empty_of_read hread⟩
    obtain ⟨signal, -, hresult⟩ | ⟨d, payload, -, -, hresult⟩ :=
      (read_legacy_eq_ok_iff earlier seen raw _).1 hread
    · cases hresult
      exact List.cons_ne_nil _ _
    · cases hresult
      exact legacyParts_ne_nil earlier seen payload
  ends d payload parts next hbrings hread signal := by
    have hpayload := (read_legacy_eq_ok_iff earlier seen d.text _).2
      (.inr ⟨d, payload, rfl, hbrings, rfl⟩)
    cases hpayload.symm.trans hread
    exact finished_mem_legacyParts_iff earlier seen payload signal

end PayloadReader

end CitedChat
