import CitedChat.Proofs.Json.Accepting
import CitedChat.Proofs.Json.Flaws
import CitedChat.Proofs.Json.Parsing
import CitedChat.Proofs.Wire.RoundTrip

/-!
What the current protocol accepts as a payload. A payload is written in the members of an object
(`Payload.WrittenIn`), and a source as an object or as an array (`Source.WrittenAs`). The reader
accepts these and nothing else; any other text is malformed, and any other value of the wrong shape
(`PayloadReader.current_acceptsExactly`). Changes that leave the values under the known keys as they
are leave what is read as it is (`Rewritten`).
-/

set_option autoImplicit false

namespace CitedChat

open Json

/-! ### Payloads as they are written -/

/-- The fields of a source stand under their keys. Where a key is repeated, its last value counts.
Which numbers are integers is seen from their digits (`Json.Decimal.number?_eq_integer_iff`). -/
structure Source.WrittenIn (source : Source) (members : List (String × Tree)) : Prop where
  ordinal : Tree.lookup "ordinal" members = some (.natural source.ordinal)
  index : Tree.lookup "index" members = some (.integer source.index)
  citation : Tree.lookup "citation" members = some (.string source.citation)
  url : Tree.lookup "url" members = some (.string source.url)
  originText : Tree.lookup "origin_text" members = some (.string source.originText)
  fits : source.Fits

/-- A source is an object with its fields, or an array of exactly these in their order. -/
inductive Source.WrittenAs (source : Source) : Tree → Prop where
  | object {members : List (String × Tree)} (h : source.WrittenIn members) :
      WrittenAs source (.object members)
  | array (hfits : source.Fits) : WrittenAs source (.array
      [.natural source.ordinal, .integer source.index, .string source.citation,
        .string source.url, .string source.originText])

/-- The parts of a payload stand under their keys, may be null and need not be there. -/
structure Payload.WrittenIn (payload : Payload) (members : List (String × Tree)) : Prop where
  content : Given (fun text tree ↦ tree = .string text) (Tree.lookup "content" members)
    payload.content
  source : Given Source.WrittenAs (Tree.lookup "source" members) payload.source
  finished : Given (fun text tree ↦ tree = .string text) (Tree.lookup "finished" members)
    payload.finished

/-- The value is an object in which the payload is written. -/
def Json.Document.Brings (d : Document) (payload : Payload) : Prop :=
  ∃ members, d.value.tree = .object members ∧ payload.WrittenIn members

/-! ### Texts with the same payload -/

def Source.keys : List String := ["ordinal", "index", "citation", "url", "origin_text"]

def Payload.keys : List String := ["content", "source", "finished"]

/-- Members that differ in their order, but not in the order of the values under one key, or by one
member whose key is not among the known ones. -/
inductive Rearranged (known : List String) :
    List (String × Tree) → List (String × Tree) → Prop where
  | order {members others : List (String × Tree)}
      (h : ∀ key, members.filter (·.1 == key) = others.filter (·.1 == key)) :
      Rearranged known members others
  | add (before after : List (String × Tree)) {key : String} (tree : Tree) (hkey : key ∉ known) :
      Rearranged known (before ++ after) (before ++ (key, tree) :: after)
  | remove (before after : List (String × Tree)) {key : String} (tree : Tree)
      (hkey : key ∉ known) :
      Rearranged known (before ++ (key, tree) :: after) (before ++ after)

/-- Documents of which one can be made from the other by changes that are of no account to a
payload. -/
inductive Rewritten : Document → Document → Prop where
  /-- The white space differs, or how the strings and numbers are spelled. -/
  | layout {d e : Document} (h : d.value.tree = e.value.tree) : Rewritten d e
  /-- The members of the object are rearranged. -/
  | members {d e : Document} {members others : List (String × Tree)}
      (hd : d.value.tree = .object members) (he : e.value.tree = .object others)
      (h : Rearranged Payload.keys members others) : Rewritten d e
  /-- The members of a source are rearranged. -/
  | source {d e : Document} (before after : List (String × Tree))
      {members others : List (String × Tree)}
      (hd : d.value.tree = .object (before ++ ("source", .object members) :: after))
      (he : e.value.tree = .object (before ++ ("source", .object others) :: after))
      (h : Rearranged Source.keys members others) : Rewritten d e
  | trans {d e f : Document} (hde : Rewritten d e) (hef : Rewritten e f) : Rewritten d f

/-! ### Decoding -/

namespace Source

/-- The fields that the decoder of sources reads. -/
def fields : Fields
    (Option Nat × Option Int × Option String × Option String × Option String × Unit)
    (Nat × Int × String × String × String × Unit) :=
  .cons "ordinal" (.natural "usize") <| .cons "index" .signed64 <| .cons "citation" .string <|
    .cons "url" .string <| .cons "origin_text" .string .nil

def values (source : Source) : Nat × Int × String × String × String × Unit :=
  (source.ordinal, source.index, source.citation, source.url, source.originText, ())

theorem fills_fields (source : Source) (members : List (String × Tree)) :
    fields.Fills .whole (fun name ↦ (Tree.lookup name members).map Tree.sorted) fields.empty
      source.values ↔ source.WrittenIn members := by
  have hnatural := (Decoder.exact_natural "usize").fills_iff rfl
  have hsigned := Decoder.exact_signed64.fills_iff rfl
  have hstring := Decoder.exact_string.fills_iff rfl
  simp only [fields, Fields.Fills, Fields.empty, values, hnatural, hsigned, hstring]
  constructor
  · rintro ⟨⟨_, hordinal, rfl, hlimit⟩, ⟨_, hindex, rfl, hrange⟩, ⟨_, hcitation, rfl⟩,
      ⟨_, hurl, rfl⟩, ⟨_, horigin, rfl⟩, -⟩
    exact ⟨hordinal, hindex, hcitation, hurl, horigin, hlimit, hrange⟩
  · rintro ⟨hordinal, hindex, hcitation, hurl, horigin, hlimit, hrange⟩
    exact ⟨⟨_, hordinal, rfl, hlimit⟩, ⟨_, hindex, rfl, hrange⟩, ⟨_, hcitation, rfl⟩,
      ⟨_, hurl, rfl⟩, ⟨_, horigin, rfl⟩, trivial⟩

theorem lists_fields (source : Source) (items : List Tree) :
    fields.Lists (items.map Tree.sorted) source.values ↔ source.WrittenAs (.array items) := by
  have hnatural := Decoder.exact_natural "usize"
  have hsigned := Decoder.exact_signed64
  have hstring := Decoder.exact_string
  constructor
  · intro hlists
    rcases items with _ | ⟨a, _ | ⟨b, _ | ⟨c, _ | ⟨d, _ | ⟨e, _ | ⟨f, items⟩⟩⟩⟩⟩⟩
    case cons.cons.cons.cons.cons.nil =>
      obtain ⟨ha, hb, hc, hd, he, -⟩ := hlists
      obtain ⟨rfl, hlimit⟩ := (hnatural a source.ordinal).1 ha
      obtain ⟨rfl, hrange⟩ := (hsigned b source.index).1 hb
      obtain rfl := (hstring c source.citation).1 hc
      obtain rfl := (hstring d source.url).1 hd
      obtain rfl := (hstring e source.originText).1 he
      exact .array ⟨hlimit, hrange⟩
    case cons.cons.cons.cons.cons.cons => exact absurd hlists.2.2.2.2.2 (List.cons_ne_nil _ _)
    -- With too few items a field is missing, and none of them takes anything then.
    case nil => cases hlists.1
    case cons.nil => cases hlists.2.1
    case cons.cons.nil => cases hlists.2.2.1
    case cons.cons.cons.nil => cases hlists.2.2.2.1
    case cons.cons.cons.cons.nil => cases hlists.2.2.2.2.1
  · rintro ⟨⟩
    next hfits =>
    exact ⟨(hnatural _ _).2 ⟨rfl, hfits.ordinal⟩, (hsigned _ _).2 ⟨rfl, hfits.index⟩, rfl, rfl, rfl,
      rfl⟩

theorem exact_decoder : decoder.Exact WrittenAs := by
  have hnames : fields.names.Nodup := by simp [fields, Fields.names]
  have hrecord := Decoder.exact_record "struct Source" hnames
  refine fun tree source ↦ ((hrecord.map _) tree source).trans ⟨?_, fun hwritten ↦ ?_⟩
  · rintro ⟨values, hfields, rfl⟩
    obtain ⟨members, rfl, hfills⟩ | ⟨items, rfl, hlists⟩ := hfields
    · exact .object ((fills_fields _ members).1 hfills)
    · exact (lists_fields _ items).1 hlists
  · refine ⟨source.values, ?_, rfl⟩
    cases tree with
    | object members =>
      cases hwritten with
      | object hmembers => exact .inl ⟨members, rfl, (fills_fields source members).2 hmembers⟩
    | array items => exact .inr ⟨items, rfl, (lists_fields source items).2 hwritten⟩
    | _ => cases hwritten

end Source

namespace Payload

/-- The fields that the decoder of payloads reads. -/
def fields : Fields
    (Option (Option String) × Option (Option Source) × Option (Option String) × Unit)
    (Option String × Option Source × Option String × Unit) :=
  .cons "content" (.optional .string) <| .cons "source" (.optional Source.decoder) <|
    .cons "finished" (.optional .string) .nil

def values (payload : Payload) : Option String × Option Source × Option String × Unit :=
  (payload.content, payload.source, payload.finished, ())

theorem fills_fields (payload : Payload) (members : List (String × Tree)) :
    fields.Fills .whole (fun name ↦ (Tree.lookup name members).map Tree.sorted) fields.empty
      payload.values ↔ payload.WrittenIn members := by
  have htext := Decoder.exact_string.fills_optional_iff (fun _ ↦ nofun)
  have hsource := Source.exact_decoder.fills_optional_iff (fun _ ↦ nofun)
  simp only [fields, Fields.Fills, Fields.empty, values, htext, hsource]
  constructor
  · rintro ⟨hcontent, hsource, hfinished, -⟩
    exact ⟨hcontent, hsource, hfinished⟩
  · rintro ⟨hcontent, hsource, hfinished⟩
    exact ⟨hcontent, hsource, hfinished, trivial⟩

/-- The decoder accepts the objects in which a payload is written. -/
theorem decode_eq_ok_iff (payload : Payload) (members : List (String × Tree)) :
    decoder.decode (Tree.object members).sorted = .ok payload ↔ payload.WrittenIn members := by
  have hnames : fields.names.Nodup := by simp [fields, Fields.names]
  have hrecord := Decoder.exact_record "struct StreamPayload" hnames
  refine ((hrecord.map _) (.object members) payload).trans ⟨?_, fun hwritten ↦ ?_⟩
  · rintro ⟨values, ⟨_, hmembers, hfills⟩ | ⟨_, hitems, -⟩, rfl⟩
    · cases hmembers
      exact (fills_fields _ members).1 hfills
    · cases hitems
  · exact ⟨payload.values, .inl ⟨members, rfl, (fills_fields payload members).2 hwritten⟩, rfl⟩

end Payload

/-! ### Texts -/

theorem parseObject_text (d : Document) {members : List (String × Tree)}
    (hobject : d.value.tree = .object members) :
    parseObject d.text = .ok (Tree.object members).sorted := by
  rw [parseObject, d.parse_text, Document.tree, hobject]
  rfl

/-- A value that is no object is of the wrong shape. -/
theorem parseObject_text_error (d : Document)
    (hother : ∀ members, d.value.tree ≠ .object members) :
    ∃ detail, parseObject d.text = .error (.shape detail) := by
  rw [parseObject, d.parse_text, Document.tree]
  cases hvalue : d.value.tree with
  | object members => exact absurd hvalue (hother members)
  | _ => exact ⟨_, rfl⟩

/-- A text in which no value is written is malformed. -/
theorem parseObject_malformed {raw : String} (hraw : ∀ d : Document, raw ≠ d.text) :
    ∃ detail, parseObject raw = .error (.malformed detail) := by
  cases hparse : Tree.parse raw with
  | ok tree =>
    obtain ⟨d, htext, -⟩ := Tree.parse_eq_ok_iff.1 hparse
    exact absurd htext (hraw d)
  | error e =>
    obtain ⟨flaw, place, rfl⟩ := Tree.parse_error hparse
    refine ⟨Error.message ⟨.flaw flaw, some place⟩, ?_⟩
    rw [parseObject, hparse]
    cases flaw <;> rfl

section Objects

variable {α : Type} {decoder : Decoder α} {is : α → List (String × Tree) → Prop}

/-- From an object the decoder makes just the values that are written in its members. -/
def Json.Decoder.ExactIn (decoder : Decoder α) (is : α → List (String × Tree) → Prop) : Prop :=
  ∀ (x : α) (members : List (String × Tree)),
    decoder.decode (Tree.object members).sorted = .ok x ↔ is x members

theorem decodeObject_malformed (decoder : Decoder α) {raw : String}
    (hraw : ∀ d : Document, raw ≠ d.text) :
    ∃ detail, decodeObject decoder raw = .error (.malformed detail) := by
  obtain ⟨detail, hparse⟩ := parseObject_malformed hraw
  exact ⟨detail, by simp [decodeObject, hparse, bind, Except.bind]⟩

/-- What is written in an object is decoded from any text of it. -/
theorem Json.Decoder.ExactIn.decodeObject_text (hexact : decoder.ExactIn is) {d : Document} {x : α}
    (hwritten : ∃ members, d.value.tree = .object members ∧ is x members) :
    decodeObject decoder d.text = .ok x := by
  obtain ⟨members, hobject, hwritten⟩ := hwritten
  have hdecode := (hexact x members).2 hwritten
  simp [decodeObject, parseObject_text d hobject, hdecode, bind, Except.bind, Except.mapError]

/-- From any other document nothing is decoded. -/
theorem Json.Decoder.ExactIn.decodeObject_misshapen (hexact : decoder.ExactIn is) {d : Document}
    (hnone : ∀ x, ¬ ∃ members, d.value.tree = .object members ∧ is x members) :
    ∃ detail, decodeObject decoder d.text = .error (.shape detail) := by
  by_cases hobject : ∃ members, d.value.tree = .object members
  · obtain ⟨members, hobject⟩ := hobject
    cases hdecode : decoder.decode (Tree.object members).sorted with
    | ok x => exact absurd ⟨members, hobject, (hexact x members).1 hdecode⟩ (hnone x)
    | error mismatch =>
      exact ⟨mismatch.message, by simp [decodeObject, parseObject_text d hobject, hdecode, bind,
        Except.bind, Except.mapError, DecodeError.ofMismatch]⟩
  · obtain ⟨detail, hparse⟩ := parseObject_text_error d (not_exists.1 hobject)
    exact ⟨detail, by simp [decodeObject, hparse, bind, Except.bind]⟩

theorem Json.Decoder.ExactIn.decodeObject_eq_ok_iff (hexact : decoder.ExactIn is) (d : Document)
    (x : α) : decodeObject decoder d.text = .ok x ↔
      ∃ members, d.value.tree = .object members ∧ is x members := by
  refine ⟨fun hdecode ↦ ?_, hexact.decodeObject_text⟩
  by_cases hwritten : ∃ other members, d.value.tree = .object members ∧ is other members
  · obtain ⟨other, hwritten⟩ := hwritten
    obtain rfl := Except.ok.inj ((hexact.decodeObject_text hwritten).symm.trans hdecode)
    exact hwritten
  · obtain ⟨detail, herror⟩ := hexact.decodeObject_misshapen (not_exists.1 hwritten)
    cases herror.symm.trans hdecode

/-- Malformed is what is no text of the format. -/
theorem Json.Decoder.ExactIn.decodeObject_malformed_iff (hexact : decoder.ExactIn is)
    (raw : String) : (∃ detail, decodeObject decoder raw = .error (.malformed detail)) ↔
      ∀ d : Document, raw ≠ d.text := by
  refine ⟨?_, decodeObject_malformed decoder⟩
  rintro ⟨detail, hmalformed⟩ d rfl
  by_cases hwritten : ∃ x members, d.value.tree = .object members ∧ is x members
  · obtain ⟨x, hwritten⟩ := hwritten
    cases (hexact.decodeObject_text hwritten).symm.trans hmalformed
  · obtain ⟨other, hshape⟩ := hexact.decodeObject_misshapen (not_exists.1 hwritten)
    cases hshape.symm.trans hmalformed

/-- Of the wrong shape is any other value than an object in which something is written. -/
theorem Json.Decoder.ExactIn.decodeObject_misshapen_iff (hexact : decoder.ExactIn is)
    (raw : String) : (∃ detail, decodeObject decoder raw = .error (.shape detail)) ↔
      ∃ d : Document, raw = d.text ∧
        ∀ x, ¬ ∃ members, d.value.tree = .object members ∧ is x members := by
  constructor
  · rintro ⟨detail, hshape⟩
    by_cases hraw : ∃ d : Document, raw = d.text
    · obtain ⟨d, rfl⟩ := hraw
      refine ⟨d, rfl, fun x hwritten ↦ ?_⟩
      cases (hexact.decodeObject_text hwritten).symm.trans hshape
    · obtain ⟨other, hmalformed⟩ := decodeObject_malformed decoder (not_exists.1 hraw)
      cases hmalformed.symm.trans hshape
  · rintro ⟨d, rfl, hnone⟩
    exact hexact.decodeObject_misshapen hnone

end Objects

namespace Payload

theorem exactIn_decoder : decoder.ExactIn WrittenIn :=
  decode_eq_ok_iff

theorem decodeObject_of_brings {d : Document} {payload : Payload} (hbrings : d.Brings payload) :
    decodeObject decoder d.text = .ok payload :=
  exactIn_decoder.decodeObject_text hbrings

theorem decodeObject_misshapen {d : Document} (hnone : ∀ payload, ¬ d.Brings payload) :
    ∃ detail, decodeObject decoder d.text = .error (.shape detail) :=
  exactIn_decoder.decodeObject_misshapen hnone

theorem decodeObject_malformed {raw : String} (hraw : ∀ d : Document, raw ≠ d.text) :
    ∃ detail, decodeObject decoder raw = .error (.malformed detail) :=
  CitedChat.decodeObject_malformed decoder hraw

theorem decodeObject_eq_ok_iff (d : Document) (payload : Payload) :
    decodeObject decoder d.text = .ok payload ↔ d.Brings payload :=
  exactIn_decoder.decodeObject_eq_ok_iff d payload

end Payload

namespace PayloadReader

variable (earlier seen : Nat)

theorem read_current (raw : String) :
    read ⟨.current, earlier, seen⟩ raw = (decodeObject Payload.decoder raw).map fun payload ↦
      (payload.parts, ⟨.current, earlier, seen⟩) := by
  cases hdecode : decodeObject Payload.decoder raw <;>
    simp [read, hdecode, bind, Except.bind, pure, Except.pure, Except.map]

/-- What is read of a document are the parts of the payload that it brings. -/
theorem read_current_eq_ok_iff (d : Document) (result : List Part × PayloadReader) :
    read ⟨.current, earlier, seen⟩ d.text = .ok result ↔
      ∃ payload, d.Brings payload ∧ result = (payload.parts, ⟨.current, earlier, seen⟩) := by
  simp only [read_current, ← Payload.decodeObject_eq_ok_iff]
  constructor
  · intro hread
    obtain ⟨payload, hdecode, rfl⟩ := Except.map_eq_ok hread
    exact ⟨payload, hdecode, rfl⟩
  · rintro ⟨payload, hdecode, rfl⟩
    rw [hdecode]
    rfl

end PayloadReader

/-! ### Rewriting -/

theorem Rearranged.lookup_eq {known : List String} {members others : List (String × Tree)}
    (h : Rearranged known members others) {key : String} (hkey : key ∈ known) :
    Tree.lookup key members = Tree.lookup key others := by
  have hadded (before after : List (String × Tree)) {added : String} (tree : Tree)
      (hadded : added ∉ known) : Tree.lookup key (before ++ (added, tree) :: after) =
        Tree.lookup key (before ++ after) := by
    have hother : added ≠ key := fun heq ↦ hadded (heq ▸ hkey)
    rw [Tree.lookup_append, Tree.lookup_append, Tree.lookup_cons, if_neg hother, Option.or_none]
  cases h with
  | order h => rw [Tree.lookup_eq_getLast?, Tree.lookup_eq_getLast?, h]
  | add before after tree hunknown => exact (hadded before after tree hunknown).symm
  | remove before after tree hunknown => exact hadded before after tree hunknown

theorem Source.WrittenIn.congr {source : Source} {members others : List (String × Tree)}
    (hwritten : source.WrittenIn members)
    (h : ∀ key ∈ keys, Tree.lookup key others = Tree.lookup key members) :
    source.WrittenIn others where
  ordinal := (h "ordinal" (by simp [keys])).trans hwritten.ordinal
  index := (h "index" (by simp [keys])).trans hwritten.index
  citation := (h "citation" (by simp [keys])).trans hwritten.citation
  url := (h "url" (by simp [keys])).trans hwritten.url
  originText := (h "origin_text" (by simp [keys])).trans hwritten.originText
  fits := hwritten.fits

theorem Payload.WrittenIn.congr {payload : Payload} {members others : List (String × Tree)}
    (hwritten : payload.WrittenIn members)
    (h : ∀ key ∈ keys, Tree.lookup key others = Tree.lookup key members) :
    payload.WrittenIn others where
  content := by
    rw [h "content" (by simp [keys])]
    exact hwritten.content
  source := by
    rw [h "source" (by simp [keys])]
    exact hwritten.source
  finished := by
    rw [h "finished" (by simp [keys])]
    exact hwritten.finished

/-- A source that is rearranged stays the same. -/
theorem Rearranged.writtenAs_iff {members others : List (String × Tree)}
    (h : Rearranged Source.keys members others) (source : Source) :
    source.WrittenAs (.object members) ↔ source.WrittenAs (.object others) := by
  constructor
  · rintro ⟨hwritten⟩
    exact .object (hwritten.congr fun key hkey ↦ (h.lookup_eq hkey).symm)
  · rintro ⟨hwritten⟩
    exact .object (hwritten.congr fun key hkey ↦ h.lookup_eq hkey)

/-- One source may stand for another if both read the same. -/
theorem Payload.WrittenIn.replace {payload : Payload} {before after : List (String × Tree)}
    {members others : List (String × Tree)}
    (hwritten : payload.WrittenIn (before ++ ("source", .object members) :: after))
    (h : ∀ source : Source, source.WrittenAs (.object members) →
      source.WrittenAs (.object others)) :
    payload.WrittenIn (before ++ ("source", .object others) :: after) := by
  have hlookup (key : String) (tree : Tree) :
      Tree.lookup key (before ++ ("source", tree) :: after) =
        ((Tree.lookup key after).or (if "source" = key then some tree else none)).or
          (Tree.lookup key before) := by
    rw [Tree.lookup_append, Tree.lookup_cons]
  obtain ⟨hcontent, hsource, hfinished⟩ := hwritten
  rw [hlookup] at hcontent hsource hfinished
  refine ⟨by rw [hlookup]; exact hcontent, ?_, by rw [hlookup]; exact hfinished⟩
  rw [hlookup]
  generalize payload.source = source at hsource ⊢
  cases hlast : Tree.lookup "source" after with
  | some tree =>
    rw [hlast] at hsource
    exact hsource
  | none =>
    rw [hlast] at hsource
    rw [if_pos rfl, Option.none_or, Option.some_or] at hsource ⊢
    cases hsource with
    | value hmembers => exact .value (h _ hmembers)

/-- Documents that are rewritten bring the same payloads. -/
theorem Rewritten.brings_iff {d e : Document} (h : Rewritten d e) (payload : Payload) :
    d.Brings payload ↔ e.Brings payload := by
  induction h with
  | layout h => rw [Document.Brings, Document.Brings, h]
  | @members d e members others hd he h =>
    simp only [Document.Brings, hd, he, Tree.object.injEq, exists_eq_left']
    exact ⟨fun hwritten ↦ hwritten.congr fun key hkey ↦ (h.lookup_eq hkey).symm,
      fun hwritten ↦ hwritten.congr fun key hkey ↦ h.lookup_eq hkey⟩
  | @source d e before after members others hd he h =>
    simp only [Document.Brings, hd, he, Tree.object.injEq, exists_eq_left']
    exact ⟨fun hwritten ↦ hwritten.replace fun source ↦ (h.writtenAs_iff source).1,
      fun hwritten ↦ hwritten.replace fun source ↦ (h.writtenAs_iff source).2⟩
  | trans _ _ ihde ihef => exact ihde.trans ihef

/-- Three values decide which payload a document brings, whatever the order of keys inside them. -/
theorem Json.Document.brings_iff_of_lookup {d e : Document} {members others : List (String × Tree)}
    (hd : d.value.tree = .object members) (he : e.value.tree = .object others)
    (h : ∀ key ∈ Payload.keys, (Tree.lookup key members).map Tree.sorted =
      (Tree.lookup key others).map Tree.sorted) (payload : Payload) :
    d.Brings payload ↔ e.Brings payload := by
  simp only [Document.Brings, hd, he, Tree.object.injEq, exists_eq_left']
  rw [← Payload.fills_fields, ← Payload.fills_fields]
  have hnames : ∀ name ∈ Payload.fields.names, _ := h
  exact Fields.fills_congr hnames _ _

/-- A member under an unknown key may be written anywhere in the object, whatever its value, if this
is not nested too deep. -/
theorem Rewritten.exists_add (d : Document) {space : Space}
    {before after : List (Label × Spaced Written)}
    (hd : d.value = .object space (before ++ after)) {m : Label × Spaced Written}
    (hkey : m.1.key ∉ Payload.keys) (hdepth : m.2.value.nesting < depthLimit) :
    ∃ e : Document, e.toSpaced = ⟨d.before, .object space (before ++ m :: after), d.after⟩ ∧
      Rewritten d e := by
  have hshallow : (Written.object space (before ++ m :: after)).nesting ≤ 126 + 1 := by
    have hd : (Written.object space (before ++ after)).nesting ≤ 126 + 1 := hd ▸ d.shallow
    have hothers := List.forall_mem_append.1 (Written.nesting_object_le_iff.1 hd)
    exact Written.nesting_object_le_iff.2 (List.forall_mem_append.2
      ⟨hothers.1, List.forall_mem_cons.2 ⟨Nat.le_of_lt_succ hdepth, hothers.2⟩⟩)
  have htree : d.value.tree =
      .object (Written.memberTrees before ++ Written.memberTrees after) := by
    simp [hd, Written.tree, Written.memberTrees_eq]
  refine ⟨⟨_, hshallow⟩, rfl, .members htree ?_ (.add _ _ m.2.value.tree hkey)⟩
  simp [Written.tree, Written.memberTrees_eq]

/-- The reader accepts exactly the grammar of its payloads. -/
structure PayloadReader.AcceptsExactly (r : PayloadReader) : Prop where
  /-- Malformed is what is no text of the format. -/
  malformed : ∀ raw : String,
    (∃ detail, r.read raw = .error (.malformed detail)) ↔ ∀ d : Document, raw ≠ d.text
  /-- Accepted is an object with a payload written in it, which is read part by part. -/
  accepted : ∀ (d : Document) (parts : List Part) (next : PayloadReader),
    r.read d.text = .ok (parts, next) ↔ next = r ∧ ∃ payload : Payload, d.Brings payload ∧
      parts = (payload.content.toList.filter (· ≠ "")).map .content ++
        payload.source.toList.map .source ++ payload.finished.toList.map .finished
  /-- Any other value has the wrong shape. -/
  misshapen : ∀ d : Document,
    (∃ detail, r.read d.text = .error (.shape detail)) ↔ ∀ payload, ¬ d.Brings payload
  /-- At most a fragment, a source and a signal are read, in this order, and no empty fragment. -/
  inOrder : ∀ (raw : String) (parts : List Part) (next : PayloadReader),
    r.read raw = .ok (parts, next) → Part.InOrder parts ∧ .content "" ∉ parts
  /-- What is read depends on three values alone. -/
  decided : ∀ (d e : Document) (members others : List (String × Tree)),
    d.value.tree = .object members → e.value.tree = .object others →
    (∀ key ∈ Payload.keys, (Tree.lookup key members).map Tree.sorted =
      (Tree.lookup key others).map Tree.sorted) →
    ∀ result, r.read d.text = .ok result ↔ r.read e.text = .ok result
  /-- The order of keys, unknown keys and white space are of no account. -/
  rewritten : ∀ d e : Document, Rewritten d e →
    ∀ result, r.read d.text = .ok result ↔ r.read e.text = .ok result
  /-- A member under an unknown key may be added anywhere, with any value not nested too deep. -/
  extended : ∀ (d : Document) (space : Space) (before after : List (Label × Spaced Written))
    (m : Label × Spaced Written), d.value = .object space (before ++ after) →
    m.1.key ∉ Payload.keys → m.2.value.nesting < depthLimit →
    ∃ e : Document, e.toSpaced = ⟨d.before, .object space (before ++ m :: after), d.after⟩ ∧
      ∀ result, r.read d.text = .ok result ↔ r.read e.text = .ok result

theorem PayloadReader.current_acceptsExactly (earlier seen : Nat) :
    AcceptsExactly ⟨.current, earlier, seen⟩ where
  malformed raw := by
    rw [read_current]
    refine ⟨?_, fun hraw ↦ ?_⟩
    · rintro ⟨detail, hread⟩ d rfl
      by_cases hbrings : ∃ payload, d.Brings payload
      · obtain ⟨payload, hbrings⟩ := hbrings
        rw [Payload.decodeObject_of_brings hbrings] at hread
        cases hread
      · obtain ⟨other, hshape⟩ := Payload.decodeObject_misshapen (not_exists.1 hbrings)
        rw [hshape] at hread
        cases hread
    · obtain ⟨detail, hmalformed⟩ := Payload.decodeObject_malformed hraw
      exact ⟨detail, by rw [hmalformed]; rfl⟩
  accepted d parts next := by
    simp only [read_current_eq_ok_iff, Payload.parts_eq, Prod.mk.injEq]
    constructor
    · rintro ⟨payload, hbrings, rfl, rfl⟩
      exact ⟨rfl, payload, hbrings, rfl⟩
    · rintro ⟨rfl, payload, hbrings, rfl⟩
      exact ⟨payload, hbrings, rfl, rfl⟩
  misshapen d := by
    rw [read_current]
    refine ⟨?_, fun hnone ↦ ?_⟩
    · rintro ⟨detail, hread⟩ payload hbrings
      rw [Payload.decodeObject_of_brings hbrings] at hread
      cases hread
    · obtain ⟨detail, hshape⟩ := Payload.decodeObject_misshapen hnone
      exact ⟨detail, by rw [hshape]; rfl⟩
  inOrder raw parts next hread := ⟨Part.inOrder_of_read hread, Part.content_ne_empty_of_read hread⟩
  decided d e members others hd he h result := by
    simp only [read_current_eq_ok_iff, Document.brings_iff_of_lookup hd he h]
  rewritten d e h result := by
    simp only [read_current_eq_ok_iff, h.brings_iff]
  extended d space before after m hd hkey hdepth := by
    obtain ⟨e, he, hrewritten⟩ := Rewritten.exists_add d hd hkey hdepth
    refine ⟨e, he, fun result ↦ ?_⟩
    simp only [read_current_eq_ok_iff, hrewritten.brings_iff]

end CitedChat
