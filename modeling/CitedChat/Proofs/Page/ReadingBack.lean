import CitedChat.Page.Render
import CitedChat.Proofs.Markup.Unescaping
import Mathlib.Data.List.Forall2

/-!
What a page is made of besides answers is read back by the templates that it is written with: a
list of sources (`listing`), what the human said (`quoting`), and the anchor of a citation
(`linking`). Whatever is in the sources and in the texts, no tag is there but those of the template,
and the texts come back when the references in them are read (`readsAs_renderSources`,
`readsAs_renderTurn`, `readsAs_anchor`).
-/

set_option autoImplicit false

namespace CitedChat.Page

open Markup

/-! ### Lists of sources -/

/-- An entry of a list of sources, with its texts as they stand between the tags. -/
structure Entry where
  id : String
  label : String
  /-- The address and the title of the link, if the label is one. -/
  link : Option (String × String)

def Entry.pieces (e : Entry) : List Piece :=
  ⟨"\n", .opening "li" [⟨"id", e.id⟩]⟩ ::
    match e.link with
    | some (address, title) =>
      [⟨"", .opening "a" [⟨"href", address⟩, ⟨"title", title⟩]⟩, ⟨e.label, .closing "a"⟩,
        ⟨"", .closing "li"⟩]
    | none => [⟨e.label, .closing "li"⟩]

/-- The template of a list of sources. Without entries there is no list. -/
def listing (entries : List Entry) : Document :=
  if entries.isEmpty then { pieces := [], rest := "" }
  else
    { pieces := ⟨"", .opening "ol" [⟨"class", "sources"⟩]⟩ :: entries.flatMap Entry.pieces ++
        [⟨"\n", .closing "ol"⟩]
      rest := "\n" }

/-- An entry is the one of a source: it is a link if the address of the source is safe. -/
structure Entry.Shows (e : Entry) (source : Source) : Prop where
  id : e.id = "citation_" ++ toString source.ordinal
  label : Html.unescape? e.label = some source.citation
  isLinked : e.link.isSome = isSafeAddress source.url
  link : ∀ address title, e.link = some (address, title) →
    address = Html.escapeAddress source.url ∧ Html.unescape? title = some source.originText

def Entry.ofSource (source : Source) : Entry where
  id := source.anchor
  label := Html.escape source.citation
  link := if isSafeAddress source.url then
    some (Html.escapeAddress source.url, Html.escape source.originText) else none

theorem Entry.shows_ofSource (source : Source) : (ofSource source).Shows source := by
  constructor
  · rfl
  · exact Html.unescape?_escape source.citation
  · by_cases hsafe : isSafeAddress source.url = true <;> simp [ofSource, hsafe]
  · intro address title hlink
    by_cases hsafe : isSafeAddress source.url = true
    · simp only [ofSource, if_pos hsafe, Option.some.injEq, Prod.mk.injEq] at hlink
      obtain ⟨rfl, rfl⟩ := hlink
      exact ⟨rfl, Html.unescape?_escape source.originText⟩
    · simp [ofSource, hsafe] at hlink

theorem escape_anchor (source : Source) : Html.escape source.anchor = source.anchor :=
  Html.escape_append_toString (by decide) source.ordinal

theorem isPlain_anchor (source : Source) : isPlain source.anchor = true := by
  rw [Source.anchor, isPlain_append, Html.isPlain_toString]
  rfl

theorem Entry.isPlain_pieces_ofSource (source : Source) :
    (ofSource source).pieces.all Piece.isPlain = true := by
  by_cases hsafe : isSafeAddress source.url = true
  · simp +decide [pieces, ofSource, hsafe, Piece.isPlain, Tag.isPlain, Attribute.isPlain,
      isPlain_anchor, Html.isPlain_escape, Html.isPlain_escapeAddress]
  · simp +decide [pieces, ofSource, hsafe, Piece.isPlain, Tag.isPlain, Attribute.isPlain,
      isPlain_anchor, Html.isPlain_escape]

/-- The line break that follows an entry in the text stands before the next tag. -/
theorem newline_renderSource (source : Source) :
    "\n" ++ renderSource source = writePieces (Entry.ofSource source).pieces ++ "\n" := by
  apply String.toList_injective
  by_cases hsafe : isSafeAddress source.url = true
  · simp [renderSource, escape_anchor, hsafe, Entry.pieces, Entry.ofSource, writePieces,
      writeAttributes, Tag.write, Attribute.write]
  · simp [renderSource, escape_anchor, hsafe, Entry.pieces, Entry.ofSource, writePieces,
      writeAttributes, Tag.write, Attribute.write]

theorem newline_join_renderSource (sources : List Source) :
    "\n" ++ String.join (sources.map renderSource) =
      writePieces ((sources.map Entry.ofSource).flatMap Entry.pieces) ++ "\n" := by
  induction sources with
  | nil => rfl
  | cons source rest ih =>
    rw [List.map_cons, String.join_cons, ← String.append_assoc, newline_renderSource,
      String.append_assoc, ih, List.map_cons, List.flatMap_cons, writePieces_append,
      String.append_assoc]

theorem write_listing (sources : List Source) :
    (listing (sources.map Entry.ofSource)).write = renderSources sources := by
  cases sources with
  | nil => rfl
  | cons first rest =>
    symm
    calc renderSources (first :: rest)
        = "<ol class=\"sources\">" ++
            ("\n" ++ String.join ((first :: rest).map renderSource)) ++ "</ol>\n" := by
          apply String.toList_injective
          simp [renderSources]
      _ = "<ol class=\"sources\">" ++
            (writePieces (((first :: rest).map Entry.ofSource).flatMap Entry.pieces) ++ "\n") ++
            "</ol>\n" := by
          rw [newline_join_renderSource]
      _ = (listing ((first :: rest).map Entry.ofSource)).write := by
          apply String.toList_injective
          simp [listing, Document.write, writePieces, writeAttributes, Tag.write, Attribute.write]

theorem isPlain_listing {entries : List Entry}
    (hplain : (entries.flatMap Entry.pieces).all Piece.isPlain = true) :
    (listing entries).isPlain = true := by
  unfold listing
  split
  · rfl
  · simp +decide only [Document.isPlain, List.cons_append, List.all_cons, List.all_append, hplain]

/-- The tag behind the opening of an entry tells whether there is a link in it. -/
theorem Entry.eq_of_pieces_append {e other : Entry} {rest more : List Piece}
    (hpieces : e.pieces ++ rest = other.pieces ++ more) : e = other ∧ rest = more := by
  obtain ⟨id, label, _ | ⟨address, title⟩⟩ := e <;>
    obtain ⟨otherId, otherLabel, _ | ⟨otherAddress, otherTitle⟩⟩ := other <;>
    simp_all [pieces]

theorem Entry.flatMap_pieces_injective {entries others : List Entry}
    (hpieces : entries.flatMap pieces = others.flatMap pieces) : entries = others := by
  induction entries generalizing others with
  | nil =>
    cases others with
    | nil => rfl
    | cons other rest => cases hpieces
  | cons e rest ih =>
    cases others with
    | nil => cases hpieces
    | cons other more =>
      obtain ⟨rfl, hrest⟩ := eq_of_pieces_append hpieces
      rw [ih hrest]

theorem listing_injective : Function.Injective listing := by
  intro entries others hlisting
  cases entries with
  | nil =>
    cases others with
    | nil => rfl
    | cons other more => cases hlisting
  | cons e rest =>
    cases others with
    | nil => cases hlisting
    | cons other more =>
      have hpieces := List.append_cancel_right (congrArg Document.pieces hlisting)
      exact Entry.flatMap_pieces_injective (List.cons.inj hpieces).2

theorem readsAs_renderSources (sources : List Source) :
    ReadsAs (renderSources sources) (listing (sources.map Entry.ofSource)) := by
  refine readsAs_iff.2 ⟨isPlain_listing ?_, write_listing sources⟩
  rw [List.all_flatMap, List.all_map, List.all_eq_true]
  exact fun source _ ↦ Entry.isPlain_pieces_ofSource source

/-! ### What the human said -/

/-- The template of a text of the human. -/
def quoting (shown : String) : Document where
  pieces := [⟨"", .opening "div" [⟨"class", "user_turn"⟩]⟩, ⟨"\n", .opening "p" []⟩,
    ⟨shown, .closing "p"⟩, ⟨"\n", .closing "div"⟩]
  rest := "\n"

theorem readsAs_renderTurn (text : String) :
    ReadsAs (renderTurn (.user text)) (quoting (Html.escape text)) := by
  refine readsAs_iff.2 ⟨?_, String.toList_injective ?_⟩
  · simp only [quoting, Document.isPlain, List.all_cons, Piece.isPlain, Html.isPlain_escape]
    rfl
  · show _ = ("<div class=\"user_turn\">\n<p>" ++ Html.escape text ++ "</p>\n</div>\n").toList
    simp [quoting, Document.write, writePieces, writeAttributes, Tag.write, Attribute.write]

theorem renderTranscript_append_cons (before after : List Turn) (turn : Turn) :
    renderTranscript (before ++ turn :: after) =
      renderTranscript before ++ renderTurn turn ++ renderTranscript after := by
  simp [renderTranscript, String.join_append, String.append_assoc]

/-! ### Anchors -/

/-- The template of the anchor of a citation. The title is left out if there is none. -/
def linking (n : Nat) (title : Option String) : Document where
  pieces := [⟨"", .opening "a" (⟨"href", "#citation_" ++ toString n⟩ ::
    ⟨"class", "citation_link"⟩ :: (title.map (Attribute.mk "title")).toList)⟩,
    ⟨toString n, .closing "a"⟩]
  rest := ""

/-- The title that an anchor has for a text. -/
def shownTitle (title : String) : Option String :=
  if title = "" then none else some (Html.escape title)

theorem readsAs_anchor (n : Nat) (title : String) :
    ReadsAs (Citation.anchor n title) (linking n (shownTitle title)) := by
  refine readsAs_iff.2 ⟨?_, String.toList_injective ?_⟩
  · have haddress : isPlain ("#citation_" ++ toString n) = true := by
      rw [isPlain_append, Html.isPlain_toString]
      rfl
    have htitle : (shownTitle title).all isPlain = true := by
      by_cases hempty : title = "" <;> simp [shownTitle, hempty, Html.isPlain_escape]
    cases hshown : shownTitle title with
    | none =>
      simp only [linking, Document.isPlain, List.all_cons, Piece.isPlain, Tag.isPlain,
        Attribute.isPlain, Html.isPlain_toString, haddress]
      rfl
    | some shown =>
      rw [hshown, Option.all_some] at htitle
      simp only [linking, Document.isPlain, List.all_cons, Piece.isPlain, Tag.isPlain,
        Attribute.isPlain, Html.isPlain_toString, haddress, Option.map_some, Option.toList_some,
        htitle]
      rfl
  · delta Citation.anchor
    by_cases hempty : title = "" <;>
      simp [linking, shownTitle, Citation.address, Citation.className, hempty, Document.write,
        writePieces, writeAttributes, Tag.write, Attribute.write]

theorem shownTitle_eq_none_iff (title : String) : shownTitle title = none ↔ title = "" := by
  by_cases hempty : title = "" <;> simp [shownTitle, hempty]

theorem unescape?_of_mem_shownTitle {title shown : String} (hshown : shown ∈ shownTitle title) :
    Html.unescape? shown = some title := by
  by_cases hempty : title = ""
  · simp [shownTitle, hempty] at hshown
  · simp only [shownTitle, if_neg hempty, Option.mem_some_iff] at hshown
    subst hshown
    exact Html.unescape?_escape title

/-- No text brings a tag onto a page. A list of sources is read back as one entry for each of them,
in their order; a transcript has a part for each text of the human, which is read back as the text;
and the anchor of a citation is read back as its title. -/
theorem texts_read_back (sources : List Source) (before after : List Turn) (text : String) (n : Nat)
    (title : String) :
    (∃ entries, ReadsAs (renderSources sources) (listing entries) ∧
      (∀ found, ReadsAs (renderSources sources) (listing found) → found = entries) ∧
      List.Forall₂ Entry.Shows entries sources) ∧
    (∃ part shown, renderTranscript (before ++ .user text :: after) =
        renderTranscript before ++ part ++ renderTranscript after ∧
      ReadsAs part (quoting shown) ∧ Html.unescape? shown = some text) ∧
    ∃ shown, ReadsAs (Citation.anchor n title) (linking n shown) ∧ (shown = none ↔ title = "") ∧
      ∀ value ∈ shown, Html.unescape? value = some title := by
  refine ⟨⟨sources.map Entry.ofSource, readsAs_renderSources sources, ?_, ?_⟩,
    ⟨renderTurn (.user text), Html.escape text, renderTranscript_append_cons before after _,
      readsAs_renderTurn text, Html.unescape?_escape text⟩,
    shownTitle title, readsAs_anchor n title, shownTitle_eq_none_iff title,
    fun _ ↦ unescape?_of_mem_shownTitle⟩
  · intro found hfound
    have hread := (readsAs_renderSources sources).read
    rw [hfound.read, Option.some.injEq] at hread
    exact listing_injective hread
  · rw [List.forall₂_map_left_iff, List.forall₂_same]
    exact fun source _ ↦ Entry.shows_ofSource source

end CitedChat.Page
