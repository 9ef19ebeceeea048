import CitedChat.Proofs.Html.Description
import CitedChat.Proofs.Page.Rewriting

/-!
Descriptions of images on a page. An image that the sanitizer keeps is one of the answer, with its
content sanitized (`Rewrites.exists_of_contains`). What is not a tag stays as it is, HTML as text,
unless a link is a citation (`Rewrites.untagged_events`); and a forest has a citation in it exactly
if some link has nothing but a number as its text (`Rewrites.exists_inlineHtml_iff`). So the
description of an image is its text if no link in it is numbered, and has the markup of an anchor in
it otherwise (`descriptions_of_images`, `description_shows_anchor`).
-/

set_option autoImplicit false

namespace CitedChat

namespace Page

open Markdown

variable {sources : List Source}

/-! ### Images that are kept -/

theorem not_contains_citing {n : Nat} {title : String} {tag : Tag} {content : Forest} :
    ¬ Forest.Contains tag content (citing sources n title) := by
  intro h
  cases h with
  | behindLone _ hrest => exact Forest.not_contains_nil hrest

/-- What an element becomes has no images but its own, if it is a safe one, and those in it. -/
theorem Becomes.contains_image {tag : Tag} {content result inside : Forest} {link : Link}
    (h : Becomes sources tag content result)
    (himage : Forest.Contains (.image link) inside result) :
    Forest.Contains (.image link) inside content ∨
      tag = .image link ∧ inside = content ∧ isSafeAddress link.url = true := by
  cases h with
  | cited => exact absurd himage not_contains_citing
  | citedTwice =>
    obtain hfirst | hsecond := Forest.contains_append_iff.1 himage
    · exact absurd hfirst not_contains_citing
    · exact absurd hsecond not_contains_citing
  | lostLink | lostImage => exact .inl himage
  | keptLink =>
    obtain ⟨htag, -⟩ | hinside := Forest.contains_element_nil_iff.1 himage
    · cases htag
    · exact .inl hinside
  | keptImage hsafe =>
    obtain ⟨htag, rfl⟩ | hinside := Forest.contains_element_nil_iff.1 himage
    · cases htag
      exact .inr ⟨rfl, rfl, hsafe⟩
    · exact .inl hinside
  | other hlink hother =>
    obtain ⟨rfl, -⟩ | hinside := Forest.contains_element_nil_iff.1 himage
    · exact absurd rfl (hother link)
    · exact .inl hinside

/-- An image that is kept has a safe address, and was there with the content that its own was
rewritten from. -/
theorem Rewrites.exists_of_contains {forest result inside : Forest} {link : Link}
    (h : Rewrites sources forest result)
    (himage : Forest.Contains (.image link) inside result) :
    isSafeAddress link.url = true ∧ ∃ content : Forest,
      Forest.Contains (.image link) content forest ∧ Rewrites sources content inside := by
  induction h with
  | nil => exact absurd himage Forest.not_contains_nil
  | lone isLone hrest ih =>
    obtain ⟨hsafe, content, hcontains, hrewrites⟩ := ih (Forest.contains_lone_iff.1 himage)
    exact ⟨hsafe, content, .behindLone isLone hcontains, hrewrites⟩
  | element hcontent hresult hrest ihContent ihRest =>
    obtain hinside | hbehind := Forest.contains_append_iff.1 himage
    · obtain hinside | ⟨rfl, rfl, hsafe⟩ := hresult.contains_image hinside
      · obtain ⟨hsafe, content, hcontains, hrewrites⟩ := ihContent hinside
        exact ⟨hsafe, content, .inside hcontains _, hrewrites⟩
      · exact ⟨hsafe, _, .here _, hcontent⟩
    · obtain ⟨hsafe, content, hcontains, hrewrites⟩ := ihRest hbehind
      exact ⟨hsafe, content, .behind _ hcontains, hrewrites⟩

/-! ### Citations among events -/

/-- The events with HTML as text. -/
def withoutHtml (events : List Event) : List Event :=
  events.map Event.withoutHtml

/-- A link has nothing but a number as its text. -/
def Numbers (events : List Event) : Prop :=
  ∃ link content n, Encloses events (.link link) content ∧
    Numeral (plainText (withoutHtml content)) n

theorem numbers_iff {forest : Forest} :
    Numbers forest.events ↔ ∃ link content n, Forest.Contains (.link link) content forest ∧
      Numeral (plainText (withoutHtml content.events)) n := by
  constructor
  · rintro ⟨link, content, n, hencloses, hnumeral⟩
    obtain ⟨inside, rfl, hcontains⟩ := encloses_iff.1 hencloses
    exact ⟨link, inside, n, hcontains, hnumeral⟩
  · rintro ⟨link, content, n, hcontains, hnumeral⟩
    exact ⟨link, content.events, n, encloses_iff.2 ⟨content, rfl, hcontains⟩, hnumeral⟩

theorem numbers_lone_iff {event : Event} (isLone : event.isLone = true) {rest : Forest} :
    Numbers (Forest.lone event isLone rest).events ↔ Numbers rest.events := by
  simp only [numbers_iff, Forest.contains_lone_iff]

theorem numbers_element_iff {tag : Tag} {content rest : Forest} :
    Numbers (Forest.element tag content rest).events ↔
      (∃ link n, tag = .link link ∧ Numeral (plainText (withoutHtml content.events)) n) ∨
        Numbers content.events ∨ Numbers rest.events := by
  simp only [numbers_iff, Forest.contains_element_iff]
  constructor
  · rintro ⟨link, inside, n, ⟨rfl, rfl⟩ | hinside | hbehind, hnumeral⟩
    · exact .inl ⟨link, n, rfl, hnumeral⟩
    · exact .inr (.inl ⟨link, inside, n, hinside, hnumeral⟩)
    · exact .inr (.inr ⟨link, inside, n, hbehind, hnumeral⟩)
  · rintro (⟨link, n, rfl, hnumeral⟩ | ⟨link, inside, n, hinside, hnumeral⟩ |
      ⟨link, inside, n, hbehind, hnumeral⟩)
    · exact ⟨link, content, n, .inl ⟨rfl, rfl⟩, hnumeral⟩
    · exact ⟨link, inside, n, .inr (.inl hinside), hnumeral⟩
    · exact ⟨link, inside, n, .inr (.inr hbehind), hnumeral⟩

/-! ### What is no tag -/

/-- The events that are no tags. -/
def untagged (events : List Event) : List Event :=
  events.filter Event.isLone

theorem untagged_cons (event : Event) (rest : List Event) :
    untagged (event :: rest) =
      if event.isLone = true then event :: untagged rest else untagged rest :=
  List.filter_cons

theorem untagged_append (first second : List Event) :
    untagged (first ++ second) = untagged first ++ untagged second :=
  List.filter_append ..

theorem untagged_element (tag : Tag) (content : List Event) :
    untagged (Event.element tag content) = untagged content := by
  simp [untagged, Event.element, Event.isLone]

/-- Tags do not matter for what events show if they show nothing. -/
theorem join_map_untagged {shown : Event → String} (hopening : ∀ tag, shown (.opening tag) = "")
    (hclosing : ∀ tag, shown (.closing tag) = "") (events : List Event) :
    String.join ((untagged events).map shown) = String.join (events.map shown) := by
  induction events with
  | nil => rfl
  | cons event rest ih =>
    rw [untagged_cons]
    cases event with
    | opening tag => simp [Event.isLone, hopening, ih]
    | closing tag => simp [Event.isLone, hclosing, ih]
    | _ => simp [Event.isLone, ih]

theorem plainText_untagged (events : List Event) :
    plainText (untagged events) = plainText events :=
  join_map_untagged (fun _ ↦ rfl) (fun _ ↦ rfl) events

theorem describe_untagged (events : List Event) : describe (untagged events) = describe events :=
  join_map_untagged (fun _ ↦ rfl) (fun _ ↦ rfl) events

theorem words_of_untagged {forest : Forest} {events : List Event}
    (huntagged : untagged forest.events = untagged events) : forest.words = plainText events := by
  rw [← plainText_events, ← plainText_untagged, huntagged, plainText_untagged]

/-! ### Where nothing is cited -/

theorem withoutHtml_append (first second : List Event) :
    withoutHtml (first ++ second) = withoutHtml first ++ withoutHtml second :=
  List.map_append

theorem withoutHtml_element (tag : Tag) (content : List Event) :
    withoutHtml (Event.element tag content) = Event.element tag (withoutHtml content) := by
  simp [withoutHtml, Event.element, Event.withoutHtml]

/-- An element that is no citation loses nothing but tags. -/
theorem Becomes.untagged_events {tag : Tag} {content result : Forest}
    (h : Becomes sources tag content result)
    (huncited : ∀ link, tag = .link link → ∀ n, ¬ Numeral content.words n) :
    untagged result.events = untagged content.events := by
  have hkept (tag : Tag) : untagged (Forest.element tag content .nil).events =
      untagged content.events := by
    rw [Forest.events, Forest.events_nil, List.append_nil, untagged_element]
  cases h with
  | cited hnumeral => exact absurd hnumeral (huncited _ rfl _)
  | citedTwice hnumeral => exact absurd hnumeral (huncited _ rfl _)
  | lostLink | lostImage => rfl
  | keptLink | keptImage | other => exact hkept _

/-- Where nothing is cited, all but tags stays, with HTML as text. -/
theorem Rewrites.untagged_events {forest result : Forest} (h : Rewrites sources forest result)
    (huncited : ¬ Numbers forest.events) :
    untagged result.events = untagged (withoutHtml forest.events) := by
  induction h with
  | nil => rfl
  | lone isLone hrest ih =>
    have hrest := ih (mt (numbers_lone_iff isLone).2 huncited)
    rw [Forest.events_lone, Forest.events_lone, withoutHtml, List.map_cons, ← withoutHtml,
      untagged_cons, untagged_cons, hrest]
  | @element tag content content' result rest rest' hcontent hresult hrest ihContent ihRest =>
    rw [numbers_element_iff, not_or, not_or] at huncited
    obtain ⟨hlink, hinside, hbehind⟩ := huncited
    have hsame := ihContent hinside
    have hbecomes := hresult.untagged_events fun link htag n hnumeral ↦
      hlink ⟨link, n, htag, words_of_untagged hsame ▸ hnumeral⟩
    rw [Forest.events_append, untagged_append, hbecomes, hsame, ihRest hbehind, Forest.events,
      withoutHtml_append, untagged_append, withoutHtml_element, untagged_element]

/-! ### Where something is cited -/

theorem inlineHtml_mem_citing (sources : List Source) (n : Nat) (title : String) :
    ∃ raw, .inlineHtml raw ∈ (citing sources n title).events :=
  ⟨_, List.mem_singleton_self _⟩

theorem inlineHtml_mem_append {first : Forest} (h : ∃ raw, .inlineHtml raw ∈ first.events)
    (second : Forest) : ∃ raw, .inlineHtml raw ∈ (first.append second).events := by
  obtain ⟨raw, hmem⟩ := h
  rw [Forest.events_append]
  exact ⟨raw, List.mem_append_left _ hmem⟩

/-- Anchors in an element stay, or make place for the anchor that the element becomes. -/
theorem Becomes.inlineHtml_mem {tag : Tag} {content result : Forest}
    (h : Becomes sources tag content result) (hcontent : ∃ raw, .inlineHtml raw ∈ content.events) :
    ∃ raw, .inlineHtml raw ∈ result.events := by
  obtain ⟨raw, hmem⟩ := hcontent
  have hkept (tag : Tag) : .inlineHtml raw ∈ (Forest.element tag content .nil).events := by
    rw [Forest.events_element]
    exact List.mem_cons_of_mem _ (List.mem_append_left _ hmem)
  cases h with
  | cited => exact inlineHtml_mem_citing ..
  | citedTwice => exact inlineHtml_mem_append (inlineHtml_mem_citing ..) _
  | lostLink | lostImage => exact ⟨raw, hmem⟩
  | keptLink | keptImage | other => exact ⟨raw, hkept _⟩

/-- A link with a number as its text becomes an anchor. -/
theorem Becomes.inlineHtml_mem_of_numeral {link : Link} {content result : Forest} {n : Nat}
    (h : Becomes sources (.link link) content result) (hnumeral : Numeral content.words n) :
    ∃ raw, .inlineHtml raw ∈ result.events := by
  cases h with
  | cited => exact inlineHtml_mem_citing ..
  | citedTwice => exact inlineHtml_mem_append (inlineHtml_mem_citing ..) _
  | keptLink hno => exact absurd hnumeral (hno n)
  | lostLink hno => exact absurd hnumeral (hno n)
  | other hlink => exact absurd rfl (hlink link)

theorem Rewrites.inlineHtml_mem {forest result : Forest} (h : Rewrites sources forest result)
    (hcited : Numbers forest.events) : ∃ raw, .inlineHtml raw ∈ result.events := by
  induction h with
  | nil =>
    obtain ⟨link, content, n, hcontains, -⟩ := numbers_iff.1 hcited
    exact absurd hcontains Forest.not_contains_nil
  | lone isLone hrest ih =>
    obtain ⟨raw, hmem⟩ := ih ((numbers_lone_iff isLone).1 hcited)
    exact ⟨raw, List.mem_cons_of_mem _ hmem⟩
  | @element tag content content' result rest rest' hcontent hresult hrest ihContent ihRest =>
    obtain hlink | hinside | hbehind := numbers_element_iff.1 hcited
    · -- The text of a link is its own only where nothing in it is cited.
      by_cases hinside : Numbers content.events
      · exact inlineHtml_mem_append (hresult.inlineHtml_mem (ihContent hinside)) rest'
      · obtain ⟨link, n, rfl, hnumeral⟩ := hlink
        rw [← words_of_untagged (hcontent.untagged_events hinside)] at hnumeral
        exact inlineHtml_mem_append (hresult.inlineHtml_mem_of_numeral hnumeral) rest'
    · exact inlineHtml_mem_append (hresult.inlineHtml_mem (ihContent hinside)) rest'
    · obtain ⟨raw, hmem⟩ := ihRest hbehind
      rw [Forest.events_append]
      exact ⟨raw, List.mem_append_right _ hmem⟩

/-- Where nothing is cited there is no HTML. -/
theorem Rewrites.inlineHtml_not_mem {forest result : Forest} (h : Rewrites sources forest result)
    (huncited : ¬ Numbers forest.events) (raw : String) : .inlineHtml raw ∉ result.events := by
  intro hmem
  have huntagged : .inlineHtml raw ∈ untagged result.events := List.mem_filter.2 ⟨hmem, rfl⟩
  rw [h.untagged_events huncited] at huntagged
  obtain ⟨event, -, hevent⟩ := List.mem_map.1 (List.mem_filter.1 huntagged).1
  cases event <;> cases hevent

/-- What a forest is rewritten to has an anchor in it exactly if a link of the forest is
numbered. -/
theorem Rewrites.exists_inlineHtml_iff {forest result : Forest}
    (h : Rewrites sources forest result) :
    (∃ raw, .inlineHtml raw ∈ result.events) ↔ Numbers forest.events := by
  constructor
  · rintro ⟨raw, hmem⟩
    exact Classical.byContradiction fun huncited ↦ h.inlineHtml_not_mem huncited raw hmem
  · exact h.inlineHtml_mem

/-! ### Descriptions -/

/-- The description of an image is plain text unless it cites. An image that is kept has a safe
address and is one of the events' own, with its content sanitized: there is no HTML in it but
anchors of citations, and there are such exactly if a link in the image has nothing but a number as
its text. If there is no such link, the description is that of the image before, with HTML as text.
The page quotes the description in the tag of the image, whatever has been written before it. -/
theorem descriptions_of_images (sources : List Source) {events content : List Event} {link : Link}
    (hnested : WellNested events)
    (himage : Encloses (sanitize sources events) (.image link) content) :
    isSafeAddress link.url = true ∧
    ∃ inside, Encloses events (.image link) inside ∧ content = sanitize sources inside ∧
      (∀ raw, .html raw ∉ content) ∧
      (∀ raw, .inlineHtml raw ∈ content →
        ∃ n title, n < Word.limit ∧ raw = Citation.anchor n title) ∧
      ((∃ raw, .inlineHtml raw ∈ content) ↔ Numbers inside) ∧
      (¬ Numbers inside → describe content = describe (withoutHtml inside)) ∧
      ∀ w : Html.Writer, w.place = .body →
        ((Event.element (.image link) content).foldl Html.Writer.write w).written =
          w.written ++ Html.Writer.imageTag link content := by
  obtain ⟨forest, rfl⟩ := wellNested_iff.1 hnested
  obtain ⟨result, hrewrites⟩ := exists_rewrites sources forest
  rw [hrewrites.sanitize] at himage
  obtain ⟨description, rfl, hcontains⟩ := encloses_iff.1 himage
  obtain ⟨hsafe, inside, hinside, hcontent⟩ := hrewrites.exists_of_contains hcontains
  refine ⟨hsafe, inside.events, encloses_iff.2 ⟨inside, rfl, hinside⟩, hcontent.sanitize.symm,
    fun raw hmem ↦ (hcontent.purged _ hmem).html raw rfl, fun raw hmem ↦ ?_,
    hcontent.exists_inlineHtml_iff, fun huncited ↦ ?_,
    fun w hplace ↦ Html.Writer.written_image description link hplace⟩
  · obtain ⟨n, title, shown, hfits, hraw, -⟩ := (hcontent.purged _ hmem).inlineHtml raw rfl
    exact ⟨n, title, hfits, hraw⟩
  · rw [← describe_untagged, hcontent.untagged_events huncited, describe_untagged]

/-- Code, HTML, a link and an image that is lost, in an image in a link. -/
theorem descriptions_of_images_nested :
    let around : Link := { kind := .inline, url := "https://a.org" }
    let picture : Link := { kind := .inline, url := "b.png" }
    let lost : Link := { kind := .inline, url := "data:c" }
    let events : List Event :=
      Event.element (.link around) (Event.element (.image picture)
        (.code "d" :: .inlineHtml "<e>" :: .softBreak :: Event.element (.image lost) [.text "1"] ++
          Event.element (.link around) [.text "2f"]))
    let content : List Event :=
      [.code "d", .text "<e>", .softBreak, .text "1"] ++
        Event.element (.link around) [.text "2f"]
    WellNested events ∧ Encloses (sanitize [] events) (.image picture) content ∧
      isSafeAddress picture.url = true ∧ (∀ raw, .inlineHtml raw ∉ content) ∧
      ∀ w : Html.Writer, w.place = .body →
        ((Event.element (.image picture) content).foldl Html.Writer.write w).written =
          w.written ++ "<img src=\"b.png\" alt=\"d&lt;e&gt; 12f\" />" := by
  intro around picture lost events content
  have hnested : WellNested events := by decide
  have himage : Encloses (sanitize [] events) (.image picture) content :=
    ⟨by decide, [.opening (.link around)], [.closing .link], by decide⟩
  have htag : Html.Writer.imageTag picture content =
      "<img src=\"b.png\" alt=\"d&lt;e&gt; 12f\" />" := by decide
  obtain ⟨hsafe, inside, -, -, -, -, -, -, hwritten⟩ := descriptions_of_images [] hnested himage
  refine ⟨hnested, himage, hsafe, fun raw hmem ↦ ?_, fun w hplace ↦ ?_⟩
  · simp [content, Event.element] at hmem
  · rw [hwritten w hplace, htag]

/-- A citation in an image: its anchor, as markup, is the description. -/
theorem description_shows_anchor :
    let picture : Link := { kind := .inline, url := "b.png" }
    let number : Link := { kind := .shortcut false, url := "#citation_1", label := "1" }
    let inside : List Event := .text "see " :: Event.element (.link number) [.text "1"]
    let events : List Event := Event.element (.image picture) inside
    let content : List Event := [.text "see ", .inlineHtml (Citation.anchor 1 "")]
    WellNested events ∧ Encloses (sanitize [] events) (.image picture) content ∧
      describe (withoutHtml inside) = "see 1" ∧
      Html.ofEvents (sanitize [] events) =
        "<img src=\"b.png\" alt=\"see &lt;a href=&quot;#citation_1&quot; class=&quot;" ++
          "citation_link&quot;&gt;1&lt;/a&gt;\" />" := by
  intro picture number inside events content
  refine ⟨by decide, ⟨by decide, [], [], by decide⟩, by decide, by decide⟩

end Page

end CitedChat
