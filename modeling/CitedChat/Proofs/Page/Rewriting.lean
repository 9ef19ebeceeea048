import CitedChat.Page.Sanitize
import CitedChat.Proofs.Markdown.Nesting
import CitedChat.Proofs.Page.ReadingBack

/-!
Sanitizing rewrites a forest from the inside out. `Rewrites` gives the rules, which know nothing of
a stack: HTML becomes text, and an element with its content rewritten becomes what `Becomes` says,
a citation, the element, or only its content. What a citation looks like is said by its template
(`citing`), not by the program (`anchor_eq_write`). Reading the events of a forest makes the
sanitizer append those of the forest it is rewritten to, whatever is open around it
(`Rewrites.foldl_step`); so well-nested events are sanitized to the events of the one forest that
the rules allow (`sanitize_rewrites`).
-/

set_option autoImplicit false

namespace CitedChat

namespace Markdown

/-- The text that an event shows as text or as code. -/
def Event.words : Event → String
  | .text shown | .code shown => shown
  | _ => ""

/-- HTML as the text that it consists of; other events as they are. -/
def Event.withoutHtml : Event → Event
  | .html raw | .inlineHtml raw => .text raw
  | event => event

theorem Event.isLone_withoutHtml {event : Event} (isLone : event.isLone = true) :
    event.withoutHtml.isLone = true := by
  cases event with
  | html raw => rfl
  | inlineHtml raw => rfl
  | _ => exact isLone

/-- The text and the code in a forest, at any depth. -/
def Forest.words : Forest → String
  | .nil => ""
  | .lone event _ rest => event.words ++ rest.words
  | .element _ content rest => content.words ++ rest.words

end Markdown

namespace Page

open Markdown

/-! ### The rules -/

/-- The text is the number: digits with nothing but blanks around them, whose value 64 bits hold. -/
structure Numeral (text : String) (n : Nat) : Prop where
  nonempty : Text.trimList text.toList ≠ []
  digits : ∀ c ∈ Text.trimList text.toList, c.isDigit = true
  value : Nat.ofDigitChars 10 (Text.trimList text.toList) 0 = n
  fits : n < Word.limit

/-- The title of a citation is its own, or else the passage of the first source with the number. -/
def titleOf (sources : List Source) (n : Nat) (title : String) : String :=
  if title = "" then ((sources.find? (·.ordinal == n)).map Source.originText).getD "" else title

/-- The anchor of a citation, written by its template. -/
def citing (sources : List Source) (n : Nat) (title : String) : Forest :=
  .lone (.inlineHtml (linking n (shownTitle (titleOf sources n title))).write) rfl .nil

/-- What an element becomes whose content has been rewritten. -/
inductive Becomes (sources : List Source) : Tag → Forest → Forest → Prop where
  | cited {link : Link} {content : Forest} {n : Nat} (hnumeral : Numeral content.words n)
      (halone : link.kind = .full false → ∀ m, ¬ Numeral link.label m) :
      Becomes sources (.link link) content (citing sources n link.title)
  | citedTwice {link : Link} {content : Forest} {n m : Nat} (hnumeral : Numeral content.words n)
      (hkind : link.kind = .full false) (hlabel : Numeral link.label m) :
      Becomes sources (.link link) content
        ((citing sources n link.title).append (citing sources m ""))
  | keptLink {link : Link} {content : Forest} (hnumeral : ∀ n, ¬ Numeral content.words n)
      (hsafe : isSafeAddress link.url = true) :
      Becomes sources (.link link) content (.element (.link link) content .nil)
  | lostLink {link : Link} {content : Forest} (hnumeral : ∀ n, ¬ Numeral content.words n)
      (hsafe : isSafeAddress link.url = false) :
      Becomes sources (.link link) content content
  | keptImage {link : Link} {content : Forest} (hsafe : isSafeAddress link.url = true) :
      Becomes sources (.image link) content (.element (.image link) content .nil)
  | lostImage {link : Link} {content : Forest} (hsafe : isSafeAddress link.url = false) :
      Becomes sources (.image link) content content
  | other {tag : Tag} {content : Forest} (hlink : ∀ link, tag ≠ .link link)
      (himage : ∀ link, tag ≠ .image link) :
      Becomes sources tag content (.element tag content .nil)

/-- The forest that a forest is rewritten to. -/
inductive Rewrites (sources : List Source) : Forest → Forest → Prop where
  | nil : Rewrites sources .nil .nil
  | lone {event : Event} (isLone : event.isLone = true) {rest rest' : Forest}
      (hrest : Rewrites sources rest rest') :
      Rewrites sources (.lone event isLone rest)
        (.lone event.withoutHtml (Event.isLone_withoutHtml isLone) rest')
  | element {tag : Tag} {content content' result rest rest' : Forest}
      (hcontent : Rewrites sources content content')
      (hresult : Becomes sources tag content' result) (hrest : Rewrites sources rest rest') :
      Rewrites sources (.element tag content rest) (result.append rest')

/-! ### Numbers and citations -/

theorem ordinal?_eq_some_iff {text : String} {n : Nat} :
    Citation.ordinal? text = some n ↔ Numeral text n := by
  rw [Citation.ordinal?, Word.ofDigits?_eq_some_iff]
  constructor
  · rintro ⟨hnonempty, hdigits, hvalue, hfits⟩
    exact ⟨hnonempty, hdigits, hvalue, hfits⟩
  · intro hnumeral
    exact ⟨hnumeral.nonempty, hnumeral.digits, hnumeral.value, hnumeral.fits⟩

theorem ordinal?_eq_none_iff {text : String} :
    Citation.ordinal? text = none ↔ ∀ n, ¬ Numeral text n := by
  simp only [Option.eq_none_iff_forall_ne_some, ne_eq, ordinal?_eq_some_iff]

/-- The program's anchor is the one that the template gives. -/
theorem anchor_eq_write (n : Nat) (title : String) :
    Citation.anchor n title = (linking n (shownTitle title)).write :=
  (Markup.readsAs_iff.1 (readsAs_anchor n title)).2.symm

theorem citation_eq (sources : List Source) (n : Nat) (title : String) :
    [citation sources n title] = (citing sources n title).events := by
  simp only [citation, Citation.excerpt, String.isEmpty_iff, anchor_eq_write]
  rfl

theorem plainText_append (first second : List Event) :
    plainText (first ++ second) = plainText first ++ plainText second := by
  simp [plainText, String.join_append]

theorem plainText_cons (event : Event) (rest : List Event) :
    plainText (event :: rest) = event.words ++ plainText rest := by
  cases event <;> simp [plainText, Event.words]

theorem plainText_events (forest : Forest) : plainText forest.events = forest.words := by
  induction forest with
  | nil => rfl
  | lone event isLone rest ih => rw [Forest.events_lone, plainText_cons, ih, Forest.words]
  | element tag content rest ihContent ihRest =>
    rw [Forest.events_element, plainText_cons, plainText_append, plainText_cons, ihContent, ihRest,
      Forest.words]
    simp [Event.words]

/-! ### Elements -/

/-- What the sanitizer appends for an element whose content it has sanitized. -/
def finishElement (sources : List Source) (tag : Tag) (content : List Event) : List Event :=
  match tag with
  | .link link => finishLink sources link content
  | .image link => finishImage link content
  | tag => Event.element tag content

theorem finishElement_other (sources : List Source) {tag : Tag} (content : List Event)
    (hlink : ∀ link, tag ≠ .link link) (himage : ∀ link, tag ≠ .image link) :
    finishElement sources tag content = Event.element tag content := by
  cases tag with
  | link link => exact absurd rfl (hlink link)
  | image link => exact absurd rfl (himage link)
  | _ => rfl

variable {sources : List Source}

/-- The sanitizer appends what the rules say. -/
theorem Becomes.events {tag : Tag} {content result : Forest}
    (h : Becomes sources tag content result) :
    finishElement sources tag content.events = result.events := by
  cases h with
  | cited hnumeral halone =>
    rename_i link n
    have hlabel : labelCitation sources link = [] := by
      by_cases hkind : link.kind = .full false
      · rw [labelCitation, if_pos hkind, ordinal?_eq_none_iff.2 (halone hkind)]
        rfl
      · rw [labelCitation, if_neg hkind]
    simp only [finishElement, finishLink, plainText_events, ordinal?_eq_some_iff.2 hnumeral, hlabel,
      citation_eq]
  | citedTwice hnumeral hkind hlabel =>
    rename_i link n m
    have hlabel : labelCitation sources link = [citation sources m ""] := by
      rw [labelCitation, if_pos hkind, ordinal?_eq_some_iff.2 hlabel]
      rfl
    simp only [finishElement, finishLink, plainText_events, ordinal?_eq_some_iff.2 hnumeral, hlabel,
      Forest.events_append, ← citation_eq, List.singleton_append]
  | keptLink hnumeral hsafe =>
    simp [finishElement, finishLink, plainText_events, ordinal?_eq_none_iff.2 hnumeral, hsafe,
      Event.element]
  | lostLink hnumeral hsafe =>
    simp [finishElement, finishLink, plainText_events, ordinal?_eq_none_iff.2 hnumeral, hsafe]
  | keptImage hsafe => simp [finishElement, finishImage, hsafe, Event.element]
  | lostImage hsafe => simp [finishElement, finishImage, hsafe]
  | other hlink himage =>
    rw [finishElement_other sources _ hlink himage]
    simp [Event.element]

/-- There is a rule for every element. -/
theorem exists_becomes (sources : List Source) (tag : Tag) (content : Forest) :
    ∃ result, Becomes sources tag content result := by
  cases tag with
  | link link =>
    cases hordinal : Citation.ordinal? content.words with
    | some n =>
      have hnumeral := ordinal?_eq_some_iff.1 hordinal
      by_cases hlabel : link.kind = .full false ∧ ∃ m, Numeral link.label m
      · obtain ⟨hkind, m, hlabel⟩ := hlabel
        exact ⟨_, .citedTwice hnumeral hkind hlabel⟩
      · exact ⟨_, .cited hnumeral fun hkind m hm ↦ hlabel ⟨hkind, m, hm⟩⟩
    | none =>
      have hnumeral := ordinal?_eq_none_iff.1 hordinal
      cases hsafe : isSafeAddress link.url with
      | true => exact ⟨_, .keptLink hnumeral hsafe⟩
      | false => exact ⟨_, .lostLink hnumeral hsafe⟩
  | image link =>
    cases hsafe : isSafeAddress link.url with
    | true => exact ⟨_, .keptImage hsafe⟩
    | false => exact ⟨_, .lostImage hsafe⟩
  | _ => exact ⟨_, .other (fun _ h ↦ by cases h) fun _ h ↦ by cases h⟩

theorem exists_rewrites (sources : List Source) (forest : Forest) :
    ∃ result, Rewrites sources forest result := by
  induction forest with
  | nil => exact ⟨_, .nil⟩
  | lone event isLone rest ih =>
    obtain ⟨rest', hrest⟩ := ih
    exact ⟨_, .lone isLone hrest⟩
  | element tag content rest ihContent ihRest =>
    obtain ⟨content', hcontent⟩ := ihContent
    obtain ⟨rest', hrest⟩ := ihRest
    obtain ⟨result, hresult⟩ := exists_becomes sources tag content'
    exact ⟨_, .element hcontent hresult hrest⟩

/-! ### The sanitizer -/

namespace Sanitizer

theorem append_append (s : Sanitizer) (first second : List Event) :
    (s.append first).append second = s.append (first ++ second) := by
  have hevents (xs : Array Event) : (xs ++ first) ++ second = xs ++ (first ++ second) :=
    Array.ext' (by simp)
  obtain ⟨_ | ⟨p, outer⟩, out⟩ := s
  · simp [append, hevents]
  · simp [append, hevents]

theorem append_nil (s : Sanitizer) : s.append [] = s := by
  obtain ⟨_ | ⟨p, outer⟩, out⟩ := s
  · simp [append]
  · simp [append]

theorem step_isLone {event : Event} (isLone : event.isLone = true) (s : Sanitizer) :
    s.step sources event = s.append [event.withoutHtml] := by
  cases event with
  | opening tag => cases isLone
  | closing closing => cases isLone
  | _ => rfl

/-- Inside of an element the sanitizer gathers events of its own, and appends the element made of
them at the end. -/
theorem foldl_step_element (tag : Tag) {inner sanitized : List Event}
    (hinner : ∀ s : Sanitizer, inner.foldl (step sources) s = s.append sanitized)
    (s : Sanitizer) :
    (Event.element tag inner).foldl (step sources) s =
      s.append (finishElement sources tag sanitized) := by
  rw [Event.element, List.foldl_cons, List.foldl_append, hinner]
  cases tag with
  | link link => simp [step, append, close, Pending.finish, finishElement, Tag.closing]
  | image link => simp [step, append, close, Pending.finish, finishElement, Tag.closing]
  | _ =>
    show ((s.append [.opening _]).append sanitized).append [.closing _] = _
    rw [append_append, append_append]
    rfl

end Sanitizer

/-- Reading the events of a forest appends those of the forest that it is rewritten to. -/
theorem Rewrites.foldl_step {forest result : Forest} (h : Rewrites sources forest result)
    (s : Sanitizer) :
    forest.events.foldl (Sanitizer.step sources) s = s.append result.events := by
  induction h generalizing s with
  | nil => exact s.append_nil.symm
  | lone isLone hrest ih =>
    rw [Forest.events_lone, List.foldl_cons, Sanitizer.step_isLone isLone, ih,
      Sanitizer.append_append]
    rfl
  | element hcontent hresult hrest ihContent ihRest =>
    rw [Forest.events, List.foldl_append, Sanitizer.foldl_step_element _ ihContent, hresult.events,
      ihRest, Sanitizer.append_append, Forest.events_append]

theorem Rewrites.sanitize {forest result : Forest} (h : Rewrites sources forest result) :
    sanitize sources forest.events = result.events := by
  rw [Page.sanitize, h.foldl_step]
  simp [Sanitizer.append, Sanitizer.finish]

/-! ### What is left of HTML -/

/-- HTML is the anchor of a citation: one link to the place of a number, which is read back with the
title that it is for. -/
def IsAnchor (raw : String) : Prop :=
  ∃ n title shown, n < Word.limit ∧ raw = Citation.anchor n title ∧
    Markup.ReadsAs raw (linking n shown) ∧ (shown = none ↔ title = "") ∧
    ∀ value ∈ shown, Html.unescape? value = some title

theorem isAnchor_write {n : Nat} (hfits : n < Word.limit) (title : String) :
    IsAnchor (linking n (shownTitle title)).write := by
  rw [← anchor_eq_write]
  exact ⟨n, title, shownTitle title, hfits, rfl, readsAs_anchor n title,
    shownTitle_eq_none_iff title, fun _ ↦ unescape?_of_mem_shownTitle⟩

/-- An event brings no HTML but the anchor of a citation. -/
structure Purged (event : Event) : Prop where
  html : ∀ raw, event ≠ .html raw
  inlineHtml : ∀ raw, event = .inlineHtml raw → IsAnchor raw

theorem purged_withoutHtml (event : Event) : Purged event.withoutHtml := by
  cases event <;> exact ⟨fun _ h ↦ (by cases h), fun _ h ↦ (by cases h)⟩

theorem purged_citing (sources : List Source) {text : String} {n : Nat} (hnumeral : Numeral text n)
    (title : String) : ∀ event ∈ (citing sources n title).events, Purged event := by
  intro event hmem
  obtain rfl := List.mem_singleton.1 hmem
  refine ⟨fun _ h ↦ (by cases h), fun raw h ↦ ?_⟩
  obtain rfl := Event.inlineHtml.inj h
  exact isAnchor_write hnumeral.fits _

theorem purged_element {tag : Tag} {content : Forest}
    (hcontent : ∀ event ∈ content.events, Purged event) :
    ∀ event ∈ (Forest.element tag content .nil).events, Purged event := by
  intro event hmem
  rw [Forest.events_element, Forest.events_nil, List.mem_cons, List.mem_append,
    List.mem_singleton] at hmem
  obtain rfl | hmem | rfl := hmem
  · exact ⟨fun _ h ↦ (by cases h), fun _ h ↦ (by cases h)⟩
  · exact hcontent event hmem
  · exact ⟨fun _ h ↦ (by cases h), fun _ h ↦ (by cases h)⟩

theorem Becomes.purged {tag : Tag} {content result : Forest}
    (h : Becomes sources tag content result) (hcontent : ∀ event ∈ content.events, Purged event) :
    ∀ event ∈ result.events, Purged event := by
  cases h with
  | cited hnumeral halone => exact purged_citing sources hnumeral _
  | citedTwice hnumeral hkind hlabel =>
    rw [Forest.events_append]
    exact List.forall_mem_append.2
      ⟨purged_citing sources hnumeral _, purged_citing sources hlabel _⟩
  | lostLink | lostImage => exact hcontent
  | keptLink | keptImage | other => exact purged_element hcontent

theorem Rewrites.purged {forest result : Forest} (h : Rewrites sources forest result) :
    ∀ event ∈ result.events, Purged event := by
  induction h with
  | nil => exact fun _ hmem ↦ absurd hmem List.not_mem_nil
  | lone isLone hrest ih => exact List.forall_mem_cons.2 ⟨purged_withoutHtml _, ih⟩
  | element hcontent hresult hrest ihContent ihRest =>
    rw [Forest.events_append]
    exact List.forall_mem_append.2 ⟨hresult.purged ihContent, ihRest⟩

/-! ### Well-nested events -/

/-- Well-nested events are those of one forest, the rules rewrite it to one forest, and sanitizing
gives the events of that. So what sanitizing gives is well nested, and of HTML it has the anchors of
citations only: each is one link to the place of a number that fits, with nothing but the number in
it, and the title that is read back from it is the text it was made for. -/
theorem sanitize_rewrites (sources : List Source) {events : List Event}
    (hnested : WellNested events) :
    ∃ forest result : Forest,
      (∀ other : Forest, other.events = events ↔ other = forest) ∧
      (∀ other, Rewrites sources forest other ↔ other = result) ∧
      sanitize sources events = result.events ∧
      WellNested (sanitize sources events) ∧
      (∀ raw, .html raw ∉ sanitize sources events) ∧
      ∀ raw, .inlineHtml raw ∈ sanitize sources events →
        ∃ n title shown, n < Word.limit ∧ raw = Citation.anchor n title ∧
          Markup.ReadsAs raw (linking n shown) ∧ (shown = none ↔ title = "") ∧
          ∀ value ∈ shown, Html.unescape? value = some title := by
  obtain ⟨forest, rfl⟩ := wellNested_iff.1 hnested
  obtain ⟨result, hrewrites⟩ := exists_rewrites sources forest
  have hsanitize := hrewrites.sanitize
  have hpurged := hrewrites.purged
  rw [← hsanitize] at hpurged
  refine ⟨forest, result, fun other ↦ ⟨Forest.events_injective, fun h ↦ by rw [h]⟩, ?_, hsanitize,
    wellNested_iff.2 ⟨result, hsanitize.symm⟩, ?_, ?_⟩
  · intro other
    constructor
    · intro hother
      exact Forest.events_injective (hother.sanitize.symm.trans hsanitize)
    · rintro rfl
      exact hrewrites
  · intro raw hmem
    exact (hpurged _ hmem).html raw rfl
  · intro raw hmem
    exact (hpurged _ hmem).inlineHtml raw rfl

/-- Two citations and HTML in an image, in a link. The passage of a source is the title of the
second citation. -/
theorem sanitize_rewrites_nested :
    let around : Link := { kind := .inline, url := "https://a.org" }
    let image : Link := { kind := .inline, url := "b.png" }
    let numbers : Link := { kind := .full false, url := "#citation_2", label := "2" }
    let sources : List Source := [⟨2, 0, "c", "u", "x<y"⟩]
    let events : List Event :=
      Event.element (.link around) (Event.element (.image image)
        (.inlineHtml "<b>" :: Event.element (.link numbers) [.text "1"]))
    WellNested events ∧
      ∃ result : Forest,
        (∃ forest : Forest, forest.events = events ∧ Rewrites sources forest result) ∧
        sanitize sources events = result.events ∧
        result.events = Event.element (.link around) (Event.element (.image image)
          [.text "<b>", .inlineHtml "<a href=\"#citation_1\" class=\"citation_link\">1</a>",
            .inlineHtml
              "<a href=\"#citation_2\" class=\"citation_link\" title=\"x&lt;y\">2</a>"]) := by
  intro around image numbers sources events
  have hnested : WellNested events := by decide
  obtain ⟨forest, result, hforest, hresult, hsanitize, -⟩ := sanitize_rewrites sources hnested
  refine ⟨hnested, result, ⟨forest, (hforest forest).2 rfl, (hresult result).2 rfl⟩, hsanitize, ?_⟩
  rw [← hsanitize]
  decide

end Page

end CitedChat
