import CitedChat.Proofs.Page.ReadingBack
import CitedChat.Proofs.Page.Scheme

/-!
What a page leads to. Whatever the events are, well nested or not, the sanitizer keeps a link or an
image only with an address that is safe and that was there before (`Sanitizer.Keeps`); and a list of
sources has no other addresses than the safe ones of its sources. So nothing on a page has a scheme
in a browser that the page does not know (`safe_targets`).
-/

set_option autoImplicit false

namespace CitedChat

namespace Markdown

/-- The address of a link or an image that begins. -/
def Event.target? : Event → Option String
  | .opening (.link link) | .opening (.image link) => some link.url
  | _ => none

def targets (events : List Event) : List String :=
  events.filterMap Event.target?

theorem targets_append (first second : List Event) :
    targets (first ++ second) = targets first ++ targets second :=
  List.filterMap_append

/-- The closing of an element leads nowhere. -/
theorem targets_element (tag : Tag) (content : List Event) :
    targets (Event.element tag content) = targets [.opening tag] ++ targets content := by
  have hclosing : targets [.closing tag.closing] = [] := rfl
  rw [Event.element, ← List.singleton_append, targets_append, targets_append, hclosing,
    List.append_nil]

end Markdown

namespace Page

open Markdown

/-! ### The sanitizer -/

variable {sources : List Source} {known : List String}

/-- The events have safe addresses only, and only known ones. -/
def Leads (known : List String) (events : List Event) : Prop :=
  ∀ url ∈ targets events, isSafeAddress url = true ∧ url ∈ known

theorem Leads.append {first second : List Event} (hfirst : Leads known first)
    (hsecond : Leads known second) : Leads known (first ++ second) := by
  intro url hurl
  rw [targets_append, List.mem_append] at hurl
  exact hurl.elim (hfirst url) (hsecond url)

theorem leads_of_targets {events : List Event} (hnowhere : targets events = []) :
    Leads known events := by
  intro url hurl
  rw [hnowhere] at hurl
  cases hurl

theorem targets_labelCitation (sources : List Source) (link : Link) :
    targets (labelCitation sources link) = [] := by
  by_cases hkind : link.kind = .full false
  · rw [labelCitation, if_pos hkind]
    cases Citation.ordinal? link.label with
    | none => rfl
    | some n => rfl
  · rw [labelCitation, if_neg hkind]
    rfl

theorem leads_element {tag : Tag} {link : Link} {content : List Event}
    (htag : targets [.opening tag] = [link.url]) (hcontent : Leads known content)
    (hsafe : isSafeAddress link.url = true) (hknown : link.url ∈ known) :
    Leads known (Event.element tag content) := by
  intro url hurl
  rw [targets_element, htag, List.mem_append, List.mem_singleton] at hurl
  obtain rfl | hinside := hurl
  · exact ⟨hsafe, hknown⟩
  · exact hcontent url hinside

/-- An element that ends leads where its content does, and to its own address if it is kept. -/
theorem Pending.leads_finish {p : Pending} (hcontent : Leads known p.content.toList)
    (hknown : p.link.url ∈ known) : Leads known (p.finish sources) := by
  by_cases himage : p.image = true
  · rw [finish, if_pos himage, finishImage]
    by_cases hsafe : isSafeAddress p.link.url = true
    · rw [if_pos hsafe]
      exact leads_element rfl hcontent hsafe hknown
    · rwa [if_neg hsafe]
  · rw [finish, if_neg himage, finishLink]
    split
    · exact leads_of_targets (targets_labelCitation sources p.link)
    · by_cases hsafe : isSafeAddress p.link.url = true
      · rw [if_pos hsafe]
        exact leads_element rfl hcontent hsafe hknown
      · rwa [if_neg hsafe]

/-- Neither the events so far nor those in the open elements lead to an address that is not known,
and they lead to safe ones only. -/
structure Sanitizer.Keeps (known : List String) (s : Sanitizer) : Prop where
  out : Leads known s.out.toList
  content : ∀ p ∈ s.pending, Leads known p.content.toList
  pending : ∀ p ∈ s.pending, p.link.url ∈ known

namespace Sanitizer

variable {s : Sanitizer}

theorem Keeps.append (h : s.Keeps known) {events : List Event} (hevents : Leads known events) :
    (s.append events).Keeps known := by
  obtain ⟨_ | ⟨p, outer⟩, out⟩ := s
  · constructor
    · simpa [append] using h.out.append hevents
    · exact h.content
    · exact h.pending
  · have hcontent := List.forall_mem_cons.1 h.content
    have hpending := List.forall_mem_cons.1 h.pending
    constructor
    · exact h.out
    · refine List.forall_mem_cons.2 ⟨?_, hcontent.2⟩
      simpa using hcontent.1.append hevents
    · exact List.forall_mem_cons.2 hpending

theorem Keeps.close (h : s.Keeps known) : (s.close sources).Keeps known := by
  obtain ⟨_ | ⟨p, outer⟩, out⟩ := s
  · exact h
  · have hcontent := List.forall_mem_cons.1 h.content
    have hpending := List.forall_mem_cons.1 h.pending
    have houter : Keeps known { pending := outer, out } := ⟨h.out, hcontent.2, hpending.2⟩
    exact houter.append (Pending.leads_finish hcontent.1 hpending.1)

theorem Keeps.push (h : s.Keeps known) {link : Link} (hknown : link.url ∈ known) (image : Bool) :
    Keeps known { s with pending := { image, link } :: s.pending } where
  out := h.out
  content := List.forall_mem_cons.2 ⟨leads_of_targets rfl, h.content⟩
  pending := List.forall_mem_cons.2 ⟨hknown, h.pending⟩

theorem Keeps.step (h : s.Keeps known) {event : Event}
    (hevent : ∀ url ∈ event.target?, url ∈ known) : (s.step sources event).Keeps known := by
  cases event with
  | opening tag =>
    cases tag with
    | link link => exact h.push (hevent _ rfl) false
    | image link => exact h.push (hevent _ rfl) true
    | _ => exact h.append (leads_of_targets rfl)
  | closing tag =>
    cases tag with
    | link => exact h.close
    | image => exact h.close
    | _ => exact h.append (leads_of_targets rfl)
  | _ => exact h.append (leads_of_targets rfl)

theorem Keeps.foldl_step (h : s.Keeps known) {events : List Event}
    (hevents : ∀ url ∈ targets events, url ∈ known) :
    (events.foldl (Sanitizer.step sources) s).Keeps known := by
  induction events generalizing s with
  | nil => exact h
  | cons event rest ih =>
    rw [← List.singleton_append, targets_append, List.forall_mem_append] at hevents
    refine ih (h.step fun url hurl ↦ hevents.1 url ?_) hevents.2
    rw [Option.mem_def] at hurl
    simp [targets, hurl]

theorem Keeps.finish (h : s.Keeps known) : Leads known s.finish := by
  apply h.out.append
  intro url hurl
  rw [targets, List.mem_filterMap] at hurl
  obtain ⟨event, hmem, htarget⟩ := hurl
  obtain ⟨p, hp, hevent⟩ := List.mem_flatMap.1 hmem
  exact h.content p (List.mem_reverse.1 hp) url (List.mem_filterMap.2 ⟨event, hevent, htarget⟩)

end Sanitizer

theorem leads_sanitize (sources : List Source) (events : List Event) :
    Leads (targets events) (sanitize sources events) := by
  have hempty : Sanitizer.Keeps (targets events) {} :=
    ⟨leads_of_targets rfl, fun _ hp ↦ (by cases hp), fun _ hp ↦ (by cases hp)⟩
  exact (hempty.foldl_step fun _ hurl ↦ hurl).finish

/-! ### Lists of sources -/

theorem Entry.isSafeAddress_of_href {source : Source} {a : Markup.Attribute}
    (hmem : a ∈ (ofSource source).pieces.flatMap (·.tag.attributes)) (hkey : a.key = "href") :
    isSafeAddress source.url = true ∧ a.value = Html.escapeAddress source.url := by
  by_cases hsafe : isSafeAddress source.url = true
  · simp only [pieces, ofSource, if_pos hsafe, List.flatMap_cons, List.flatMap_nil,
      Markup.Tag.attributes, List.mem_append, List.mem_cons, List.not_mem_nil, or_false] at hmem
    obtain rfl | rfl | rfl := hmem
    · simp at hkey
    · exact ⟨hsafe, rfl⟩
    · simp at hkey
  · simp only [pieces, ofSource, if_neg hsafe, List.flatMap_cons, List.flatMap_nil,
      Markup.Tag.attributes, List.mem_append, List.mem_cons, List.not_mem_nil, or_false] at hmem
    subst hmem
    simp at hkey

theorem mem_attributes_listing {entries : List Entry} {a : Markup.Attribute}
    (hmem : a ∈ (listing entries).attributes) :
    a = ⟨"class", "sources"⟩ ∨ ∃ e ∈ entries, a ∈ e.pieces.flatMap (·.tag.attributes) := by
  cases entries with
  | nil => cases hmem
  | cons e rest =>
    obtain ⟨p, hp, ha⟩ := List.mem_flatMap.1 hmem
    obtain hrow | hend := List.mem_append.1 hp
    · obtain rfl | hrow := List.mem_cons.1 hrow
      · exact .inl (List.mem_singleton.1 ha)
      · obtain ⟨e, he, hrow⟩ := List.mem_flatMap.1 hrow
        exact .inr ⟨e, he, List.mem_flatMap.2 ⟨p, hrow, ha⟩⟩
    · obtain rfl := List.mem_singleton.1 hend
      cases ha

/-- The addresses in a list of sources are those of its sources, as far as they are safe. -/
theorem exists_source_of_href {a : Markup.Attribute}
    (hmem : a ∈ (listing (sources.map Entry.ofSource)).attributes) (hkey : a.key = "href") :
    ∃ source ∈ sources, isSafeAddress source.url = true ∧
      a.value = Html.escapeAddress source.url := by
  obtain rfl | ⟨e, he, hentry⟩ := mem_attributes_listing hmem
  · simp at hkey
  · obtain ⟨source, hsource, rfl⟩ := List.mem_map.1 he
    exact ⟨source, hsource, Entry.isSafeAddress_of_href hentry hkey⟩

/-- Nothing on a page leads to a script. A browser sees no scheme in a safe address but the few that
the page knows; the sanitizer keeps links and images with safe addresses only, which the answer had
before; and a list of sources has safe addresses of its sources only, harmless also in the form in
which they are written. -/
theorem safe_targets :
    (∀ url, isSafeAddress url = true → IsHarmless url) ∧
    (∀ sources events, ∀ url ∈ targets (sanitize sources events),
      isSafeAddress url = true ∧ url ∈ targets events) ∧
    ∀ sources, ∃ page, Markup.ReadsAs (renderSources sources) page ∧
      ∀ a ∈ page.attributes, a.key = "href" →
        ∃ source ∈ sources, isSafeAddress source.url = true ∧
          a.value = Html.escapeAddress source.url ∧
          ∃ address, Html.unescape? a.value = some address ∧ IsHarmless address := by
  refine ⟨fun url ↦ isHarmless_of_isSafeAddress, leads_sanitize, fun sources ↦ ?_⟩
  refine ⟨_, readsAs_renderSources sources, fun a hmem hkey ↦ ?_⟩
  obtain ⟨source, hsource, hsafe, hvalue⟩ := exists_source_of_href hmem hkey
  refine ⟨source, hsource, hsafe, hvalue, Html.encodeAddress source.url, ?_,
    isHarmless_encodeAddress hsafe⟩
  rw [hvalue]
  exact Html.unescape?_escapeAddress source.url

/-- An image that a closing of the wrong kind ends leads nowhere, since it would run a script; the
link around it stays. -/
theorem safe_targets_crossed :
    isSafeAddress "\tMailto:a@b" = true ∧ scheme? "\tMailto:a@b" = some "mailto" ∧
      "mailto" ∈ ["http", "https", "mailto"] ∧
      targets (sanitize [] [.opening (.link { kind := .inline, url := "/a" }),
        .opening (.image { kind := .inline, url := "javascript:a" }), .text "b", .closing .link,
        .closing .image]) = ["/a"] ∧
      isSafeAddress "/a" = true := by
  have hsafe : isSafeAddress "\tMailto:a@b" = true := by decide
  have hscheme : scheme? "\tMailto:a@b" = some "mailto" := by decide
  have htargets : targets (sanitize [] [.opening (.link { kind := .inline, url := "/a" }),
      .opening (.image { kind := .inline, url := "javascript:a" }), .text "b", .closing .link,
      .closing .image]) = ["/a"] := by decide
  refine ⟨hsafe, hscheme, safe_targets.1 _ hsafe _ hscheme, htargets, ?_⟩
  exact (safe_targets.2.1 [] _ "/a" (htargets ▸ List.mem_singleton_self _)).1

end Page

end CitedChat
