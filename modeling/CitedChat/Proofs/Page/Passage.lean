import CitedChat.Proofs.Chat.Lookup
import CitedChat.Proofs.Transcript.Numbering
import CitedChat.Terminal.Command

/-!
The passage that is shown for a citation. The page looks an ordinal up from the front of a turn's
sources, and a command looks it up from the back of the conversation. In the latest turn that has a
source of the ordinal (`Conversation.LatestCiting`) the two find the first and the last such source
(`excerpt_eq_head?`, `Conversation.LatestCiting.findSource?`): they show the same passage exactly if
these two sources have the same one (`Conversation.passages_of_citation`), as when no ordinal occurs
twice in the turn, and always in a numbered transcript (`Numbered.passage`).
-/

set_option autoImplicit false

namespace CitedChat

/-- The sources of an ordinal. -/
def bearing (ordinal : Nat) (sources : List Source) : List Source :=
  sources.filter (·.ordinal == ordinal)

theorem bearing_append (ordinal : Nat) (first second : List Source) :
    bearing ordinal (first ++ second) = bearing ordinal first ++ bearing ordinal second :=
  List.filter_append ..

theorem bearing_eq_nil_iff {ordinal : Nat} {sources : List Source} :
    bearing ordinal sources = [] ↔ ∀ source ∈ sources, source.ordinal ≠ ordinal := by
  simp [bearing, List.filter_eq_nil_iff]

/-- Where ordinals do not repeat, an ordinal has one source at most. -/
theorem head?_eq_getLast?_bearing {sources : List Source}
    (hdistinct : (sources.map Source.ordinal).Nodup) (ordinal : Nat) :
    (bearing ordinal sources).head? = (bearing ordinal sources).getLast? := by
  have hnodup : ((bearing ordinal sources).map Source.ordinal).Nodup :=
    hdistinct.sublist (List.filter_sublist.map _)
  have hordinal : ∀ source ∈ bearing ordinal sources, source.ordinal = ordinal := fun source hmem ↦
    beq_iff_eq.1 (List.mem_filter.1 hmem).2
  cases hbearing : bearing ordinal sources with
  | nil => rfl
  | cons first rest =>
    rw [hbearing] at hnodup hordinal
    cases rest with
    | nil => rfl
    | cons second rest =>
      refine absurd ?_ (List.nodup_cons.1 hnodup).1
      rw [hordinal first List.mem_cons_self, List.map_cons,
        hordinal second (List.mem_cons_of_mem _ List.mem_cons_self)]
      exact List.mem_cons_self

/-! ### The page -/

namespace Page

/-- The page shows the passage of the first source of an ordinal. -/
theorem excerpt_eq_head? (sources : List Source) (n : Nat) :
    Citation.excerpt sources n = ((bearing n sources).head?.map Source.originText).getD "" := by
  rw [Citation.excerpt, bearing, List.head?_filter]

theorem citation_of_head? {sources : List Source} {n : Nat} {first : Source}
    (hfirst : (bearing n sources).head? = some first) :
    citation sources n "" = .inlineHtml (Citation.anchor n first.originText) := by
  have hexcerpt : Citation.excerpt sources n = first.originText := by
    rw [excerpt_eq_head?, hfirst]
    rfl
  rw [← hexcerpt]
  rfl

end Page

/-! ### The conversation -/

namespace Conversation

/-- The sources are those of the latest turn that has a source of the ordinal. -/
structure LatestCiting (c : Conversation) (n : Nat) (sources : List Source) : Prop where
  placed : ∃ earlier text later, c.turns = earlier ++ .assistant text sources :: later ∧
    ∀ turn ∈ later, ∀ source ∈ turn.sources, source.ordinal ≠ n
  cited : ∃ source ∈ sources, source.ordinal = n

variable {c : Conversation} {n : Nat} {sources : List Source}

/-- There is such a turn for every ordinal that a source has. -/
theorem exists_latestCiting {turns : List Turn}
    (hcited : ∃ source ∈ allSources turns, source.ordinal = n) :
    ∃ sources, LatestCiting ⟨turns⟩ n sources := by
  induction turns with
  | nil =>
    obtain ⟨source, hmem, -⟩ := hcited
    cases hmem
  | cons first rest ih =>
    by_cases hrest : ∃ source ∈ allSources rest, source.ordinal = n
    · obtain ⟨sources, ⟨earlier, text, later, hturns, hlater⟩, hcited⟩ := ih hrest
      exact ⟨sources, ⟨first :: earlier, text, later, congrArg (first :: ·) hturns, hlater⟩, hcited⟩
    · obtain ⟨source, hmem, hordinal⟩ := hcited
      obtain hmem | hmem := List.mem_append.1 hmem
      · cases first with
        | user text => cases hmem
        | assistant text sources =>
          refine ⟨sources, ⟨[], text, rest, rfl, fun turn hturn other hother hsame ↦ ?_⟩,
            source, hmem, hordinal⟩
          exact hrest ⟨other, List.mem_flatMap.2 ⟨turn, hturn, hother⟩, hsame⟩
      · exact absurd ⟨source, hmem, hordinal⟩ hrest

theorem LatestCiting.bearing_ne_nil (h : c.LatestCiting n sources) : bearing n sources ≠ [] := by
  obtain ⟨source, hmem, hordinal⟩ := h.cited
  intro hnil
  exact bearing_eq_nil_iff.1 hnil source hmem hordinal

/-- The conversation finds the last source of an ordinal. -/
theorem LatestCiting.findSource? (h : c.LatestCiting n sources) :
    c.findSource? n = (bearing n sources).getLast? := by
  obtain ⟨earlier, text, later, hturns, hlater⟩ := h.placed
  have hnone : bearing n (allSources later) = [] := by
    rw [bearing_eq_nil_iff]
    intro source hmem
    obtain ⟨turn, hturn, hsource⟩ := List.mem_flatMap.1 hmem
    exact hlater turn hturn source hsource
  have hall : allSources c.turns = allSources earlier ++ (sources ++ allSources later) := by
    rw [hturns, allSources_append]
    rfl
  rw [findSource?_eq_getLast?, ← bearing, hall, bearing_append, bearing_append, hnone,
    List.append_nil, List.getLast?_append]
  cases hlast : (bearing n sources).getLast? with
  | none => exact absurd (List.getLast?_eq_none_iff.1 hlast) h.bearing_ne_nil
  | some last => rfl

/-- Without repeated ordinals the page and the conversation find the same source. -/
theorem LatestCiting.head?_bearing (h : c.LatestCiting n sources)
    (hdistinct : (sources.map Source.ordinal).Nodup) :
    (bearing n sources).head? = c.findSource? n := by
  rw [h.findSource?, head?_eq_getLast?_bearing hdistinct]

/-- A command shows the passage of the source that is found, unless it hides it. -/
theorem source_of_findSource? {source : Source} (hfind : c.findSource? n = some source)
    {argument : List Char} (hnumber : Command.number? (Command.trimBrackets argument) = some n)
    {t : Tooltip} (hshown : t.ordinal? ≠ some n) :
    Command.source argument c t =
      (Terminal.sourceLine source ++ "\n\n" ++
        (if source.originText.isEmpty then "(no excerpt)" else source.originText),
        .showing n source.originText) := by
  have hfound := List.find?_some hfind
  obtain rfl : source.ordinal = n := beq_iff_eq.1 hfound
  have htoggle : t.toggle source = .showing source.ordinal source.originText :=
    Tooltip.toggle_eq_showing fun hsame ↦ hshown hsame.2
  rw [Command.source, hnumber]
  dsimp only
  rw [hfind]
  dsimp only
  rw [htoggle]
  rfl

/-- What is shown for a citation. Every ordinal that a source has, has a latest turn with such a
source; and of the sources of the ordinal in that turn, a citation on the page that has no title of
its own, be it a link or the label of one, shows the passage of the first, while a command finds and
shows the last. So both show the same passage exactly if these two have the same one, as when the
turn has no ordinal twice. -/
theorem passages_of_citation (c : Conversation) (n : Nat) :
    ((∃ source ∈ allSources c.turns, source.ordinal = n) → ∃ sources, c.LatestCiting n sources) ∧
    ∀ sources, c.LatestCiting n sources →
      ∃ first last, (bearing n sources).head? = some first ∧
        (bearing n sources).getLast? = some last ∧
        (∀ link content, link.title = "" →
          Page.Citation.ordinal? (Page.plainText content) = some n →
          Page.finishLink sources link content =
            .inlineHtml (Page.Citation.anchor n first.originText) ::
              Page.labelCitation sources link) ∧
        (∀ link, link.kind = .full false → Page.Citation.ordinal? link.label = some n →
          Page.labelCitation sources link =
            [.inlineHtml (Page.Citation.anchor n first.originText)]) ∧
        c.findSource? n = some last ∧
        (∀ argument t, Command.number? (Command.trimBrackets argument) = some n →
          t.ordinal? ≠ some n →
          Command.source argument c t =
            (Terminal.sourceLine last ++ "\n\n" ++
              (if last.originText.isEmpty then "(no excerpt)" else last.originText),
              .showing n last.originText)) ∧
        (Page.Citation.excerpt sources n = last.originText ↔
          first.originText = last.originText) ∧
        ((sources.map Source.ordinal).Nodup → first = last) := by
  refine ⟨exists_latestCiting, fun sources h ↦ ?_⟩
  obtain ⟨first, hfirst⟩ := Option.isSome_iff_exists.1 (List.isSome_head?.2 h.bearing_ne_nil)
  obtain ⟨last, hlast⟩ := Option.isSome_iff_exists.1 (List.getLast?_isSome.2 h.bearing_ne_nil)
  have hfind : c.findSource? n = some last := h.findSource?.trans hlast
  have hcitation := Page.citation_of_head? hfirst
  refine ⟨first, last, hfirst, hlast, ?_, ?_, hfind, ?_, ?_, ?_⟩
  · intro link content htitle hordinal
    rw [Page.finishLink, hordinal, htitle]
    dsimp only
    rw [hcitation]
  · intro link hkind hordinal
    rw [Page.labelCitation, if_pos hkind, hordinal, ← hcitation]
    rfl
  · intro argument t hnumber hshown
    exact source_of_findSource? hfind hnumber hshown
  · rw [Page.excerpt_eq_head?, hfirst]
    rfl
  · intro hdistinct
    have hsame := h.head?_bearing hdistinct
    rw [hfirst, hfind] at hsame
    exact Option.some.inj hsame

/-- Two sources of one ordinal in a turn: the page shows the passage of the first, the terminal that
of the second. -/
theorem passages_differ :
    let sources : List Source := [⟨1, 0, "a", "u", "x"⟩, ⟨1, 1, "b", "v", "y"⟩]
    let c : Conversation := ⟨[.user "q", .assistant "[1]" sources]⟩
    let link : Markdown.Link := { kind := .shortcut false, url := "#citation_1", label := "1" }
    c.LatestCiting 1 sources ∧
      Page.Citation.excerpt sources 1 = "x" ∧
      Page.sanitize sources (Markdown.Event.element (.link link) [.text "1"]) =
        [.inlineHtml (Page.Citation.anchor 1 "x")] ∧
      (c.findSource? 1).map Source.originText = some "y" ∧
      (Command.source ['1'] c .hidden).1 = "[1] b <v>\n\ny" := by
  intro sources c link
  have hlatest : c.LatestCiting 1 sources :=
    ⟨⟨[.user "q"], "[1]", [], rfl, fun turn hmem ↦ by cases hmem⟩, sources.head (by decide),
      List.mem_cons_self, rfl⟩
  exact ⟨hlatest, by decide, by decide, by decide, by decide⟩

end Conversation

/-- In a numbered transcript the page and the terminal show the same passage for every citation. -/
theorem Numbered.passage {turns : List Turn} (hnumbered : Numbered turns) {n : Nat}
    {sources : List Source} (h : Conversation.LatestCiting ⟨turns⟩ n sources) :
    (Conversation.findSource? ⟨turns⟩ n).map Source.originText =
      some (Page.Citation.excerpt sources n) := by
  have hdistinct : (sources.map Source.ordinal).Nodup := by
    obtain ⟨earlier, text, later, hturns, -⟩ := h.placed
    have hall := hnumbered.nodup_ordinals
    rw [show turns = _ from hturns, allSources_append, List.map_append] at hall
    exact ((List.nodup_append.1 hall).2.1).sublist ((List.sublist_append_left ..).map _)
  rw [Page.excerpt_eq_head?, h.head?_bearing hdistinct]
  cases hfind : Conversation.findSource? ⟨turns⟩ n with
  | some source => rfl
  | none =>
    rw [h.findSource?] at hfind
    exact absurd (List.getLast?_eq_none_iff.1 hfind) h.bearing_ne_nil

end CitedChat
