import CitedChat.Markdown.Event

/-!
Well-nested events. A sequence of events is well nested if every closing is that of the innermost
element that is open, and nothing stays open (`WellNested`). Such sequences are the written form of
forests: a forest is written as a well-nested sequence, every well-nested sequence is that of a
forest (`wellNested_iff`), and of one only (`Forest.events_injective`). So the elements of a forest,
at any depth, are what its events enclose between an opening and the closing that belongs to it
(`encloses_iff`).
-/

set_option autoImplicit false

namespace CitedChat.Markdown

/-- Whether an event neither opens nor closes an element. -/
def Event.isLone : Event → Bool
  | .opening _ | .closing _ => false
  | _ => true

/-- Elements and lone events in a row. -/
inductive Forest where
  | nil
  | lone (event : Event) (isLone : event.isLone = true) (rest : Forest)
  | element (tag : Tag) (content rest : Forest)

namespace Forest

/-- The events that a forest is written as. -/
def events : Forest → List Event
  | .nil => []
  | .lone event _ rest => event :: rest.events
  | .element tag content rest => Event.element tag content.events ++ rest.events

def append : Forest → Forest → Forest
  | .nil, second => second
  | .lone event isLone rest, second => .lone event isLone (rest.append second)
  | .element tag content rest, second => .element tag content (rest.append second)

@[simp] theorem events_nil : Forest.nil.events = [] := rfl

@[simp] theorem events_lone (event : Event) (isLone : event.isLone = true) (rest : Forest) :
    (Forest.lone event isLone rest).events = event :: rest.events := rfl

@[simp] theorem events_element (tag : Tag) (content rest : Forest) :
    (Forest.element tag content rest).events =
      .opening tag :: (content.events ++ .closing tag.closing :: rest.events) := by
  simp [events, Event.element]

@[simp] theorem events_append (first second : Forest) :
    (first.append second).events = first.events ++ second.events := by
  induction first with
  | nil => rfl
  | lone event isLone rest ih => simp [append, ih]
  | element tag content rest _ ih => simp [append, ih]

end Forest

/-! ### Reading with a stack -/

/-- The open elements after an event, innermost first, unless it closes one out of turn. -/
def nest (opened : List Tag) : Event → Option (List Tag)
  | .opening tag => some (tag :: opened)
  | .closing closing =>
    match opened with
    | [] => none
    | tag :: outer => if closing = tag.closing then some outer else none
  | _ => some opened

/-- Every closing is that of the innermost open element, and nothing stays open. -/
def WellNested (events : List Event) : Prop :=
  events.foldlM nest [] = some []

instance (events : List Event) : Decidable (WellNested events) :=
  inferInstanceAs (Decidable (_ = _))

theorem nest_of_isLone {event : Event} (isLone : event.isLone = true) (opened : List Tag) :
    nest opened event = some opened := by
  cases event with
  | opening tag => cases isLone
  | closing closing => cases isLone
  | _ => rfl

theorem nest_closing (tag : Tag) (opened : List Tag) :
    nest (tag :: opened) (.closing tag.closing) = some opened :=
  if_pos rfl

/-- Reading a forest leaves the elements around it open. -/
theorem foldlM_events (forest : Forest) (opened : List Tag) :
    forest.events.foldlM nest opened = some opened := by
  induction forest generalizing opened with
  | nil => rfl
  | lone event isLone rest ih =>
    rw [Forest.events_lone, List.foldlM_cons, nest_of_isLone isLone]
    exact ih opened
  | element tag content rest ihContent ihRest =>
    rw [Forest.events_element, List.foldlM_cons]
    show (content.events ++ .closing tag.closing :: rest.events).foldlM nest (tag :: opened) = _
    rw [List.foldlM_append, ihContent]
    show (.closing tag.closing :: rest.events).foldlM nest (tag :: opened) = _
    rw [List.foldlM_cons, nest_closing]
    exact ihRest opened

/-- What follows inside of open elements: the closing of each, with what comes behind it. -/
def closings : List Tag → List Forest → List Event
  | [], _ | _, [] => []
  | tag :: opened, forest :: outer =>
    .closing tag.closing :: (forest.events ++ closings opened outer)

/-- Events that close what is open, and nothing else, are forests between the closings. -/
theorem exists_forests {opened : List Tag} {events : List Event}
    (hread : events.foldlM nest opened = some []) :
    ∃ forest outer, outer.length = opened.length ∧
      events = Forest.events forest ++ closings opened outer := by
  induction events generalizing opened with
  | nil =>
    obtain rfl : opened = [] := Option.some.inj hread
    exact ⟨.nil, [], rfl, rfl⟩
  | cons event rest ih =>
    rw [List.foldlM_cons] at hread
    by_cases isLone : event.isLone = true
    · rw [nest_of_isLone isLone] at hread
      obtain ⟨forest, outer, hlength, hrest⟩ := ih hread
      exact ⟨.lone event isLone forest, outer, hlength, by rw [hrest]; rfl⟩
    · cases event with
      | opening tag =>
        have hinside : rest.foldlM nest (tag :: opened) = some [] := hread
        obtain ⟨content, outer, hlength, hrest⟩ := ih hinside
        -- The innermost of the forests behind is what follows the element.
        cases outer with
        | nil => cases hlength
        | cons forest outer =>
          refine ⟨.element tag content forest, outer, Nat.succ.inj hlength, ?_⟩
          rw [hrest]
          simp [closings]
      | closing closing =>
        cases opened with
        | nil => cases hread
        | cons tag opened =>
          by_cases hclosing : closing = tag.closing
          · subst hclosing
            rw [nest_closing] at hread
            obtain ⟨forest, outer, hlength, hrest⟩ := ih hread
            exact ⟨.nil, forest :: outer, congrArg Nat.succ hlength, by rw [hrest]; rfl⟩
          · rw [nest, if_neg hclosing] at hread
            cases hread
      | _ => exact absurd rfl isLone

/-- The well-nested sequences are those that forests are written as. -/
theorem wellNested_iff {events : List Event} :
    WellNested events ↔ ∃ forest : Forest, forest.events = events := by
  constructor
  · intro hnested
    obtain ⟨forest, outer, -, hevents⟩ := exists_forests hnested
    exact ⟨forest, by rw [hevents, closings, List.append_nil]⟩
  · rintro ⟨forest, rfl⟩
    exact foldlM_events forest []

/-! ### One forest only -/

/-- Nothing, or the closing of an element around. -/
def IsTail (events : List Event) : Prop :=
  ∀ event ∈ events.head?, ∃ closing, event = .closing closing

theorem isTail_closing (closing : Closing) (events : List Event) :
    IsTail (.closing closing :: events) := by
  intro event hevent
  exact ⟨closing, (Option.some.inj hevent).symm⟩

namespace Forest

/-- A forest ends where an element around it is closed. -/
theorem events_append_inj {first second : Forest} {tail rest : List Event} (htail : IsTail tail)
    (hrest : IsTail rest) (hevents : first.events ++ tail = second.events ++ rest) :
    first = second ∧ tail = rest := by
  induction first generalizing second tail rest with
  | nil =>
    cases second with
    | nil => exact ⟨rfl, hevents⟩
    | lone event isLone more =>
      obtain rfl : tail = event :: (more.events ++ rest) := hevents
      obtain ⟨closing, rfl⟩ := htail event rfl
      cases isLone
    | element tag content more =>
      obtain rfl : tail = .opening tag :: _ := hevents
      obtain ⟨closing, hclosing⟩ := htail (.opening tag) rfl
      cases hclosing
  | lone event isLone more ih =>
    cases second with
    | nil =>
      obtain rfl : event :: (more.events ++ tail) = rest := hevents
      obtain ⟨closing, rfl⟩ := hrest event rfl
      cases isLone
    | lone other isLone' more' =>
      obtain ⟨rfl, hmore⟩ := List.cons.inj hevents
      obtain ⟨rfl, rfl⟩ := ih htail hrest hmore
      exact ⟨rfl, rfl⟩
    | element tag content more' =>
      obtain ⟨rfl, -⟩ := List.cons.inj hevents
      cases isLone
  | element tag content more ihContent ihMore =>
    cases second with
    | nil =>
      obtain rfl : .opening tag :: _ = rest := hevents
      obtain ⟨closing, hclosing⟩ := hrest (.opening tag) rfl
      cases hclosing
    | lone event isLone more' =>
      obtain ⟨rfl, -⟩ := List.cons.inj hevents
      cases isLone
    | element tag' content' more' =>
      simp only [events_element, List.cons_append, List.append_assoc, List.cons.injEq,
        Event.opening.injEq] at hevents
      obtain ⟨rfl, hevents⟩ := hevents
      obtain ⟨rfl, hmore⟩ := ihContent (isTail_closing _ _) (isTail_closing _ _) hevents
      obtain ⟨rfl, rfl⟩ := ihMore htail hrest (List.cons.inj hmore).2
      exact ⟨rfl, rfl⟩

theorem events_injective {first second : Forest} (hevents : first.events = second.events) :
    first = second := by
  have hnothing : IsTail [] := fun event hevent ↦ by cases hevent
  exact (events_append_inj hnothing hnothing (by rw [hevents])).1

/-! ### Elements at any depth -/

/-- An element of a forest, at any depth. -/
inductive Contains (tag : Tag) (content : Forest) : Forest → Prop where
  | here (rest : Forest) : Contains tag content (.element tag content rest)
  | behindLone {event : Event} (isLone : event.isLone = true) {rest : Forest}
      (hrest : Contains tag content rest) : Contains tag content (.lone event isLone rest)
  | inside {outer : Tag} {around : Forest} (hinside : Contains tag content around)
      (rest : Forest) : Contains tag content (.element outer around rest)
  | behind {other : Tag} (before : Forest) {rest : Forest} (hrest : Contains tag content rest) :
      Contains tag content (.element other before rest)

variable {tag : Tag} {content : Forest}

theorem not_contains_nil : ¬ Contains tag content .nil := by
  intro h
  cases h

theorem contains_lone_iff {event : Event} {isLone : event.isLone = true} {rest : Forest} :
    Contains tag content (.lone event isLone rest) ↔ Contains tag content rest := by
  constructor
  · intro h
    cases h with
    | behindLone _ hrest => exact hrest
  · exact .behindLone isLone

theorem contains_element_iff {other : Tag} {around rest : Forest} :
    Contains tag content (.element other around rest) ↔
      (tag = other ∧ content = around) ∨ Contains tag content around ∨
        Contains tag content rest := by
  constructor
  · intro h
    cases h with
    | here => exact .inl ⟨rfl, rfl⟩
    | inside hinside => exact .inr (.inl hinside)
    | behind _ hbehind => exact .inr (.inr hbehind)
  · rintro (⟨rfl, rfl⟩ | hinside | hbehind)
    · exact .here rest
    · exact .inside hinside rest
    · exact .behind around hbehind

theorem contains_element_nil_iff {other : Tag} {around : Forest} :
    Contains tag content (.element other around .nil) ↔
      (tag = other ∧ content = around) ∨ Contains tag content around := by
  simp [contains_element_iff, not_contains_nil]

theorem contains_append_iff {first second : Forest} :
    Contains tag content (first.append second) ↔
      Contains tag content first ∨ Contains tag content second := by
  induction first with
  | nil => simp [append, not_contains_nil]
  | lone event isLone rest ih => simp [append, contains_lone_iff, ih]
  | element other around rest _ ih => simp [append, contains_element_iff, ih, or_assoc]

/-- The events of an element stand among those of the forest. -/
theorem Contains.exists_events {forest : Forest} (h : Contains tag content forest) :
    ∃ before after, forest.events = before ++ Event.element tag content.events ++ after := by
  induction h with
  | here rest => exact ⟨[], rest.events, by rw [events, List.nil_append]⟩
  | @behindLone event isLone rest _ ih =>
    obtain ⟨before, after, hevents⟩ := ih
    exact ⟨event :: before, after, by rw [events_lone, hevents]; rfl⟩
  | @inside outer around _ rest ih =>
    obtain ⟨before, after, hevents⟩ := ih
    refine ⟨.opening outer :: before, after ++ .closing outer.closing :: rest.events, ?_⟩
    rw [events_element, hevents]
    simp
  | @behind other first rest _ ih =>
    obtain ⟨before, after, hevents⟩ := ih
    refine ⟨Event.element other first.events ++ before, after, ?_⟩
    rw [events, hevents]
    simp

/-- Where the events of an element stand among those of a forest and what follows it, the element
is in the forest or in what follows. -/
theorem contains_of_events {forest : Forest} {tail before after : List Event}
    (hevents : forest.events ++ tail =
      before ++ .opening tag :: (content.events ++ .closing tag.closing :: after)) :
    Contains tag content forest ∨ ∃ skipped, before = forest.events ++ skipped := by
  induction forest generalizing tail before with
  | nil => exact .inr ⟨before, rfl⟩
  | lone event isLone rest ih =>
    cases before with
    | nil =>
      obtain ⟨rfl, -⟩ := List.cons.inj hevents
      cases isLone
    | cons first before =>
      obtain ⟨rfl, hrest⟩ := List.cons.inj hevents
      obtain hcontains | ⟨skipped, rfl⟩ := ih hrest
      · exact .inl (.behindLone isLone hcontains)
      · exact .inr ⟨skipped, rfl⟩
  | element other around rest ihAround ihRest =>
    rw [events_element, List.cons_append, List.append_assoc, List.cons_append] at hevents
    cases before with
    | nil =>
      obtain ⟨hopening, hinside⟩ := List.cons.inj hevents
      obtain rfl : other = tag := Event.opening.inj hopening
      obtain ⟨rfl, -⟩ := events_append_inj (isTail_closing _ _) (isTail_closing _ _) hinside
      exact .inl (.here rest)
    | cons first before =>
      obtain ⟨rfl, hinside⟩ := List.cons.inj hevents
      obtain hcontains | ⟨skipped, rfl⟩ := ihAround hinside
      · exact .inl (.inside hcontains rest)
      · have hskipped := List.append_cancel_left (hinside.trans (List.append_assoc ..))
        cases skipped with
        | nil => cases (List.cons.inj hskipped).1
        | cons second skipped =>
          obtain ⟨rfl, hbehind⟩ := List.cons.inj hskipped
          obtain hcontains | ⟨more, rfl⟩ := ihRest hbehind
          · exact .inl (.behind around hcontains)
          · exact .inr ⟨more, by simp⟩

end Forest

/-- The events of an element stand among other events, and its content is well nested, so that its
closing is the one that belongs to it. -/
structure Encloses (events : List Event) (tag : Tag) (content : List Event) : Prop where
  nested : WellNested content
  among : ∃ before after, events = before ++ Event.element tag content ++ after

/-- Among the events of a forest stand those of its elements. -/
theorem encloses_iff {forest : Forest} {tag : Tag} {content : List Event} :
    Encloses forest.events tag content ↔
      ∃ inside : Forest, inside.events = content ∧ Forest.Contains tag inside forest := by
  constructor
  · rintro ⟨hnested, before, after, hevents⟩
    obtain ⟨inside, rfl⟩ := wellNested_iff.1 hnested
    refine ⟨inside, rfl, ?_⟩
    have hopening : forest.events ++ [] =
        before ++ .opening tag :: (inside.events ++ .closing tag.closing :: after) := by
      simp [hevents, Event.element]
    obtain hcontains | ⟨skipped, rfl⟩ := Forest.contains_of_events hopening
    · exact hcontains
    · simp at hopening
  · rintro ⟨inside, rfl, hcontains⟩
    exact ⟨wellNested_iff.2 ⟨inside, rfl⟩, hcontains.exists_events⟩

end CitedChat.Markdown
