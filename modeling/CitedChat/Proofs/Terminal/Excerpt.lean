import CitedChat.Proofs.Text.Trimming
import CitedChat.Terminal.Program

/-!
The tooltip shows what the conversation says. A line is a command, with a name and an argument, or a
question (`Command.words?`); what it may come to is said once (`Console.Takes`). A source is looked
up when its passage is shown, and whatever changes the conversation hides the tooltip; so after each
line the passage that is shown is that of the source with the ordinal that is shown
(`Console.tooltip_current`).
-/

set_option autoImplicit false

namespace CitedChat

namespace Command

/-! ### Commands -/

theorem words?_trim (line : String) : words? (Text.trim line) = words? line := by
  rw [words?, words?, Text.trim, String.toList_ofList, Text.trimList_trimList]

/-- A line is a command exactly if it begins with a slash once it is trimmed. -/
theorem isSome_words?_iff (line : String) :
    (words? line).isSome = true ↔ ∃ rest, (Text.trim line).toList = '/' :: rest := by
  rw [Text.trim, String.toList_ofList, words?]
  cases Text.trimList line.toList with
  | nil => simp
  | cons first rest =>
    by_cases hslash : first = '/'
    · simp [hslash]
    · simp [hslash]

variable {name : String} {argument : List Char} {c : Conversation} {t : Tooltip}

/-- What carrying out a command may come to. -/
inductive Performs (name : String) (argument : List Char) (c : Conversation) (t : Tooltip) :
    CommandResult × Tooltip → Prop
  | clear (hname : name ∈ newNames) : Performs name argument c t (.clear, t)
  | exit : Performs name argument c t (.exit, t)
  /-- Something is said, and all stays as it is. -/
  | message (text : String) : Performs name argument c t (.message text, t)
  | unknown : Performs name argument c t (.unknown name, t)
  /-- The passage of a source that there is is shown or hidden. -/
  | toggled (text : String) {n : Nat} {s : Source} (hname : name = "source")
      (hnumber : number? (trimBrackets argument) = some n) (hfind : c.findSource? n = some s) :
      Performs name argument c t (.message text, t.toggle s)

theorem performs_source (hname : name = "source") :
    Performs name argument c t (.message (source argument c t).1, (source argument c t).2) := by
  unfold source
  cases hnumber : number? (trimBrackets argument) with
  | none => exact .message _
  | some n =>
    dsimp only
    cases hfind : c.findSource? n with
    | none => exact .message _
    | some s =>
      dsimp only
      split
      · exact .toggled _ hname hnumber hfind
      · exact .toggled _ hname hnumber hfind

theorem performs (name : String) (argument : List Char) (c : Conversation) (t : Tooltip) :
    Performs name argument c t (perform name argument c t) := by
  unfold perform
  by_cases hhelp : ["help", "h", "?"].contains name = true
  · rw [if_pos hhelp]
    exact .message helpText
  rw [if_neg hhelp]
  by_cases hnew : newNames.contains name = true
  · rw [if_pos hnew]
    exact .clear (List.contains_iff_mem.1 hnew)
  rw [if_neg hnew]
  by_cases hexit : ["quit", "exit", "q"].contains name = true
  · rw [if_pos hexit]
    exact .exit
  rw [if_neg hexit]
  by_cases hsources : ["sources", "s"].contains name = true
  · rw [if_pos hsources]
    exact .message _
  rw [if_neg hsources]
  by_cases hsource : (name == "source") = true
  · rw [if_pos hsource]
    exact performs_source (beq_iff_eq.1 hsource)
  rw [if_neg hsource]
  by_cases hhtml : (name == "html") = true
  · rw [if_pos hhtml]
    exact .message _
  · rw [if_neg hhtml]
    exact .unknown

end Command

namespace Console

open Command

variable {c d : Console} {line : String}

/-- The tooltip is hidden, with no text and no ordinal, or it shows the passage of the source with
the ordinal that it shows. -/
def Current (c : Console) : Prop :=
  c.tooltip.isVisible = false ∧ c.tooltip.text = "" ∧ c.tooltip.ordinal? = none ∨
    c.tooltip.isVisible = true ∧ ∃ n source, c.tooltip.ordinal? = some n ∧
      c.conversation.findSource? n = some source ∧ source.originText = c.tooltip.text

theorem current_of_hidden (hhidden : c.tooltip = .hidden) : c.Current := by
  rw [Current, hhidden]
  exact .inl ⟨rfl, rfl, rfl⟩

/-- A source is found by its ordinal. -/
theorem ordinal_of_findSource? {conversation : Conversation} {n : Nat} {source : Source}
    (hfind : conversation.findSource? n = some source) : source.ordinal = n := by
  have hfound := List.find?_some hfind
  exact beq_iff_eq.1 hfound

/-! ### What a line may come to -/

inductive Takes (c : Console) (line : String) : Console → Prop
  | same : Takes c line c
  /-- A new conversation begins. -/
  | renewed {name : String} {argument : List Char} {session : Session}
      (hwords : words? line = some (name, argument)) (hname : name ∈ newNames)
      (hclear : c.world.session.clear = .ok session) :
      Takes c line { c with world := { c.world with session }, tooltip := .hidden }
  | toggled {argument : List Char} {n : Nat} {source : Source}
      (hwords : words? line = some ("source", argument))
      (hnumber : number? (trimBrackets argument) = some n)
      (hfind : c.conversation.findSource? n = some source) :
      Takes c line { c with tooltip := c.tooltip.toggle source }
  | asked {d : Console} {text : String} (hwords : words? line = none)
      (hread : (c.read line).2.2 = .question text) (hhidden : d.tooltip = .hidden) :
      Takes c line d

/-- Asking a question leaves the tooltip alone. -/
theorem tooltip_ask (c : Console) (text : String) (silence : List Act) :
    (c.ask text silence).1.tooltip = c.tooltip := by
  simp only [ask]
  split
  · rfl
  · split <;> rfl

/-- A new conversation hides the tooltip and asks nothing; one that is refused leaves all as it
is. -/
theorem takes_clear {name : String} {argument : List Char}
    (hwords : words? line = some (name, argument)) (hname : name ∈ newNames) :
    Takes c line c.clear.1 ∧ ∀ text, c.clear.2.2 ≠ .question text := by
  unfold clear
  split
  · next session hclear => exact ⟨.renewed hwords hname hclear, fun text h ↦ by cases h⟩
  · exact ⟨.same, fun text h ↦ by cases h⟩

/-- A line that is no command is a question, which hides the tooltip; no other line is one. -/
theorem read_cases (c : Console) (line : String) :
    (words? line = none ∧ ∃ prints text,
      c.read line = ({ c with tooltip := .hidden }, prints, .question text)) ∨
    Takes c line (c.read line).1 ∧ ∀ text, (c.read line).2.2 ≠ .question text := by
  unfold read
  by_cases hempty : (Text.trim line).isEmpty = true
  · simp only [hempty, if_true]
    exact .inr ⟨.same, fun text h ↦ by cases h⟩
  simp only [hempty, execute, words?_trim]
  cases hwords : words? line with
  | none => exact .inl ⟨rfl, _, _, rfl⟩
  | some words =>
    obtain ⟨name, argument⟩ := words
    have hperforms := performs name argument c.conversation c.tooltip
    refine .inr ?_
    dsimp only [Option.map_some]
    generalize perform name argument c.conversation c.tooltip = result at hperforms
    cases hperforms with
    | clear hname => exact takes_clear hwords hname
    | exit => exact ⟨.same, fun text h ↦ by cases h⟩
    | message text => exact ⟨.same, fun text h ↦ by cases h⟩
    | unknown => exact ⟨.same, fun text h ↦ by cases h⟩
    | toggled text hname hnumber hfind =>
      subst hname
      exact ⟨.toggled hwords hnumber hfind, fun text h ↦ by cases h⟩

theorem takes_step (c : Console) (line : String) (silence : List Act) :
    Takes c line (c.step line silence).1 := by
  unfold step
  obtain ⟨hwords, prints, text, hread⟩ | ⟨htakes, hnone⟩ := c.read_cases line
  · have htooltip := tooltip_ask { c with tooltip := .hidden } text silence
    have hquestion : (c.read line).2.2 = .question text := by rw [hread]
    rw [hread]
    dsimp only
    rcases hask : ask { c with tooltip := .hidden } text silence with ⟨d, shown, asked⟩
    rw [hask] at htooltip
    exact .asked hwords hquestion htooltip
  · rcases hread : c.read line with ⟨d, prints, reaction⟩
    rw [hread] at htakes hnone
    cases reaction with
    | next => exact htakes
    | leave => exact htakes
    | question text => exact absurd rfl (hnone text)

/-! ### What every line keeps -/

/-- Each line leaves a tooltip that is right. -/
theorem Takes.current (htakes : Takes c line d) (hcurrent : c.Current) : d.Current := by
  cases htakes with
  | same => exact hcurrent
  | renewed hwords hname hclear => exact current_of_hidden rfl
  | @toggled argument n source hwords hnumber hfind =>
    -- The source that is shown already is hidden; another one is shown as it was found.
    by_cases hshown : c.tooltip.Shows source.ordinal
    · exact current_of_hidden (Tooltip.toggle_eq_hidden hshown)
    · rw [Current, Tooltip.toggle_eq_showing hshown]
      exact .inr ⟨rfl, n, source, congrArg some (ordinal_of_findSource? hfind), hfind, rfl⟩
  | asked hwords hread hhidden => exact current_of_hidden hhidden

/-- The program's loop takes one line after the other. -/
theorem current_talk (hcurrent : c.Current) (interrupts : Nat) (lines : List String) :
    (Program.talk c interrupts lines).2.2.Current := by
  induction lines generalizing c interrupts with
  | nil => exact hcurrent
  | cons line rest ih =>
    have hcurrent := (takes_step c line (Program.silence interrupts)).current hcurrent
    unfold Program.talk
    rcases hstep : c.step line (Program.silence interrupts) with ⟨d, prints, course⟩
    rw [hstep] at hcurrent
    cases course with
    | next wasStopped => exact ih hcurrent _
    | leave => exact hcurrent
    | stuck => exact hcurrent

/-- Only three kinds of lines change the tooltip. -/
theorem Takes.tooltip (htakes : Takes c line d) (hchanged : d.tooltip ≠ c.tooltip) :
    (∃ text, (c.read line).2.2 = .question text) ∨
      (∃ name ∈ newNames, ∃ argument, words? line = some (name, argument)) ∨
      ∃ argument n source, words? line = some ("source", argument) ∧
        number? (trimBrackets argument) = some n ∧ c.conversation.findSource? n = some source := by
  cases htakes with
  | same => exact absurd rfl hchanged
  | renewed hwords hname hclear => exact .inr (.inl ⟨_, hname, _, hwords⟩)
  | toggled hwords hnumber hfind => exact .inr (.inr ⟨_, _, _, hwords, hnumber, hfind⟩)
  | asked hwords hread hhidden => exact .inl ⟨_, hread⟩

/-- A command leaves the server and the requests alone, and the conversation too unless it begins a
new one. -/
theorem Takes.command (htakes : Takes c line d) {name : String} {argument : List Char}
    (hwords : words? line = some (name, argument)) :
    d.server = c.server ∧ d.world.requests = c.world.requests ∧
      (name ∉ newNames → d.conversation = c.conversation) := by
  cases htakes with
  | same => exact ⟨rfl, rfl, fun _ ↦ rfl⟩
  | renewed hsame hname hclear =>
    rw [hwords] at hsame
    cases hsame
    exact ⟨rfl, rfl, fun hother ↦ absurd hname hother⟩
  | toggled hsame hnumber hfind => exact ⟨rfl, rfl, fun _ ↦ rfl⟩
  | asked hnone hread hhidden =>
    rw [hwords] at hnone
    cases hnone

theorem read_ne_question {name : String} {argument : List Char}
    (hwords : words? line = some (name, argument)) (c : Console) (text : String) :
    (c.read line).2.2 ≠ .question text := by
  obtain ⟨hnone, -⟩ | ⟨-, hother⟩ := c.read_cases line
  · rw [hwords] at hnone
    cases hnone
  · exact hother text

/-- The tooltip never shows a passage that the conversation does not have. Whatever lines the
program has taken, whatever became of the questions among them, and whatever the next line is:
before and after it the tooltip is hidden, or shows the passage of the source that the conversation
finds under the ordinal shown. Only a question, a new conversation and the showing of a source that
there is change the tooltip; no command changes the conversation but the one for a new conversation;
and a line that begins with a slash, once it is trimmed, is no question and makes no request. -/
theorem tooltip_current {c : Console} (hhidden : c.tooltip = .hidden) (interrupts : Nat)
    (lines : List String) (line : String) (silence : List Act) :
    let before := (Program.talk c interrupts lines).2.2
    let after := (before.step line silence).1
    before.Current ∧ after.Current ∧
      (after.tooltip ≠ before.tooltip →
        (∃ text, (before.read line).2.2 = .question text) ∨
        (∃ name ∈ newNames, ∃ argument, words? line = some (name, argument)) ∨
        ∃ argument n source, words? line = some ("source", argument) ∧
          number? (trimBrackets argument) = some n ∧
          before.conversation.findSource? n = some source) ∧
      (∀ name argument, words? line = some (name, argument) → name ∉ newNames →
        after.conversation = before.conversation) ∧
      ∀ rest, (Text.trim line).toList = '/' :: rest →
        (∀ text, (before.read line).2.2 ≠ .question text) ∧ after.server = before.server ∧
          after.world.requests = before.world.requests := by
  intro before after
  have hbefore : before.Current := current_talk (current_of_hidden hhidden) interrupts lines
  have htakes : Takes before line after := takes_step before line silence
  refine ⟨hbefore, htakes.current hbefore, htakes.tooltip, ?_, ?_⟩
  · intro name argument hwords hother
    obtain ⟨-, -, hsame⟩ := htakes.command hwords
    exact hsame hother
  · intro rest hslash
    have hcommand : (words? line).isSome = true := (isSome_words?_iff line).2 ⟨rest, hslash⟩
    obtain ⟨⟨name, argument⟩, hwords⟩ := Option.isSome_iff_exists.1 hcommand
    obtain ⟨hserver, hrequests, -⟩ := htakes.command hwords
    exact ⟨read_ne_question hwords before, hserver, hrequests⟩

/-- A source is shown, and a new conversation begins. -/
theorem tooltip_current_shown :
    let turns : List Turn := [.user "hi", .assistant "a" [⟨1, 0, "c", "u", "x"⟩]]
    let c : Console :=
      { client := { baseUrl := "u" }, server := { authority := "u" }
        world := { session := { conversation := ⟨turns⟩ } } }
    let before := (Program.talk c 0 [" /source [1]"]).2.2
    let after := (before.step "/New" []).1
    before.tooltip = .showing 1 "x" ∧ before.Current ∧ after.tooltip = .hidden ∧
      after.world.requests = #[] := by
  intro turns c before after
  obtain ⟨hbefore, hafter, -, -, hslash⟩ :=
    tooltip_current (c := c) rfl 0 [" /source [1]"] "/New" []
  obtain ⟨-, -, hrequests⟩ := hslash _ rfl
  refine ⟨?_, hbefore, ?_, hrequests⟩
  · rfl
  · rfl

end Console

end CitedChat
