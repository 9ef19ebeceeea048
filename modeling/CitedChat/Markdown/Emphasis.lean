import CitedChat.Markdown.Event
import CitedChat.Markdown.Token

/-!
Which runs of `*`, `_` and `~` make an emphasis. A run that can close is matched with the nearest
run before it that can open and fits; runs between the two stay text. Both give up as many
characters as the shorter one has left: pairs make a strong emphasis, a single one a plain one.
-/

set_option autoImplicit false

namespace CitedChat.Markdown

/-- A part of a content: what is settled, and runs that are not. -/
inductive Piece where
  | events (events : List Event)
  | run (run : Run)

namespace Emphasis

/-- A run that waits for its partner. -/
structure Opener where
  run : Run
  /-- What is left of it. -/
  count : Nat
  /-- The events between the opener before it and this one, in reverse. -/
  before : List Event

def literal (c : Char) (count : Nat) : Event :=
  .text (String.ofList (List.replicate count c))

/-- Events in reverse, with the opener before them as text. -/
def Opener.release (inner : List Event) (opener : Opener) : List Event :=
  inner ++ literal opener.run.char opener.count :: opener.before

def Run.isBoth (run : Run) : Bool :=
  run.canOpen && run.canClose

/-- Runs of which one could be either do not fit if their lengths add up to a multiple of three,
except when both lengths are one; runs of `~` must be equally long. -/
def fits (closer : Run) (opener : Opener) : Bool :=
  opener.run.char == closer.char &&
    (closer.char != '~' || opener.run.count == closer.count) &&
    ((!Run.isBoth closer && !Run.isBoth opener.run) ||
      (closer.count + opener.run.count) % 3 != 0 || closer.count % 3 == 0)

def single (c : Char) : Tag :=
  if c == '~' then .strikethrough else .emphasis

def double (c : Char) : Tag :=
  if c == '~' then .strikethrough else .strong

/-- An element around events, all in reverse. -/
def enclose (tag : Tag) (inner : List Event) : List Event :=
  .closing tag.closing :: (inner ++ [.opening tag])

/-- The elements that so many characters on either side make. -/
def wrap (c : Char) : Nat → List Event → List Event
  | 0, inner => inner
  | 1, inner => enclose (single c) inner
  | count + 2, inner => wrap c count (enclose (double c) inner)

/-- The openers, innermost first, and the events after the innermost, in reverse. -/
structure State where
  openers : List Opener := []
  current : List Event := []

/-- Makes text of the openers of a character. -/
def mute (c : Char) : List Opener → List Event → State
  | [], current => ⟨[], current⟩
  | opener :: rest, current =>
    if opener.run.char == c then mute c rest (opener.release current)
    else
      let outer := mute c rest opener.before
      ⟨{ opener with before := outer.current } :: outer.openers, current⟩

/-- Matches a closing run, of which `left` characters are left; gives how many remain. An unmatched
run of `~` ends the search for all openers of `~` before it. -/
def close (closer : Run) : Nat → Nat → State → Nat × State
  | 0, left, s => (left, s)
  | _, 0, s => (0, s)
  | bound + 1, left, s =>
    match s.openers.dropWhile (!fits closer ·) with
    | [] => (left, if closer.char == '~' then mute '~' s.openers s.current else s)
    | opener :: outer =>
      let inner := (s.openers.takeWhile (!fits closer ·)).foldl Opener.release s.current
      let count := min left opener.count
      let wrapped := wrap closer.char count inner
      let s : State :=
        if opener.count > count then
          ⟨{ opener with count := opener.count - count } :: outer, wrapped⟩
        else ⟨outer, wrapped ++ opener.before⟩
      close closer bound (left - count) s

def step (s : State) : Piece → State
  | .events events => { s with current := events.reverse ++ s.current }
  | .run run =>
    let (left, s) := if run.canClose then close run run.count run.count s else (run.count, s)
    if left == 0 then s
    else if run.canOpen then ⟨⟨run, left, s.current⟩ :: s.openers, []⟩
    else { s with current := literal run.char left :: s.current }

/-- The events of the pieces; runs without a partner are text. -/
def events (pieces : List Piece) : List Event :=
  let s := pieces.foldl step {}
  (s.openers.foldl Opener.release s.current).reverse

end Emphasis

end CitedChat.Markdown
