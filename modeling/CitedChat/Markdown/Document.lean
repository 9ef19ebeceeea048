import CitedChat.Markdown.Inline
import CitedChat.Markdown.Reader

/-!
A text in Markdown as a sequence of events: the blocks in order, each with its content.
-/

set_option autoImplicit false

namespace CitedChat.Markdown

/-- Events that depend on how much text labels may still be replaced with. -/
abbrev Emission := StateM Nat (List Event)

def contentEvents (labels : Labels) (content : Content) : Emission :=
  fun allowance => Inline.events labels allowance content

/-- A block around a content, and the box of a task before it. -/
def leafEvents (labels : Labels) (task : Option Bool) (content : Content) : Emission := do
  let events ← contentEvents labels content
  pure (task.toList.map .task ++ events)

def cellEvents (labels : Labels) : List Content → Emission
  | [] => pure []
  | cell :: rest => do
    let events ← contentEvents labels cell
    let more ← cellEvents labels rest
    pure (Event.element .tableCell events ++ more)

def rowEvents (labels : Labels) : List (List Content) → Emission
  | [] => pure []
  | row :: rest => do
    let events ← cellEvents labels row
    let more ← rowEvents labels rest
    pure (Event.element .tableRow events ++ more)

def tableEvents (labels : Labels) (table : Table) : Emission := do
  let head ← cellEvents labels table.head
  let rows ← rowEvents labels table.rows
  pure (Event.element (.table table.alignments) (Event.element .tableHead head ++ rows))

mutual

/-- The events of a block. `tight` says that it is in an item of a tight list, where a paragraph is
not set apart. -/
def blockEvents (labels : Labels) (tight : Bool) : Block → Emission
  | .paragraph task content => do
    let events ← leafEvents labels task content
    pure (if tight then events else Event.element .paragraph events)
  | .heading level task content => do
    let events ← leafEvents labels task content
    pure (Event.element (.heading level) events)
  | .rule => pure [.rule]
  | .code info text =>
    pure (Event.element (.codeBlock info) (if text.isEmpty then [] else [.text text]))
  | .html text => pure (Event.element .htmlBlock [.html text])
  | .table table => tableEvents labels table
  | .task checked => pure [.task checked]
  | .quote children => do
    let events ← blocksEvents labels false children
    pure (Event.element .blockQuote events)
  | .list tight first items => do
    let events ← blocksEvents labels tight items
    pure (Event.element (.list first) events)
  | .item children => do
    let events ← blocksEvents labels tight children
    pure (Event.element .item events)

def blocksEvents (labels : Labels) (tight : Bool) : List Block → Emission
  | [] => pure []
  | block :: rest => do
    let events ← blockEvents labels tight block
    let more ← blocksEvents labels tight rest
    pure (events ++ more)

end

/-- How many bytes of text labels may be replaced with in a text of the given length. -/
def allowance (length : Nat) : Nat :=
  max length 100000

/-- The events of a text; `unknown` gives addresses to labels that it does not define. -/
def events (unknown : String → Option String) (text : String) : List Event :=
  let (blocks, definitions) := blocks text.toList
  (blocksEvents { definitions, unknown } false blocks (allowance text.utf8ByteSize)).1

end CitedChat.Markdown
