import CitedChat.Markdown.Content
import CitedChat.Markdown.Event

/-!
The blocks of a text, with the text of their lines not read yet.
-/

set_option autoImplicit false

namespace CitedChat.Markdown

structure Table where
  alignments : List Alignment
  head : List Content
  rows : List (List Content)

inductive Block where
  /-- A paragraph, which can begin with the box of a task. -/
  | paragraph (task : Option Bool) (content : Content)
  /-- A heading, which can do so if its mark is a line under it. -/
  | heading (level : Nat) (task : Option Bool) (content : Content)
  | rule
  /-- Code, with an info string if it is fenced. -/
  | code (info : Option String) (text : String)
  | html (text : String)
  | table (table : Table)
  | task (checked : Bool)
  | quote (children : List Block)
  /-- The paragraphs in the items of a tight list are not set apart. -/
  | list (tight : Bool) (first : Option Nat) (items : List Block)
  | item (children : List Block)

end CitedChat.Markdown
