/-!
A marked up text as a sequence of events. An element is an opening and a closing with the events of
its content between them.
-/

set_option autoImplicit false

namespace CitedChat.Markdown

inductive Alignment where
  | none
  | left
  | center
  | right
  deriving DecidableEq, Inhabited

/-- How a link was written. Of the three kinds that name a label, `defined` tells whether the text
defines the label. -/
inductive LinkKind where
  | inline
  | full (defined : Bool)
  | collapsed (defined : Bool)
  | shortcut (defined : Bool)
  | address
  | email
  deriving DecidableEq

structure Link where
  kind : LinkKind
  url : String
  title : String := ""
  label : String := ""
  deriving DecidableEq

inductive Tag where
  | paragraph
  | heading (level : Nat)
  | blockQuote
  /-- The info string of a fenced block. -/
  | codeBlock (info : Option String)
  | htmlBlock
  /-- The first number of an ordered list. -/
  | list (first : Option Nat)
  | item
  | table (alignments : List Alignment)
  | tableHead
  | tableRow
  | tableCell
  | emphasis
  | strong
  | strikethrough
  | link (link : Link)
  | image (link : Link)
  deriving DecidableEq

/-- What a closing tells of its element. -/
inductive Closing where
  | paragraph
  | heading (level : Nat)
  | blockQuote
  | codeBlock
  | htmlBlock
  | list (ordered : Bool)
  | item
  | table
  | tableHead
  | tableRow
  | tableCell
  | emphasis
  | strong
  | strikethrough
  | link
  | image
  deriving DecidableEq

def Tag.closing : Tag → Closing
  | .paragraph => .paragraph
  | .heading level => .heading level
  | .blockQuote => .blockQuote
  | .codeBlock _ => .codeBlock
  | .htmlBlock => .htmlBlock
  | .list first => .list first.isSome
  | .item => .item
  | .table _ => .table
  | .tableHead => .tableHead
  | .tableRow => .tableRow
  | .tableCell => .tableCell
  | .emphasis => .emphasis
  | .strong => .strong
  | .strikethrough => .strikethrough
  | .link _ => .link
  | .image _ => .image

inductive Event where
  | opening (tag : Tag)
  | closing (tag : Closing)
  | text (text : String)
  | code (text : String)
  /-- Markup of an HTML block. -/
  | html (raw : String)
  | inlineHtml (raw : String)
  | softBreak
  | hardBreak
  | rule
  | task (checked : Bool)
  deriving DecidableEq

/-- The events of an element. -/
def Event.element (tag : Tag) (content : List Event) : List Event :=
  .opening tag :: (content ++ [.closing tag.closing])

end CitedChat.Markdown
