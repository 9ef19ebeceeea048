import CitedChat.Markdown.Scan

/-!
The text of a paragraph, a heading or a table cell, before its markup is read. Of each character it
is kept what it is there for: some only mark the containers that a line is in, or indent it, or
escape a bar in a table. Each construct says which of these it sees.
-/

set_option autoImplicit false

namespace CitedChat.Markdown

inductive Layer where
  | text
  /-- Marks at the beginning of a line that belong to the containers around it. -/
  | marker
  | indent
  /-- A backslash that keeps a bar from ending a table cell. -/
  | barEscape
  deriving DecidableEq

structure Glyph where
  char : Char
  layer : Layer
  index : Nat

/-- Glyphs by ascending index. -/
abbrev Content := List Glyph

namespace Content

def ofLayers (chars : List (Layer × Char)) : Content :=
  chars.zipIdx.map fun ((layer, char), index) => ⟨char, layer, index⟩

/-- A single line. -/
def ofChars (cs : List Char) : Content :=
  ofLayers (cs.map (.text, ·))

def chars (content : Content) : List Char :=
  content.map Glyph.char

def string (content : Content) : String :=
  String.ofList content.chars

/-- The text proper. -/
def text (content : Content) : Content :=
  content.filter (·.layer == .text)

/-- The text with its indentation. -/
def indented (content : Content) : Content :=
  content.filter fun g => g.layer == .text || g.layer == .indent

/-- All but the marks of containers. -/
def unmarked (content : Content) : Content :=
  content.filter (·.layer != .marker)

/-- The content from an index on. -/
def «from» (content : Content) (index : Nat) : Content :=
  content.dropWhile (·.index < index)

/-- The content from the first index up to the second, which is left out. -/
def between (content : Content) (first last : Nat) : Content :=
  (content.from first).takeWhile (·.index < last)

/-- Where the content begins that is left after all else of `view` has been read. -/
def indexAfter (view : Content) (left : Nat) : Nat :=
  match view.drop (view.length - left), view.getLast? with
  | g :: _, _ => g.index
  | [], some last => last.index + 1
  | [], none => 0

end Content

end CitedChat.Markdown
