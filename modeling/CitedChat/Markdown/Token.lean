import CitedChat.Markdown.Content
import CitedChat.Markdown.Entity
import CitedChat.Text.Characters

/-!
The pieces of a content that its markup is made of. A token knows where it begins and ends; which
tokens take effect is decided later.
-/

set_option autoImplicit false

namespace CitedChat.Markdown

/-- A run of `*`, `_` or `~` that may open or close an emphasis. -/
structure Run where
  char : Char
  count : Nat
  canOpen : Bool
  canClose : Bool

inductive TokenKind where
  | text (glyphs : Content)
  /-- The value of a character reference. -/
  | value (text : List Char)
  | run (run : Run)
  | angle
  /-- `escaped` says that a backslash stands before the first. -/
  | backticks (count : Nat) (escaped : Bool)
  | bracket (image : Bool)
  | closingBracket
  | softBreak
  | hardBreak

structure Token where
  kind : TokenKind
  first : Nat
  /-- The index after the last glyph. -/
  last : Nat

/-- Whether a run between two characters, which are absent at the ends of a line, can open an
emphasis. -/
def canOpen (c : Char) (count : Nat) (before after : Option Char) : Bool :=
  match after with
  | none => false
  | some after =>
    !Text.isBlank after &&
      match before with
      | none => true
      | some before =>
        ((c == '*' || (c == '~' && count > 1)) && !Text.isPunctuation after) ||
          (c == '~' && before == '~' && !Text.isPunctuation after) ||
          Text.isBlank before || Text.isPunctuation before

def canClose (c : Char) (count : Nat) (before after : Option Char) : Bool :=
  match before with
  | none => false
  | some before =>
    !Text.isBlank before &&
      match after with
      | none => true
      | some after =>
        ((c == '*' || (c == '~' && count > 1)) && !Text.isPunctuation before) ||
          (c == '~' && before == '~') ||
          Text.isBlank after || Text.isPunctuation after

namespace Token

/-- A text token of glyphs given in reverse. -/
def ofText (reversed : Content) : List Token :=
  match reversed.getLast?, reversed with
  | some first, last :: _ => [⟨.text reversed.reverse, first.index, last.index + 1⟩]
  | _, _ => []

def ofGlyphs (kind : TokenKind) (glyphs : Content) : Token :=
  match glyphs.head?, glyphs.getLast? with
  | some first, some last => ⟨kind, first.index, last.index + 1⟩
  | _, _ => ⟨kind, 0, 0⟩

def isSpacingGlyph (g : Glyph) : Bool :=
  isSpacing g.char

/-- How often the character is repeated at the beginning. -/
def runLength (c : Char) (content : Content) : Nat :=
  (content.takeWhile (·.char == c)).length

/-- The glyphs of the line end at the beginning. -/
def lineEndLength : Content → Nat
  | a :: b :: _ => if a.char == '\r' && b.char == '\n' then 2 else 1
  | _ => 1

/-- No name of a character reference is longer. -/
def referenceLength : Nat := 40

/-- What the next glyphs of the text are. -/
inductive Move where
  /-- So many glyphs of plain text. -/
  | plain (length : Nat)
  /-- A backslash that goes, and a character that is plain because of it. -/
  | escape
  /-- A token of so many glyphs, after some that go. -/
  | token (skip : Nat) (kind : TokenKind) (length : Nat)
  /-- A line break of so many glyphs. -/
  | lineBreak (kind : TokenKind) (length : Nat)

/-- The run of a character at the beginning of the glyphs, if it may be of an emphasis. -/
def runMove (before : Option Char) (c : Char) (glyphs : Content) : Move :=
  let count := runLength c glyphs
  let after := (glyphs.drop count).head?.map Glyph.char
  let run : Run := ⟨c, count, canOpen c count before after, canClose c count before after⟩
  if (run.canOpen || run.canClose) && (c != '~' || count ≤ 2) then .token 0 (.run run) count
  else .plain count

def escapeMove (rest : Content) : Move :=
  match rest with
  | [] => .plain 1
  | e :: _ =>
    if isNewline e.char then .lineBreak .hardBreak (1 + lineEndLength rest)
    else if e.char == '`' then
      let count := runLength '`' rest
      .token 1 (.backticks count true) count
    else if Text.isAsciiPunctuation e.char then .escape
    else .plain 1

/-- The move at a glyph. `before` is the character before it on its line, `done` holds the glyphs
of the text under way in reverse, `rest` the glyphs after it. -/
def move (before : Option Char) (done : Content) (g : Glyph) (rest : Content) : Move :=
  let next := rest.head?.map Glyph.char
  match g.char with
  | '\n' | '\r' =>
    let isHard := (done.takeWhile isSpacingGlyph).length ≥ 2
    .lineBreak (if isHard then .hardBreak else .softBreak) (lineEndLength (g :: rest))
  | '\\' => escapeMove rest
  | '<' => if next == some '\\' then .plain 1 else .token 0 .angle 1
  | '!' => if next == some '[' then .token 0 (.bracket true) 2 else .plain 1
  | '[' => .token 0 (.bracket false) 1
  | ']' => .token 0 .closingBracket 1
  | '`' =>
    let count := runLength '`' (g :: rest)
    .token 0 (.backticks count false) count
  | '&' =>
    match reference? (Content.chars (rest.take referenceLength)) with
    | some (value, length) => .token 0 (.value value) (length + 1)
    | none => .plain 1
  | '*' => runMove before '*' (g :: rest)
  | '_' => runMove before '_' (g :: rest)
  | '~' => runMove before '~' (g :: rest)
  | _ => .plain 1

/-- The tokens of the text proper; the number bounds the steps. Blanks at the end of a line do not
count. -/
def scan : Nat → Option Char → Content → Content → List Token
  | 0, _, done, _ => ofText done
  | _, _, done, [] => ofText (done.dropWhile isSpacingGlyph)
  | bound + 1, before, done, g :: rest =>
    let glyphs := g :: rest
    match move before done g rest with
    | .plain length =>
      scan bound (some g.char) ((glyphs.take length).reverse ++ done) (glyphs.drop length)
    | .escape =>
      ofText done ++ scan bound (rest.head?.map Glyph.char) (rest.take 1) (rest.drop 1)
    | .token skip kind length =>
      let glyphs := glyphs.drop skip
      ofText done ++ ofGlyphs kind (glyphs.take length) ::
        scan bound (glyphs.head?.map Glyph.char) [] (glyphs.drop length)
    | .lineBreak kind length =>
      let done := if g.char == '\\' then done else done.dropWhile isSpacingGlyph
      ofText done ++ ofGlyphs kind (glyphs.take length) :: scan bound none [] (glyphs.drop length)

def all (content : Content) : List Token :=
  let text := content.text
  scan (text.length + 1) none [] text

/-- The token without what stands before an index. -/
def trimBefore (index : Nat) (token : Token) : Token :=
  if token.first < index then
    match token.kind with
    | .text glyphs => ⟨.text (glyphs.from index), index, token.last⟩
    | kind => ⟨kind, index, token.last⟩
  else token

/-- The tokens from an index on. -/
def dropBefore (index : Nat) (tokens : List Token) : List Token :=
  match tokens.dropWhile (·.last ≤ index) with
  | [] => []
  | token :: rest => token.trimBefore index :: rest

end Token

end CitedChat.Markdown
