import CitedChat.Markdown.Autolink
import CitedChat.Markdown.Emphasis
import CitedChat.Markdown.RawHtml
import CitedChat.Markdown.Target

/-!
Contents as events. Code, raw HTML and links are settled from left to right; a closing bracket
looks back to the last opening one that waits, and the text between the two becomes a link or stays
text. Runs of emphasis are matched after that, within each link by itself.
-/

set_option autoImplicit false

namespace CitedChat.Markdown

/-- What links with labels lead to: the labels that the text defines, and a rule for others. -/
structure Labels where
  definitions : Definitions := []
  unknown : String → Option String := fun _ => none

/-- The target of a label, and whether the text defines it. -/
def Labels.find? (labels : Labels) (label : String) : Option (Target × Bool) :=
  match labels.definitions.find? label with
  | some target => some (target, true)
  | none => (labels.unknown label).map fun url => (⟨url, ""⟩, false)

namespace Inline

/-- An opening bracket that waits for its partner. -/
structure Opening where
  image : Bool
  /-- A bracket around a link cannot make a link any more. -/
  live : Bool := true
  /-- Where the text after the bracket begins. -/
  inside : Nat
  /-- The pieces before the bracket, in reverse. -/
  before : List Piece

structure State where
  openings : List Opening := []
  /-- The pieces after the innermost bracket, in reverse. -/
  current : List Piece := []
  /-- The closing bracket of a label that was looked up in vain. -/
  tried : Option Nat := none
  /-- How much text labels may still be replaced with. -/
  allowance : Nat

def textPiece (text : String) : Piece :=
  .events [.text text]

def Opening.release (inner : List Piece) (opening : Opening) : List Piece :=
  inner ++ textPiece (if opening.image then "![" else "[") :: opening.before

namespace State

def push (s : State) (piece : Piece) : State :=
  { s with current := piece :: s.current }

def pushText (s : State) (text : String) : State :=
  s.push (textPiece text)

def pushEvents (s : State) (events : List Event) : State :=
  s.push (.events events)

/-- All pieces in order; brackets without a partner are text. -/
def pieces (s : State) : List Piece :=
  (s.openings.foldl Opening.release s.current).reverse

end State

/-! ### Angle brackets -/

/-- The events of an address or a piece of HTML, and where the text goes on. -/
def angle? (content : Content) (start : Nat) : Option (List Event × Nat) :=
  let raw := content.from start
  match Autolink.read? (raw.chars.drop 1) with
  | some (link, text, rest) =>
    some (Event.element (.link link) [.text text], raw.indexAfter rest.length)
  | none =>
    match RawHtml.literal? raw.chars with
    | some rest =>
      let last := raw.indexAfter rest.length
      some ([.inlineHtml (raw.between start last).string], last)
    | none =>
      let raw := raw.unmarked
      (RawHtml.tag? true raw.chars).map fun rest =>
        let last := raw.indexAfter rest.length
        ([.inlineHtml (raw.between start last).string], last)

/-! ### Code -/

/-- Lines joined by blanks. -/
def joinLines : List Char → List Char
  | [] => []
  | '\r' :: '\n' :: rest => ' ' :: joinLines rest
  | c :: rest => (if isNewline c then ' ' else c) :: joinLines rest

/-- A blank at either end is left out, unless there are only blanks. -/
def stripCode (cs : List Char) : List Char :=
  if cs.head? == some ' ' && cs.getLast? == some ' ' && !cs.all (· == ' ') then
    (cs.drop 1).dropLast
  else cs

def codeText (content : Content) (first last : Nat) : String :=
  String.ofList (stripCode (joinLines (content.indented.between first last).chars))

def isCodeEnd (count : Nat) (token : Token) : Bool :=
  match token.kind with
  | .backticks n _ => n == count
  | _ => false

/-- The events of a run of backticks, and the tokens after them. A backslash takes the first one of
the run away. -/
def code (content : Content) (token : Token) (count : Nat) (escaped : Bool) (rest : List Token) :
    List Event × List Token :=
  let size := if escaped then count - 1 else count
  match if size == 0 then [] else rest.dropWhile (!isCodeEnd size ·) with
  | [] => ([Emphasis.literal '`' count], rest)
  | close :: after =>
    let code := Event.code (codeText content token.last close.first)
    (if escaped then [.text "`", code] else [code], after)

/-! ### Brackets -/

/-- How the text after a closing bracket names a label. -/
inductive Naming where
  /-- By the label, whose closing bracket stands before the given index. -/
  | label (label : String) (last : Nat)
  /-- By a pair of empty brackets. -/
  | empty
  | none

/-- Only a token boundary can begin a label. -/
def naming (content : Content) (rest : List Token) : Naming :=
  match rest with
  | [] => .none
  | token :: _ =>
    let tail := (content.from token.first).text
    match tail.chars with
    | '[' :: ']' :: _ => .empty
    | '[' :: inner =>
      match label? inner with
      | some (label, left) => .label label (tail.indexAfter left.length)
      | none => .none
    | _ => .none

/-- The text between two brackets as a label. -/
def ownLabel? (content : Content) (inside close : Nat) : Option String :=
  match label? ((content.between inside close).text.chars ++ [']']) with
  | some (label, []) => some label
  | _ => none

/-- The innermost bracket and the text after it become a link. Brackets around a link are not live
any more. -/
def State.enclose (s : State) (opening : Opening) (outer : List Opening) (link : Link) : State :=
  let content := Emphasis.events s.current.reverse
  let tag := if opening.image then Tag.image link else .link link
  { s with
    openings :=
      if opening.image then outer else outer.map fun o => { o with live := o.live && o.image }
    current := .events (Event.element tag content) :: opening.before }

/-- The innermost bracket and the closing one stay text. -/
def State.abandon (s : State) (opening : Opening) (outer : List Opening) : State :=
  { s with openings := outer, current := textPiece "]" :: opening.release s.current }

/-- A link by its label, if there is an allowance left for it. -/
def State.refer (s : State) (labels : Labels) (opening : Opening) (outer : List Opening)
    (kind : Bool → LinkKind) (label : String) : Option State :=
  if s.allowance == 0 then none
  else
    (labels.find? label).map fun (target, defined) =>
      let link : Link := { kind := kind defined, url := target.url, title := target.title, label }
      let cost := target.url.utf8ByteSize + target.title.utf8ByteSize
      { s with allowance := s.allowance - cost }.enclose opening outer link

/-- A closing bracket, and the tokens that are left after it. -/
def close (content : Content) (labels : Labels) (s : State) (token : Token) (rest : List Token) :
    State × List Token :=
  match s.openings with
  | [] => (s.pushText "]", rest)
  | opening :: outer =>
    if !opening.live then (s.abandon opening outer, rest)
    else
      let view := (content.from token.last).text
      match target? view.chars with
      | some (url, title, left) =>
        (s.enclose opening outer { kind := .inline, url, title },
          Token.dropBefore (view.indexAfter left.length) rest)
      | none =>
        let known (s : State) (kind : Bool → LinkKind) (label? : Option String)
            (after : List Token) : State × List Token :=
          match label?.bind fun label => s.refer labels opening outer kind label with
          | some s => (s, after)
          | none => (s.abandon opening outer, rest)
        let own : Option String :=
          if s.tried == some token.first then none
          else ownLabel? content opening.inside token.first
        match naming content rest with
        | .label label last =>
          match rest.dropWhile (·.last < last) with
          | [] => (s.abandon opening outer, rest)
          | bracket :: after =>
            known { s with tried := some bracket.first } .full (some label) after
        | .empty => known s .collapsed own (rest.drop 2)
        | .none => known s .shortcut own rest

/-- Settles all but the runs of emphasis; the number bounds the steps. -/
def read (content : Content) (labels : Labels) : Nat → State → List Token → State
  | 0, s, _ => s
  | _, s, [] => s
  | bound + 1, s, token :: rest =>
    match token.kind with
    | .text glyphs => read content labels bound (s.pushText (Content.string glyphs)) rest
    | .value text => read content labels bound (s.pushText (String.ofList text)) rest
    | .run run => read content labels bound (s.push (.run run)) rest
    | .softBreak => read content labels bound (s.pushEvents [.softBreak]) rest
    | .hardBreak => read content labels bound (s.pushEvents [.hardBreak]) rest
    | .angle =>
      match angle? content token.first with
      | some (events, last) =>
        read content labels bound (s.pushEvents events) (Token.dropBefore last rest)
      | none => read content labels bound (s.pushText "<") rest
    | .backticks count escaped =>
      let (events, rest) := code content token count escaped rest
      read content labels bound (s.pushEvents events) rest
    | .bracket image =>
      let opening : Opening := { image, inside := token.last, before := s.current }
      read content labels bound { s with openings := opening :: s.openings, current := [] } rest
    | .closingBracket =>
      let (s, rest) := close content labels s token rest
      read content labels bound s rest

/-- The events of a content, and what is left of the allowance for labels. -/
def events (labels : Labels) (allowance : Nat) (content : Content) : List Event × Nat :=
  let tokens := Token.all content
  let s := read content labels (tokens.length + 1) { allowance } tokens
  (Emphasis.events s.pieces, s.allowance)

end Inline

end CitedChat.Markdown
