/-!
Lines and blanks. A line ends at a line feed, at a carriage return, at the two together, or at the
end of the text.
-/

set_option autoImplicit false

namespace CitedChat.Markdown

/-- White space within a line. -/
def isSpacing (c : Char) : Bool :=
  c == ' ' || c == '\t' || c == '\x0b' || c == '\x0c'

def isNewline (c : Char) : Bool :=
  c == '\n' || c == '\r'

def isWhite (c : Char) : Bool :=
  isSpacing c || isNewline c

def skipSpacing (cs : List Char) : List Char :=
  cs.dropWhile isSpacing

/-- What follows the end of the line, if the line ends here. -/
def lineEnd? : List Char → Option (List Char)
  | [] => some []
  | '\n' :: rest => some rest
  | '\r' :: '\n' :: rest => some rest
  | '\r' :: rest => some rest
  | _ => none

/-- The end of the line, if it ends here, and what follows. -/
def splitLineEnd : List Char → List Char × List Char
  | '\r' :: '\n' :: rest => (['\r', '\n'], rest)
  | c :: rest => if isNewline c then ([c], rest) else ([], c :: rest)
  | [] => ([], [])

/-- What follows the line, if nothing else is left of it. -/
def blankLine? (cs : List Char) : Option (List Char) :=
  lineEnd? (skipSpacing cs)

def isBlankLine (cs : List Char) : Bool :=
  (blankLine? cs).isSome

/-- The rest of the line, and what follows its end. -/
def splitLine (cs : List Char) : List Char × List Char :=
  (cs.takeWhile (!isNewline ·),
    let rest := cs.dropWhile (!isNewline ·)
    (lineEnd? rest).getD rest)

/-- The text up to the next line feed and with it, and what follows. Blocks that are taken
literally are divided like this. -/
def splitFeed (cs : List Char) : List Char × List Char :=
  match cs.dropWhile (· != '\n') with
  | [] => (cs, [])
  | feed :: rest => (cs.takeWhile (· != '\n') ++ [feed], rest)

/-- How often the character is repeated at the beginning. -/
def runLength (c : Char) (cs : List Char) : Nat :=
  (cs.takeWhile (· == c)).length

/-- Drops what the test holds of from the end. -/
def dropEndWhile {α : Type} (test : α → Bool) (xs : List α) : List α :=
  (xs.reverse.dropWhile test).reverse

/-- What follows the first occurrence of a word, and what stands before and in it. -/
def splitAfter (word : List Char) : List Char → Option (List Char × List Char)
  | [] => if word.isEmpty then some ([], []) else none
  | c :: rest =>
    if word.isPrefixOf (c :: rest) then some (word, (c :: rest).drop word.length)
    else (splitAfter word rest).map fun (before, after) => (c :: before, after)

/-- A word at the beginning, its letters in either case. -/
def startsWithCaseless (word : String) (cs : List Char) : Bool :=
  (cs.take word.length).map Char.toLower == word.toList

end CitedChat.Markdown
