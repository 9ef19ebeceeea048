import CitedChat.Markdown.Scan

/-!
Raw HTML: tags, comments, processing instructions, declarations and CDATA sections. Each reader
takes the text from the opening bracket on and gives what follows the closing one.
-/

set_option autoImplicit false

namespace CitedChat.Markdown.RawHtml

/-- Blanks inside a tag; only some tags may go over several lines. -/
def skipBlanks (lines : Bool) (cs : List Char) : List Char :=
  cs.dropWhile fun c => isSpacing c || (lines && isNewline c)

def endsUnquoted (c : Char) : Bool :=
  "\"'=<>` ".toList.contains c || isNewline c

def attributeValue? (lines : Bool) (cs : List Char) : Option (List Char) :=
  match cs with
  | [] => none
  | q :: rest =>
    if q == '"' || q == '\'' then
      match rest.dropWhile fun c => c != q && (lines || !isNewline c) with
      | c :: rest => if c == q then some rest else none
      | [] => none
    else if endsUnquoted q then none
    else some (cs.dropWhile (!endsUnquoted ·))

def isNameStart (c : Char) : Bool :=
  c.isAlpha || c == '_' || c == ':'

def isNamePart (c : Char) : Bool :=
  c.isAlphanum || "_.:-".toList.contains c

/-- An attribute with its value, if it has one. -/
def attribute? (lines : Bool) (cs : List Char) : Option (List Char) :=
  match cs with
  | [] => none
  | c :: rest =>
    if isNameStart c then
      let afterName := rest.dropWhile isNamePart
      match skipBlanks lines afterName with
      | '=' :: value => attributeValue? lines (skipBlanks lines value)
      | _ => some afterName
    else none

def closeBracket? : List Char → Option (List Char)
  | '>' :: rest => some rest
  | _ => none

/-- The attributes of an opening tag, each behind a blank, and the end of the tag. The number
bounds how many attributes there are. -/
def attributes? (lines : Bool) : Nat → List Char → Option (List Char)
  | 0, _ => none
  | bound + 1, cs =>
    match skipBlanks lines cs with
    | '/' :: rest => closeBracket? rest
    | '>' :: rest => some rest
    | rest =>
      if rest.length == cs.length then none
      else attribute? lines rest >>= attributes? lines bound

def tagName? (cs : List Char) : Option (List Char) :=
  match cs with
  | c :: rest => if c.isAlpha then some (rest.dropWhile fun c => c.isAlphanum || c == '-') else none
  | [] => none

def tag? (lines : Bool) (cs : List Char) : Option (List Char) :=
  match cs with
  | '<' :: '/' :: rest => tagName? rest >>= fun rest => closeBracket? (skipBlanks lines rest)
  | '<' :: rest => tagName? rest >>= fun rest => attributes? lines (rest.length + 1) rest
  | _ => none

/-- What is not a tag and may hold any text: it goes on to the first occurrence of its end. -/
def literal? (cs : List Char) : Option (List Char) :=
  match cs with
  | '<' :: '?' :: rest => (splitAfter "?>".toList rest).map (·.2)
  | '<' :: '!' :: '-' :: '-' :: rest => (splitAfter "-->".toList ('-' :: '-' :: rest)).map (·.2)
  | '<' :: '!' :: '[' :: rest =>
    if "CDATA[".toList.isPrefixOf rest then
      (splitAfter "]]>".toList (rest.drop "CDATA[".length)).map (·.2)
    else none
  | '<' :: '!' :: c :: rest =>
    if c.isAlpha then (splitAfter ">".toList rest).map (·.2) else none
  | _ => none

/-! ### Blocks -/

/-- The word that ends a block of literal HTML. -/
def literalBlockEnd? (cs : List Char) : Option String :=
  match cs with
  | '<' :: rest =>
    let element? := ["pre", "style", "script", "textarea"].find? fun name =>
      startsWithCaseless name rest &&
        (match rest.drop name.length with
          | [] => true
          | c :: _ => isWhite c || c == '>')
    match element? with
    | some name => some ("</" ++ name ++ ">")
    | none =>
      if "!--".toList.isPrefixOf rest then some "-->"
      else if "?".toList.isPrefixOf rest then some "?>"
      else if "![CDATA[".toList.isPrefixOf rest then some "]]>"
      else
        match rest with
        | '!' :: c :: _ => if c.isAlpha then some ">" else none
        | _ => none
  | _ => none

/-- The elements whose tags begin a block wherever they stand. -/
def blockElements : List String :=
  ["address", "article", "aside", "base", "basefont", "blockquote", "body", "caption", "center",
   "col", "colgroup", "dd", "details", "dialog", "dir", "div", "dl", "dt", "fieldset",
   "figcaption", "figure", "footer", "form", "frame", "frameset", "h1", "h2", "h3", "h4", "h5",
   "h6", "head", "header", "hr", "html", "iframe", "legend", "li", "link", "main", "menu",
   "menuitem", "nav", "noframes", "ol", "optgroup", "option", "p", "param", "search", "section",
   "summary", "table", "tbody", "td", "tfoot", "th", "thead", "title", "tr", "track", "ul"]

/-- A tag of a block element, which need not be complete. -/
def beginsElementBlock (cs : List Char) : Bool :=
  match cs with
  | '<' :: rest =>
    let rest := match rest with
      | '/' :: rest => rest
      | _ => rest
    let name := rest.takeWhile Char.isAlphanum
    blockElements.contains (String.ofList (name.map Char.toLower)) &&
      (match rest.drop name.length with
        | [] => true
        | '/' :: '>' :: _ => true
        | c :: _ => c == ' ' || c == '\t' || isNewline c || c == '>')
  | _ => false

/-- A complete tag of any other element with nothing behind it on the line. -/
def beginsTagBlock (cs : List Char) : Bool :=
  (tag? false cs).any isBlankLine

end CitedChat.Markdown.RawHtml
