import CitedChat.Html.Escape
import CitedChat.Markdown.Event

/-!
Events as HTML. Blocks stand on lines of their own. The content of an image becomes its
description, which is a text: its tags are left out.
-/

set_option autoImplicit false

namespace CitedChat.Html

open Markdown

/-- Where the writer is: in a description it counts the openings that are not closed yet, and
keeps the image's title, which follows. -/
inductive Place where
  | body
  | description (depth : Nat) (title : String)

structure Writer where
  written : String := ""
  /-- Whether a line begins here. -/
  fresh : Bool := true
  place : Place := .body
  inTableHead : Bool := true
  alignments : List Markdown.Alignment := []
  column : Nat := 0

namespace Writer

/-- Writes markup. -/
def put (w : Writer) (markup : String) : Writer :=
  if markup.isEmpty then w
  else { w with written := w.written ++ markup, fresh := markup.endsWith "\n" }

/-- Writes markup that leaves the beginning of lines out of account. -/
def putInside (w : Writer) (markup : String) : Writer :=
  { w with written := w.written ++ markup }

/-- Writes markup on a line of its own. -/
def putLine (w : Writer) (markup : String) : Writer :=
  w.put (if w.fresh then markup else "\n" ++ markup)

/-- Writes a text by the given rule. -/
def putText (w : Writer) (rule : String → String) (text : String) : Writer :=
  { w with written := w.written ++ rule text, fresh := text.endsWith "\n" }

def titleAttribute (title : String) : String :=
  if title.isEmpty then "" else "\" title=\"" ++ escape title

/-- The language is the first word of the info string. -/
def language (info : Option String) : String :=
  String.ofList ((info.getD "").toList.takeWhile (· != ' '))

def alignmentAttribute : Markdown.Alignment → String
  | .none => ""
  | .left => " style=\"text-align: left\""
  | .center => " style=\"text-align: center\""
  | .right => " style=\"text-align: right\""

def cellName (w : Writer) : String :=
  if w.inTableHead then "th" else "td"

def headingName (level : Nat) : String :=
  "h" ++ toString level

def openTag (w : Writer) : Tag → Writer
  | .paragraph => w.putLine "<p>"
  | .heading level => w.putLine ("<" ++ headingName level ++ ">")
  | .blockQuote => w.putLine "<blockquote>\n"
  | .codeBlock info =>
    let w := if w.fresh then w else w.put "\n"
    let language := language info
    if language.isEmpty then w.put "<pre><code>"
    else w.put ("<pre><code class=\"language-" ++ escape language ++ "\">")
  | .htmlBlock => w
  | .list none => w.putLine "<ul>\n"
  | .list (some 1) => w.putLine "<ol>\n"
  | .list (some first) => w.putLine ("<ol start=\"" ++ toString first ++ "\">\n")
  | .item => w.putLine "<li>"
  | .table alignments => { w with alignments }.put "<table>"
  | .tableHead => { w with inTableHead := true, column := 0 }.put "<thead><tr>"
  | .tableRow => { w with column := 0 }.put "<tr>"
  | .tableCell =>
    w.put ("<" ++ w.cellName ++ alignmentAttribute (w.alignments.getD w.column .none) ++ ">")
  | .emphasis => w.put "<em>"
  | .strong => w.put "<strong>"
  | .strikethrough => w.put "<del>"
  | .link link =>
    let scheme := if link.kind == .email then "mailto:" else ""
    w.put ("<a href=\"" ++ scheme ++ escapeAddress link.url ++ titleAttribute link.title ++ "\">")
  | .image link =>
    { w.put ("<img src=\"" ++ escapeAddress link.url ++ "\" alt=\"") with
      place := .description 0 link.title }

def closeTag (w : Writer) : Closing → Writer
  | .paragraph => w.put "</p>\n"
  | .heading level => w.put ("</" ++ headingName level ++ ">\n")
  | .blockQuote => w.put "</blockquote>\n"
  | .codeBlock => w.put "</code></pre>\n"
  | .htmlBlock => w
  | .list true => w.put "</ol>\n"
  | .list false => w.put "</ul>\n"
  | .item => w.put "</li>\n"
  | .table => w.put "</tbody></table>\n"
  | .tableHead => { w.put "</tr></thead><tbody>\n" with inTableHead := false }
  | .tableRow => w.put "</tr>\n"
  | .tableCell => { w.put ("</" ++ w.cellName ++ ">") with column := w.column + 1 }
  | .emphasis => w.put "</em>"
  | .strong => w.put "</strong>"
  | .strikethrough => w.put "</del>"
  | .link => w.put "</a>"
  | .image => w

def body (w : Writer) : Event → Writer
  | .opening tag => w.openTag tag
  | .closing tag => w.closeTag tag
  | .text text => w.putText escapeBody text
  | .code text => ((w.put "<code>").putInside (escapeBody text)).put "</code>"
  | .html raw => w.put raw
  | .inlineHtml raw => w.put raw
  | .softBreak => w.put "\n"
  | .hardBreak => w.put "<br />\n"
  | .rule => w.putLine "<hr />\n"
  | .task true => w.put "<input disabled=\"\" type=\"checkbox\" checked=\"\"/>\n"
  | .task false => w.put "<input disabled=\"\" type=\"checkbox\"/>\n"

def endDescription (w : Writer) (title : String) : Writer :=
  { w.put (titleAttribute title ++ "\" />") with place := .body }

def description (w : Writer) (depth : Nat) (title : String) : Event → Writer
  | .opening _ => { w with place := .description (depth + 1) title }
  | .closing _ =>
    match depth with
    | 0 => w.endDescription title
    | depth + 1 => { w with place := .description depth title }
  | .html _ => w
  | .text text | .code text | .inlineHtml text => w.putText escape text
  | .softBreak | .hardBreak | .rule => w.put " "
  | .task checked => w.put (if checked then "[x]" else "[ ]")

def write (w : Writer) (event : Event) : Writer :=
  match w.place with
  | .body => w.body event
  | .description depth title => w.description depth title event

/-- What is written; a description that is not closed ends here. -/
def finish (w : Writer) : String :=
  match w.place with
  | .body => w.written
  | .description _ title => (w.endDescription title).written

end Writer

def ofEvents (events : List Event) : String :=
  (events.foldl Writer.write {}).finish

end CitedChat.Html
