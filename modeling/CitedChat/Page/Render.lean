import CitedChat.Html.Writer
import CitedChat.Markdown.Document
import CitedChat.Page.Sanitize

/-!
Answers, lists of sources and transcripts as HTML.
-/

set_option autoImplicit false

namespace CitedChat.Page

/-- A number in brackets is a citation without being defined. -/
def unknownLabel (label : String) : Option String :=
  (Citation.ordinal? label).map Citation.address

/-- An answer, whose text is Markdown, with the sources that it cites. -/
def renderAnswer (text : String) (sources : List Source) : String :=
  Html.ofEvents (sanitize sources (Markdown.events unknownLabel text))

def renderMarkdown (text : String) : String :=
  renderAnswer text []

/-- An entry of the list of sources, which citations lead to. -/
def renderSource (source : Source) : String :=
  let label := Html.escape source.citation
  "<li id=\"" ++ Html.escape source.anchor ++ "\">" ++
    (if isSafeAddress source.url then
      "<a href=\"" ++ Html.escapeAddress source.url ++ "\" title=\"" ++
        Html.escape source.originText ++ "\">" ++ label ++ "</a>"
    else label) ++
    "</li>\n"

def renderSources (sources : List Source) : String :=
  if sources.isEmpty then ""
  else "<ol class=\"sources\">\n" ++ String.join (sources.map renderSource) ++ "</ol>\n"

def renderTurn : Turn → String
  | .user text => "<div class=\"user_turn\">\n<p>" ++ Html.escape text ++ "</p>\n</div>\n"
  | .assistant text sources =>
    "<div class=\"assistant_turn\">\n" ++ renderAnswer text sources ++ renderSources sources ++
      "</div>\n"

def renderTranscript (turns : List Turn) : String :=
  String.join (turns.map renderTurn)

end CitedChat.Page
