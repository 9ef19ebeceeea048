import CitedChat.Html.Escape
import CitedChat.Text.Characters
import CitedChat.Transcript.Turn
import CitedChat.Word

/-!
Citations in an answer: a number that refers to a source becomes a link to the source's place on
the page, with the passage of the source as its title.
-/

set_option autoImplicit false

namespace CitedChat.Page.Citation

/-- The class of the links. -/
def className : String := "citation_link"

/-- The number that a text consists of, blanks around it aside. -/
def ordinal? (text : String) : Option Nat :=
  Word.ofDigits? (Text.trimList text.toList)

def address (n : Nat) : String :=
  "#citation_" ++ toString n

def anchor (n : Nat) (title : String) : String :=
  "<a href=\"" ++ address n ++ "\" class=\"" ++ className ++ "\"" ++
    (if title.isEmpty then "" else " title=\"" ++ Html.escape title ++ "\"") ++ ">" ++
    toString n ++ "</a>"

/-- The passage of the first source with the number. -/
def excerpt (sources : List Source) (n : Nat) : String :=
  ((sources.find? (·.ordinal == n)).map Source.originText).getD ""

end CitedChat.Page.Citation
