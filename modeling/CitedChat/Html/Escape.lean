import CitedChat.Text.Utf8

/-!
Escaping for HTML. The body of an element, a quoted attribute and an address each have their own
rule, applied character by character.
-/

set_option autoImplicit false

namespace CitedChat.Html

def escapeBodyChar : Char → List Char
  | '&' => "&amp;".toList
  | '<' => "&lt;".toList
  | '>' => "&gt;".toList
  | c => [c]

def escapeChar : Char → List Char
  | '"' => "&quot;".toList
  | '\'' => "&#39;".toList
  | c => escapeBodyChar c

/-- The characters besides letters and digits that an address shows as they are. -/
def plainInAddress : List Char :=
  "!#$%()*+,-./:;=?@^_~".toList

/-- In an address everything that is not plain is written as its bytes, but `&` and the single
quote are written as entities. -/
def escapeAddressChar (c : Char) : List Char :=
  if c == '&' then "&amp;".toList
  else if c == '\'' then "&#x27;".toList
  else if c.isAlphanum || plainInAddress.contains c then [c]
  else Text.percentChar c

def escapeWith (rule : Char → List Char) (text : String) : String :=
  String.ofList (text.toList.flatMap rule)

theorem escapeWith_append (rule : Char → List Char) (first second : String) :
    escapeWith rule (first ++ second) = escapeWith rule first ++ escapeWith rule second := by
  simp [escapeWith]

/-- Text between tags. -/
def escapeBody (text : String) : String :=
  escapeWith escapeBodyChar text

/-- Text between tags or inside a quoted attribute. -/
def escape (text : String) : String :=
  escapeWith escapeChar text

def escapeAddress (url : String) : String :=
  escapeWith escapeAddressChar url

end CitedChat.Html
