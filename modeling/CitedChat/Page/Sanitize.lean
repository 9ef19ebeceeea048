import CitedChat.Markdown.Event
import CitedChat.Page.Citation

/-!
Making the events of an answer fit for a page. HTML in the answer becomes text; a link whose text
is a number becomes a citation; other links and images are kept if their address is safe, and
otherwise only their content is. An address without a scheme leads within the page or the site and
is safe; one with a scheme is safe if the scheme is one of a few.
-/

set_option autoImplicit false

namespace CitedChat.Page

open Markdown

/-! ### Addresses -/

def safeSchemes : List String := ["http", "https", "mailto"]

/-- A path, a query or a fragment begins before the first colon. -/
def isRelative (beforeColon : List Char) : Bool :=
  beforeColon.any fun c => c == '/' || c == '?' || c == '#'

def isSafeAddress (url : String) : Bool :=
  let cs := Text.trimList url.toList
  let scheme := cs.takeWhile (· != ':')
  scheme.length == cs.length || isRelative scheme ||
    safeSchemes.contains (String.ofList (scheme.map Char.toLower))

/-! ### Links and images -/

/-- The text and the code among events. -/
def plainText (events : List Event) : String :=
  String.join (events.map fun
    | .text text | .code text => text
    | _ => "")

/-- The anchor of a citation. One without a title of its own shows the passage of its source. -/
def citation (sources : List Source) (n : Nat) (title : String) : Event :=
  .inlineHtml
    (Citation.anchor n (if title.isEmpty then Citation.excerpt sources n else title))

/-- Two numbers in brackets, one behind the other, are read as one link: the second one is the
label. If the text does not define it, it is a citation of its own. -/
def labelCitation (sources : List Source) (link : Link) : List Event :=
  if link.kind = .full false then
    (Citation.ordinal? link.label).toList.map fun n => citation sources n ""
  else []

/-- What becomes of a link with the given content. -/
def finishLink (sources : List Source) (link : Link) (content : List Event) : List Event :=
  match Citation.ordinal? (plainText content) with
  | some n => citation sources n link.title :: labelCitation sources link
  | none => if isSafeAddress link.url then Event.element (.link link) content else content

def finishImage (link : Link) (content : List Event) : List Event :=
  if isSafeAddress link.url then Event.element (.image link) content else content

/-- An element that is open, with the events in it so far. -/
structure Pending where
  image : Bool
  link : Link
  content : Array Event := #[]

def Pending.finish (sources : List Source) (p : Pending) : List Event :=
  if p.image then finishImage p.link p.content.toList
  else finishLink sources p.link p.content.toList

structure Sanitizer where
  /-- The open links and images, innermost first. -/
  pending : List Pending := []
  /-- The events outside of them. -/
  out : Array Event := #[]

namespace Sanitizer

def append (s : Sanitizer) (events : List Event) : Sanitizer :=
  match s.pending with
  | [] => { s with out := s.out.appendList events }
  | p :: outer => { s with pending := { p with content := p.content.appendList events } :: outer }

def close (s : Sanitizer) (sources : List Source) : Sanitizer :=
  match s.pending with
  | [] => s
  | p :: outer => { s with pending := outer }.append (p.finish sources)

def step (sources : List Source) (s : Sanitizer) : Event → Sanitizer
  | .html raw | .inlineHtml raw => s.append [.text raw]
  | .opening (.link link) => { s with pending := { image := false, link } :: s.pending }
  | .opening (.image link) => { s with pending := { image := true, link } :: s.pending }
  | .closing .link | .closing .image => s.close sources
  | event => s.append [event]

/-- All events; of elements that are still open the content is kept, outermost first. -/
def finish (s : Sanitizer) : List Event :=
  s.out.toList ++ s.pending.reverse.flatMap fun p => p.content.toList

end Sanitizer

def sanitize (sources : List Source) (events : List Event) : List Event :=
  (events.foldl (Sanitizer.step sources) {}).finish

end CitedChat.Page
