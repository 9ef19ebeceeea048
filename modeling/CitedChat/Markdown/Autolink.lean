import CitedChat.Markdown.Event

/-!
Addresses in angle brackets: a scheme with a path behind its colon, or a mailbox. A reader takes the
text after the opening bracket and gives the address with what follows the closing one.
-/

set_option autoImplicit false

namespace CitedChat.Markdown.Autolink

def isSchemePart (c : Char) : Bool :=
  c.isAlphanum || c == '.' || c == '-' || c == '+'

/-- A scheme has 2 to 32 characters. -/
def uri? (cs : List Char) : Option (List Char × List Char) :=
  let scheme := cs.takeWhile isSchemePart
  if !scheme.head?.any Char.isAlpha || scheme.length < 2 || 32 < scheme.length then none
  else
    match cs.drop scheme.length with
    | ':' :: path =>
      let path := path.takeWhile fun c => c != '>' && c != '<' && 0x20 < c.toNat
      let uri := scheme ++ ':' :: path
      match cs.drop uri.length with
      | '>' :: rest => some (uri, rest)
      | _ => none
    | _ => none

def isMailboxPart (c : Char) : Bool :=
  c.isAlphanum || ".!#$%&'*+/=?^_`\x7b|\x7d~-".toList.contains c

/-- A label of a host name has 1 to 63 letters, digits and hyphens, with no hyphen at its ends. -/
def isHostLabel (label : List Char) : Bool :=
  !label.isEmpty && label.length ≤ 63 && label.head? != some '-' && label.getLast? != some '-'

/-- The labels of a host name, which are separated by dots. -/
def hostLabels (cs : List Char) : List (List Char) :=
  go [] cs
where
  go (label : List Char) : List Char → List (List Char)
    | [] => [label.reverse]
    | c :: rest => if c == '.' then label.reverse :: go [] rest else go (c :: label) rest

def email? (cs : List Char) : Option (List Char × List Char) :=
  let mailbox := cs.takeWhile isMailboxPart
  match mailbox, cs.drop mailbox.length with
  | _ :: _, '@' :: rest =>
    let host := rest.takeWhile fun c => c.isAlphanum || c == '-' || c == '.'
    match rest.drop host.length with
    | '>' :: after =>
      if (hostLabels host).all isHostLabel then some (mailbox ++ '@' :: host, after) else none
    | _ => none
  | _, _ => none

/-- The link, the text that it shows, and what follows. -/
def read? (cs : List Char) : Option (Link × String × List Char) :=
  match uri? cs with
  | some (uri, rest) =>
    let uri := String.ofList uri
    some ({ kind := .address, url := uri }, uri, rest)
  | none =>
    (email? cs).map fun (email, rest) =>
      let email := String.ofList email
      ({ kind := .email, url := email }, email, rest)

end CitedChat.Markdown.Autolink
