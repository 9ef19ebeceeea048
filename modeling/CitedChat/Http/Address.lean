import CitedChat.Text.Utf8

/-!
Web addresses. Reading one brings it into its normal form: the host in lower case, a socket number
only if it is not the scheme's own, no dot segments, and what a path, a query or a fragment cannot
hold written in percent encoding.
-/

set_option autoImplicit false

namespace CitedChat

structure Address where
  secure : Bool
  /-- The host, and the number of its socket if that has to be said. -/
  authority : String
  /-- Begins with a slash. -/
  path : String
  query : Option String := none
  fragment : Option String := none
  deriving DecidableEq

namespace Address

def isControl (c : Char) : Bool :=
  c.toNat < 0x20 || c.toNat == 0x7f

/-- Writes what is not plain in percent encoding. -/
def encode (special : String) (cs : List Char) : List Char :=
  cs.flatMap fun c =>
    if isControl c || 0x7f < c.toNat || special.toList.contains c then Text.percentChar c else [c]

def encodePath (cs : List Char) : List Char :=
  encode " \"#<>?\x60\x7b\x7d" cs

def encodeQuery (cs : List Char) : List Char :=
  encode " \"#<>'" cs

def encodeFragment (cs : List Char) : List Char :=
  encode " \"<>\x60" cs

/-! ### The host -/

def isForbiddenInHost (c : Char) : Bool :=
  isControl c || " #%/:<>?@[\\]^|".toList.contains c

/-- A socket number with its colon; it is left out if it is empty or the scheme's own. -/
def socket? (secure : Bool) (cs : List Char) : Option (List Char) :=
  if cs.all Char.isDigit then
    let n := Nat.ofDigitChars 10 cs 0
    if 0xffff < n then none
    else if cs.isEmpty || n == (if secure then 443 else 80) then some []
    else some (':' :: Nat.toDigits 10 n)
  else none

/-- A host, and what follows it from the colon on. A host in brackets may hold colons. -/
def host? (cs : List Char) : Option (List Char × List Char) :=
  match cs with
  | '[' :: rest =>
    match rest.dropWhile (· ≠ ']') with
    | _ :: behind => some ('[' :: rest.takeWhile (· ≠ ']') ++ [']'], behind)
    | [] => none
  | _ =>
    let host := (cs.takeWhile (· ≠ ':')).map Char.toLower
    if host.isEmpty || host.any isForbiddenInHost then none
    else some (host, cs.dropWhile (· ≠ ':'))

/-- The host and the socket number without what names a user. -/
def authority? (secure : Bool) (cs : List Char) : Option (List Char) := do
  match ← host? (cs.reverse.takeWhile (· ≠ '@')).reverse with
  | (host, []) => pure host
  | (host, ':' :: digits) => pure (host ++ (← socket? secure digits))
  | _ => none

/-! ### The path -/

/-- The pieces between slashes; there is at least one. -/
def segments : List Char → List (List Char)
  | [] => [[]]
  | c :: rest =>
    if c == '/' || c == '\\' then [] :: segments rest
    else
      match segments rest with
      | [] => [[c]]
      | piece :: pieces => (c :: piece) :: pieces

/-- A dot may be written as its code. -/
def plainDots : List Char → List Char
  | '%' :: '2' :: 'e' :: rest => '.' :: plainDots rest
  | '%' :: '2' :: 'E' :: rest => '.' :: plainDots rest
  | c :: rest => c :: plainDots rest
  | [] => []

/-- Drops the dot segments; `done` holds the segments before, last one first. -/
def withoutDots (done : List (List Char)) : List (List Char) → List (List Char)
  | [] => done.reverse
  | piece :: rest =>
    let dots := plainDots piece
    let ending := if rest.isEmpty then [[]] else []
    if dots == ['.', '.'] then withoutDots (ending ++ done.drop 1) rest
    else if dots == ['.'] then withoutDots (ending ++ done) rest
    else withoutDots (encodePath piece :: done) rest

def normalPath (cs : List Char) : List Char :=
  (withoutDots [] (segments (cs.drop 1))).flatMap ('/' :: ·)

/-! ### Whole addresses -/

def isNeither (a b c : Char) : Bool :=
  c ≠ a && c ≠ b

/-- An address behind its scheme and the slashes that follow. -/
def ofRest? (secure : Bool) (cs : List Char) : Option Address := do
  let isInAuthority (c : Char) : Bool := !"/\\?#".toList.contains c
  let authority ← authority? secure (cs.takeWhile isInAuthority)
  let rest := cs.dropWhile isInAuthority
  let behind := rest.dropWhile (isNeither '?' '#')
  let query := behind.takeWhile (· ≠ '#')
  let fragment := behind.dropWhile (· ≠ '#')
  pure
    { secure
      authority := String.ofList authority
      path := String.ofList (normalPath (rest.takeWhile (isNeither '?' '#')))
      query := if query.isEmpty then none else some (String.ofList (encodeQuery (query.drop 1)))
      fragment :=
        if fragment.isEmpty then none
        else some (String.ofList (encodeFragment (fragment.drop 1))) }

/-- Line ends and tabs do not count, and it does not matter how many slashes follow the scheme. -/
def ofText? (text : String) : Option Address :=
  let cs := text.toList.filter fun c => c ≠ '\t' && c ≠ '\n' && c ≠ '\r'
  let slashless (cs : List Char) := cs.dropWhile fun c => c == '/' || c == '\\'
  match cs with
  | 'h' :: 't' :: 't' :: 'p' :: ':' :: rest => ofRest? false (slashless rest)
  | 'h' :: 't' :: 't' :: 'p' :: 's' :: ':' :: rest => ofRest? true (slashless rest)
  | _ => none

/-- What a request names: the path and the query. -/
def target (a : Address) : String :=
  a.path ++ (a.query.map ("?" ++ ·)).getD ""

def text (a : Address) : String :=
  (if a.secure then "https://" else "http://") ++ a.authority ++ a.target ++
    (a.fragment.map ("#" ++ ·)).getD ""

end Address

end CitedChat
