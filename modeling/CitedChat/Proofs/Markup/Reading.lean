/-!
Reading HTML back. A document is a list of tags with the text before each, and the text behind the
last one. The reader goes through a text character by character, as a browser does, but it refuses
whatever a browser would have to mend: an angle bracket or a quote in a text or in the value of an
attribute ends the reading. So it accepts exactly the documents without such characters in their
texts, and gives each of them back from its written form (`read_eq_some_iff`).
-/

set_option autoImplicit false

namespace CitedChat.Markup

/-- The characters that tags are made with. -/
def isMarkup (c : Char) : Bool :=
  c == '<' || c == '>' || c == '"'

/-- Text without markup. -/
def isPlain (text : String) : Bool :=
  text.toList.all (!isMarkup ·)

theorem isPlain_append (first second : String) :
    isPlain (first ++ second) = (isPlain first && isPlain second) := by
  simp [isPlain]

/-- A name of an element or of an attribute. -/
def isName (name : String) : Bool :=
  name != "" && name.toList.all Char.isAlphanum

structure Attribute where
  key : String
  value : String
  deriving DecidableEq

inductive Tag where
  | opening (name : String) (attributes : List Attribute)
  | closing (name : String)
  deriving DecidableEq

/-- A tag, with the text before it. -/
structure Piece where
  text : String
  tag : Tag
  deriving DecidableEq

structure Document where
  pieces : List Piece
  /-- The text behind the last tag. -/
  rest : String
  deriving DecidableEq

def Attribute.isPlain (a : Attribute) : Bool :=
  isName a.key && Markup.isPlain a.value

def Tag.isPlain : Tag → Bool
  | .opening name attributes => isName name && attributes.all Attribute.isPlain
  | .closing name => isName name

def Piece.isPlain (p : Piece) : Bool :=
  Markup.isPlain p.text && p.tag.isPlain

def Document.isPlain (d : Document) : Bool :=
  d.pieces.all Piece.isPlain && Markup.isPlain d.rest

/-! ### Writing -/

def Attribute.write (a : Attribute) : String :=
  " " ++ a.key ++ "=\"" ++ a.value ++ "\""

def writeAttributes (attributes : List Attribute) : String :=
  String.join (attributes.map Attribute.write)

def Tag.write : Tag → String
  | .opening name attributes => "<" ++ name ++ writeAttributes attributes ++ ">"
  | .closing name => "</" ++ name ++ ">"

def writePieces (pieces : List Piece) : String :=
  String.join (pieces.map fun p => p.text ++ p.tag.write)

def Document.write (d : Document) : String :=
  writePieces d.pieces ++ d.rest

theorem writePieces_append (first second : List Piece) :
    writePieces (first ++ second) = writePieces first ++ writePieces second := by
  simp [writePieces, String.join_append]

/-! ### Reading -/

/-- Where a reader is in a tag, with what it has of it. -/
inductive Place where
  /-- Outside of tags. -/
  | outside
  | inName (name : String)
  | inKey (name : String) (attributes : List Attribute) (key : String)
  /-- Behind the sign between a key and its value. -/
  | behindKey (name : String) (attributes : List Attribute) (key : String)
  | inValue (name : String) (attributes : List Attribute) (key value : String)
  /-- Behind a value. -/
  | behindValue (name : String) (attributes : List Attribute)
  | inClosing (name : String)

structure Reader where
  pieces : List Piece := []
  /-- The text since the last tag. -/
  text : String := ""
  place : Place := .outside

namespace Reader

def finish (r : Reader) (tag : Tag) : Reader :=
  { pieces := r.pieces ++ [⟨r.text, tag⟩] }

def step (r : Reader) (c : Char) : Option Reader :=
  match r.place with
  | .outside =>
    if c = '<' then some { r with place := .inName "" }
    else if isMarkup c then none
    else some { r with text := r.text.push c }
  | .inName name =>
    if c.isAlphanum then some { r with place := .inName (name.push c) }
    else if name = "" then if c = '/' then some { r with place := .inClosing "" } else none
    else if c = ' ' then some { r with place := .inKey name [] "" }
    else if c = '>' then some (r.finish (.opening name []))
    else none
  | .inKey name attributes key =>
    if c.isAlphanum then some { r with place := .inKey name attributes (key.push c) }
    else if c = '=' ∧ key ≠ "" then some { r with place := .behindKey name attributes key }
    else none
  | .behindKey name attributes key =>
    if c = '"' then some { r with place := .inValue name attributes key "" } else none
  | .inValue name attributes key value =>
    if c = '"' then some { r with place := .behindValue name (attributes ++ [⟨key, value⟩]) }
    else if isMarkup c then none
    else some { r with place := .inValue name attributes key (value.push c) }
  | .behindValue name attributes =>
    if c = ' ' then some { r with place := .inKey name attributes "" }
    else if c = '>' then some (r.finish (.opening name attributes))
    else none
  | .inClosing name =>
    if c.isAlphanum then some { r with place := .inClosing (name.push c) }
    else if c = '>' ∧ name ≠ "" then some (r.finish (.closing name))
    else none

/-- What has been read, unless the reader is in a tag. -/
def document? (r : Reader) : Option Document :=
  match r.place with
  | .outside => some ⟨r.pieces, r.text⟩
  | _ => none

end Reader

/-- The document that a text is the written form of. -/
def read (text : String) : Option Document :=
  (text.toList.foldlM Reader.step {}).bind Reader.document?

/-! ### Reading what is written -/

namespace Reader

/-- A text takes a reader from one state to another. -/
def Reads (r : Reader) (text : String) (s : Reader) : Prop :=
  text.toList.foldlM step r = some s

variable {r s t : Reader}

theorem Reads.trans {first second : String} (hfirst : Reads r first s)
    (hsecond : Reads s second t) : Reads r (first ++ second) t := by
  rw [Reads, String.toList_append, List.foldlM_append, hfirst]
  exact hsecond

theorem reads_empty (r : Reader) : Reads r "" r := rfl

/-- Characters that the reader gathers are gathered all. -/
theorem reads_gather (state : String → Reader) (accepts : Char → Bool)
    (hstep : ∀ gathered c, accepts c = true →
      (state gathered).step c = some (state (gathered.push c)))
    {text : String} (htext : text.toList.all accepts = true) (gathered : String) :
    Reads (state gathered) text (state (gathered ++ text)) := by
  have hlist : ∀ (cs : List Char) (gathered : String), cs.all accepts = true →
      cs.foldlM step (state gathered) = some (state (gathered ++ String.ofList cs)) := by
    intro cs
    induction cs with
    | nil =>
      intro gathered _
      simp
    | cons c rest ih =>
      intro gathered hall
      rw [List.all_cons, Bool.and_eq_true] at hall
      rw [List.foldlM_cons, hstep gathered c hall.1]
      show rest.foldlM step (state (gathered.push c)) = _
      rw [ih _ hall.2]
      congr 2
      apply String.toList_injective
      simp
  have hread := hlist text.toList gathered htext
  rwa [String.ofList_toList] at hread

theorem reads_text (hplace : r.place = .outside) {text : String} (htext : isPlain text = true) :
    Reads r text { r with text := r.text ++ text } := by
  refine reads_gather (fun gathered ↦ { r with text := gathered }) (!isMarkup ·)
    (fun gathered c hc ↦ ?_) htext r.text
  have hangle : c ≠ '<' := by
    rintro rfl
    cases hc
  rw [Bool.not_eq_true'] at hc
  simp [step, hplace, hangle, hc]

/-- A name is gathered behind the empty one. -/
theorem reads_name (state : String → Reader)
    (hstep : ∀ gathered c, c.isAlphanum = true →
      (state gathered).step c = some (state (gathered.push c)))
    {name : String} (hname : isName name = true) : Reads (state "") name (state name) := by
  rw [isName, Bool.and_eq_true] at hname
  have hread := reads_gather state Char.isAlphanum hstep hname.2 ""
  rwa [String.empty_append] at hread

/-- An attribute is read wherever a blank begins one. -/
theorem reads_attribute {name : String} {attributes : List Attribute}
    (hblank : r.step ' ' = some { r with place := .inKey name attributes "" }) {a : Attribute}
    (hplain : a.isPlain = true) :
    Reads r a.write { r with place := .behindValue name (attributes ++ [a]) } := by
  rw [Attribute.isPlain, Bool.and_eq_true] at hplain
  have hbegin : Reads r " " { r with place := .inKey name attributes "" } := by
    simpa [Reads] using hblank
  have hkey : Reads { r with place := .inKey name attributes "" } a.key
      { r with place := .inKey name attributes a.key } :=
    reads_name (fun gathered ↦ { r with place := .inKey name attributes gathered })
      (fun gathered c hc ↦ by simp [step, hc]) hplain.1
  have hequals : Reads { r with place := .inKey name attributes a.key } "=\""
      { r with place := .inValue name attributes a.key "" } := by
    have hnonempty : a.key ≠ "" := by
      have hname := hplain.1
      rw [isName, Bool.and_eq_true] at hname
      simpa using hname.1
    simp [Reads, step, hnonempty]
  have hvalue : Reads { r with place := .inValue name attributes a.key "" } a.value
      { r with place := .inValue name attributes a.key a.value } := by
    have hread := reads_gather
      (fun gathered ↦ { r with place := .inValue name attributes a.key gathered }) (!isMarkup ·)
      (fun gathered c hc ↦ ?_) hplain.2 ""
    · rwa [String.empty_append] at hread
    · have hquote : c ≠ '"' := by
        rintro rfl
        cases hc
      rw [Bool.not_eq_true'] at hc
      simp [step, hquote, hc]
  have hend : Reads { r with place := .inValue name attributes a.key a.value } "\""
      { r with place := .behindValue name (attributes ++ [a]) } := rfl
  exact (((hbegin.trans hkey).trans hequals).trans hvalue).trans hend

/-- Behind a value, more attributes are read. -/
theorem reads_attributes {name : String} {attributes more : List Attribute}
    (hplace : r.place = .behindValue name attributes) (hmore : more.all Attribute.isPlain = true) :
    Reads r (writeAttributes more) { r with place := .behindValue name (attributes ++ more) } := by
  induction more generalizing r attributes with
  | nil =>
    rw [List.append_nil, ← hplace]
    exact reads_empty r
  | cons a rest ih =>
    rw [List.all_cons, Bool.and_eq_true] at hmore
    have hfirst : Reads r a.write { r with place := .behindValue name (attributes ++ [a]) } :=
      reads_attribute (by simp [step, hplace]) hmore.1
    have hrest := ih (r := { r with place := .behindValue name (attributes ++ [a]) }) rfl hmore.2
    rw [List.append_assoc] at hrest
    rw [writeAttributes, List.map_cons, String.join_cons]
    exact hfirst.trans hrest

theorem reads_tag (hplace : r.place = .outside) {tag : Tag} (hplain : tag.isPlain = true) :
    Reads r tag.write (r.finish tag) := by
  have hangle : Reads r "<" { r with place := .inName "" } := by
    simp [Reads, step, hplace]
  cases tag with
  | closing name =>
    have hslash : Reads { r with place := .inName "" } "/" { r with place := .inClosing "" } := rfl
    have hname : Reads { r with place := .inClosing "" } name { r with place := .inClosing name } :=
      reads_name (fun gathered ↦ { r with place := .inClosing gathered })
        (fun gathered c hc ↦ by simp [step, hc]) hplain
    have hend : Reads { r with place := .inClosing name } ">" (r.finish (.closing name)) := by
      have hnonempty : name ≠ "" := by
        rintro rfl
        cases hplain
      simp [Reads, step, hnonempty, finish]
    exact ((hangle.trans hslash).trans hname).trans hend
  | opening name attributes =>
    rw [Tag.isPlain, Bool.and_eq_true] at hplain
    have hnonempty : name ≠ "" := by
      rintro rfl
      cases hplain.1
    have hname : Reads { r with place := .inName "" } name { r with place := .inName name } :=
      reads_name (fun gathered ↦ { r with place := .inName gathered })
        (fun gathered c hc ↦ by simp [step, hc]) hplain.1
    cases attributes with
    | nil =>
      have hend : Reads { r with place := .inName name } ">" (r.finish (.opening name [])) := by
        simp [Reads, step, hnonempty, finish]
      exact ((hangle.trans hname).trans (reads_empty _)).trans hend
    | cons a rest =>
      obtain ⟨hplainFirst, hplainRest⟩ := Bool.and_eq_true_iff.1 hplain.2
      have hblank : ({ r with place := .inName name } : Reader).step ' ' =
          some { r with place := .inKey name [] "" } := by
        simp [step, hnonempty]
      have hfirst : Reads { r with place := .inName name } a.write
          { r with place := .behindValue name [a] } :=
        reads_attribute hblank hplainFirst
      have hrest := reads_attributes (r := { r with place := .behindValue name [a] }) rfl hplainRest
      have hattributes : Reads { r with place := .inName name } (writeAttributes (a :: rest))
          { r with place := .behindValue name (a :: rest) } := by
        rw [writeAttributes, List.map_cons, String.join_cons]
        exact hfirst.trans hrest
      have hend : Reads { r with place := .behindValue name (a :: rest) } ">"
          (r.finish (.opening name (a :: rest))) := rfl
      exact ((hangle.trans hname).trans hattributes).trans hend

/-- Pieces are read one behind the other. -/
theorem reads_pieces (hplace : r.place = .outside) (htext : r.text = "") {pieces : List Piece}
    (hplain : pieces.all Piece.isPlain = true) :
    Reads r (writePieces pieces) { pieces := r.pieces ++ pieces } := by
  induction pieces generalizing r with
  | nil =>
    obtain ⟨pieces, text, place⟩ := r
    cases hplace
    cases htext
    rw [List.append_nil]
    exact reads_empty _
  | cons p rest ih =>
    rw [List.all_cons, Bool.and_eq_true, Piece.isPlain, Bool.and_eq_true] at hplain
    obtain ⟨⟨hplainText, hplainTag⟩, hplainRest⟩ := hplain
    have hbefore := reads_text hplace hplainText
    rw [htext, String.empty_append] at hbefore
    have htag : Reads { r with text := p.text } p.tag.write { pieces := r.pieces ++ [p] } :=
      reads_tag (r := { r with text := p.text }) hplace hplainTag
    have hrest := ih (r := { pieces := r.pieces ++ [p] }) rfl rfl hplainRest
    rw [List.append_assoc] at hrest
    rw [writePieces, List.map_cons, String.join_cons]
    exact (hbefore.trans htag).trans hrest

end Reader

theorem read_write {d : Document} (hplain : d.isPlain = true) : read d.write = some d := by
  rw [Document.isPlain, Bool.and_eq_true] at hplain
  have hpieces := Reader.reads_pieces (r := {}) rfl rfl hplain.1
  have hrest := Reader.reads_text (r := { pieces := [] ++ d.pieces }) rfl hplain.2
  rw [String.empty_append] at hrest
  rw [read, Document.write, show _ = some _ from hpieces.trans hrest]
  rfl

/-! ### Nothing else is read -/

def Place.written : Place → String
  | .outside => ""
  | .inName name => "<" ++ name
  | .inKey name attributes key => "<" ++ name ++ writeAttributes attributes ++ " " ++ key
  | .behindKey name attributes key => "<" ++ name ++ writeAttributes attributes ++ " " ++ key ++ "="
  | .inValue name attributes key value =>
    "<" ++ name ++ writeAttributes attributes ++ " " ++ key ++ "=\"" ++ value
  | .behindValue name attributes => "<" ++ name ++ writeAttributes attributes
  | .inClosing name => "</" ++ name

/-- The names and values of a place are plain, where one may be unfinished. -/
def Place.isPlain : Place → Bool
  | .outside => true
  | .inName name | .inClosing name => name.toList.all Char.isAlphanum
  | .inKey name attributes key =>
    isName name && attributes.all Attribute.isPlain && key.toList.all Char.isAlphanum
  | .behindKey name attributes key =>
    isName name && attributes.all Attribute.isPlain && isName key
  | .inValue name attributes key value =>
    isName name && attributes.all Attribute.isPlain && isName key && Markup.isPlain value
  | .behindValue name attributes => isName name && attributes.all Attribute.isPlain

namespace Reader

def written (r : Reader) : String :=
  writePieces r.pieces ++ r.text ++ r.place.written

def isPlain (r : Reader) : Bool :=
  r.pieces.all Piece.isPlain && Markup.isPlain r.text && r.place.isPlain

theorem isPlain_push {text : String} {c : Char} (htext : Markup.isPlain text = true)
    (hc : isMarkup c = false) : Markup.isPlain (text.push c) = true := by
  simp_all [Markup.isPlain]

theorem isPlain_finish {r : Reader} (hpieces : r.pieces.all Piece.isPlain = true)
    (htext : Markup.isPlain r.text = true) {tag : Tag} (htag : tag.isPlain = true) :
    (r.finish tag).isPlain = true := by
  rw [isPlain, finish, List.all_append, hpieces, List.all_cons, Piece.isPlain, htext, htag]
  rfl

theorem written_finish (r : Reader) (tag : Tag) :
    (r.finish tag).written = writePieces r.pieces ++ r.text ++ tag.write := by
  simp [written, finish, writePieces, Place.written, String.append_assoc]

/-- What a character does to a reader. -/
inductive Advances (r : Reader) (c : Char) : Reader → Prop where
  | text (houtside : r.place = .outside) (hmarkup : isMarkup c = false) :
      Advances r c { r with text := r.text.push c }
  | within {place : Place} (hwritten : place.written = r.place.written.push c)
      (hplain : r.place.isPlain = true → place.isPlain = true) : Advances r c { r with place }
  | finish {tag : Tag} (hwritten : tag.write = r.place.written.push c)
      (hplain : r.place.isPlain = true → tag.isPlain = true) : Advances r c (r.finish tag)

variable {r s : Reader} {c : Char}

theorem advances_of_step (hstep : r.step c = some s) : r.Advances c s := by
  obtain ⟨pieces, text, place⟩ := r
  cases place with
  | outside =>
    simp only [step] at hstep
    split at hstep
    · subst c
      cases hstep
      exact .within rfl fun _ ↦ rfl
    · split at hstep
      · cases hstep
      · next hmarkup =>
        cases hstep
        exact .text rfl (by simpa using hmarkup)
  | inName name =>
    simp only [step] at hstep
    split at hstep
    · next hc =>
      cases hstep
      refine .within (String.toList_injective ?_) fun hname ↦ ?_
      · simp [Place.written]
      · simpa [Place.isPlain, hc] using hname
    · split at hstep
      · split at hstep
        · subst c name
          cases hstep
          exact .within rfl fun _ ↦ rfl
        · cases hstep
      · next hnonempty =>
        split at hstep
        · subst c
          cases hstep
          refine .within (String.toList_injective ?_) fun hname ↦ ?_
          · simp [Place.written, writeAttributes]
          · simpa [Place.isPlain, isName, hnonempty] using hname
        · split at hstep
          · subst c
            cases hstep
            refine .finish (String.toList_injective ?_) fun hname ↦ ?_
            · simp [Place.written, Tag.write, writeAttributes]
            · simpa [Place.isPlain, Tag.isPlain, isName, hnonempty] using hname
          · cases hstep
  | inKey name attributes key =>
    simp only [step] at hstep
    split at hstep
    · next hc =>
      cases hstep
      refine .within (String.toList_injective ?_) fun hkey ↦ ?_
      · simp [Place.written]
      · simpa [Place.isPlain, hc] using hkey
    · split at hstep
      · next hequals =>
        obtain ⟨rfl, hnonempty⟩ := hequals
        cases hstep
        refine .within (String.toList_injective ?_) fun hkey ↦ ?_
        · simp [Place.written]
        · simpa [Place.isPlain, isName, hnonempty] using hkey
      · cases hstep
  | behindKey name attributes key =>
    simp only [step] at hstep
    split at hstep
    · subst c
      cases hstep
      refine .within (String.toList_injective ?_) fun hkey ↦ ?_
      · simp [Place.written]
      · simpa [Place.isPlain, Markup.isPlain] using hkey
    · cases hstep
  | inValue name attributes key value =>
    simp only [step] at hstep
    split at hstep
    · subst c
      cases hstep
      refine .within (String.toList_injective ?_) fun hvalue ↦ ?_
      · simp [Place.written, writeAttributes, Attribute.write, String.join_append]
      · simpa [Place.isPlain, Attribute.isPlain, and_assoc] using hvalue
    · split at hstep
      · cases hstep
      · next hmarkup =>
        cases hstep
        refine .within (String.toList_injective ?_) fun hvalue ↦ ?_
        · simp [Place.written]
        · simpa [Place.isPlain, Markup.isPlain, hmarkup] using hvalue
  | behindValue name attributes =>
    simp only [step] at hstep
    split at hstep
    · subst c
      cases hstep
      refine .within (String.toList_injective ?_) fun hvalue ↦ ?_
      · simp [Place.written]
      · simpa [Place.isPlain] using hvalue
    · split at hstep
      · subst c
        cases hstep
        refine .finish (String.toList_injective ?_) id
        simp [Place.written, Tag.write]
      · cases hstep
  | inClosing name =>
    simp only [step] at hstep
    split at hstep
    · next hc =>
      cases hstep
      refine .within (String.toList_injective ?_) fun hname ↦ ?_
      · simp [Place.written]
      · simpa [Place.isPlain, hc] using hname
    · split at hstep
      · next hend =>
        obtain ⟨rfl, hnonempty⟩ := hend
        cases hstep
        refine .finish (String.toList_injective ?_) fun hname ↦ ?_
        · simp [Place.written, Tag.write]
        · simpa [Place.isPlain, Tag.isPlain, isName, hnonempty] using hname
      · cases hstep

/-- A reader has what it has read, and that is plain. -/
theorem step_written (hstep : r.step c = some s) (hplain : r.isPlain = true) :
    s.written = r.written.push c ∧ s.isPlain = true := by
  simp only [isPlain, Bool.and_eq_true] at hplain
  obtain ⟨⟨hpieces, htext⟩, hplace⟩ := hplain
  cases advances_of_step hstep with
  | text houtside hmarkup =>
    constructor
    · exact String.toList_injective (by simp [written, houtside, Place.written])
    · simp only [isPlain, hpieces, isPlain_push htext hmarkup, hplace, Bool.and_self]
  | within hwritten hkeeps =>
    constructor
    · exact String.toList_injective (by simp [written, hwritten])
    · simp only [isPlain, hpieces, htext, hkeeps hplace, Bool.and_self]
  | finish hwritten hkeeps =>
    constructor
    · rw [written_finish, hwritten]
      exact String.toList_injective (by simp [written])
    · exact isPlain_finish hpieces htext (hkeeps hplace)

theorem foldlM_written {cs : List Char} (hread : cs.foldlM step r = some s)
    (hplain : r.isPlain = true) :
    s.written = r.written ++ String.ofList cs ∧ s.isPlain = true := by
  induction cs generalizing r with
  | nil =>
    cases hread
    exact ⟨by simp, hplain⟩
  | cons c rest ih =>
    rw [List.foldlM_cons, Option.bind_eq_bind, Option.bind_eq_some_iff] at hread
    obtain ⟨next, hstep, hrest⟩ := hread
    obtain ⟨hwritten, hnext⟩ := step_written hstep hplain
    obtain ⟨hall, hs⟩ := ih hrest hnext
    refine ⟨?_, hs⟩
    rw [hall, hwritten]
    exact String.toList_injective (by simp)

end Reader

/-- The reader accepts the written forms of plain documents, and nothing else. -/
theorem read_eq_some_iff {text : String} {d : Document} :
    read text = some d ↔ d.isPlain = true ∧ d.write = text := by
  constructor
  · intro hread
    rw [read, Option.bind_eq_some_iff] at hread
    obtain ⟨r, hfold, hdocument⟩ := hread
    obtain ⟨hwritten, hplain⟩ := Reader.foldlM_written hfold rfl
    obtain ⟨pieces, rest, place⟩ := r
    cases place with
    | outside =>
      cases hdocument
      constructor
      · rwa [Reader.isPlain, Place.isPlain, Bool.and_true] at hplain
      · simpa [Reader.written, Place.written, writePieces, Document.write] using hwritten
    | _ => cases hdocument
  · rintro ⟨hplain, rfl⟩
    exact read_write hplain

/-! ### The markup of a document -/

def Tag.attributes : Tag → List Attribute
  | .opening _ attributes => attributes
  | .closing _ => []

/-- The angle brackets of a tag, with the quotes of its attributes between them. -/
def Tag.markup (tag : Tag) : List Char :=
  '<' :: tag.attributes.flatMap (fun _ ↦ ['"', '"']) ++ ['>']

def Document.attributes (d : Document) : List Attribute :=
  d.pieces.flatMap (·.tag.attributes)

/-- A text is the written form of a document, and there is no markup in it but that of the tags. -/
structure ReadsAs (text : String) (d : Document) : Prop where
  read : read text = some d
  markup : text.toList.filter isMarkup = d.pieces.flatMap (·.tag.markup)

theorem isMarkup_of_isAlphanum {c : Char} (hc : c.isAlphanum = true) : isMarkup c = false := by
  rw [isMarkup, Bool.or_eq_false_iff, Bool.or_eq_false_iff]
  refine ⟨⟨?_, ?_⟩, ?_⟩ <;>
  · apply beq_false_of_ne
    rintro rfl
    cases hc

theorem filter_isMarkup_of_isPlain {text : String} (hplain : isPlain text = true) :
    text.toList.filter isMarkup = [] := by
  rw [List.filter_eq_nil_iff]
  simpa [isPlain] using hplain

theorem filter_isMarkup_of_isName {name : String} (hname : isName name = true) :
    name.toList.filter isMarkup = [] := by
  rw [isName, Bool.and_eq_true, List.all_eq_true] at hname
  rw [List.filter_eq_nil_iff]
  intro c hc
  rw [isMarkup_of_isAlphanum (hname.2 c hc)]
  exact Bool.false_ne_true

theorem Attribute.filter_isMarkup_write {a : Attribute} (hplain : a.isPlain = true) :
    a.write.toList.filter isMarkup = ['"', '"'] := by
  rw [Attribute.isPlain, Bool.and_eq_true] at hplain
  simp only [Attribute.write, String.toList_append, List.filter_append,
    filter_isMarkup_of_isName hplain.1, filter_isMarkup_of_isPlain hplain.2]
  rfl

theorem filter_isMarkup_writeAttributes {attributes : List Attribute}
    (hplain : attributes.all Attribute.isPlain = true) :
    (writeAttributes attributes).toList.filter isMarkup =
      attributes.flatMap fun _ ↦ ['"', '"'] := by
  induction attributes with
  | nil => rfl
  | cons a rest ih =>
    rw [List.all_cons, Bool.and_eq_true] at hplain
    rw [writeAttributes, List.map_cons, String.join_cons, String.toList_append, List.filter_append,
      Attribute.filter_isMarkup_write hplain.1, List.flatMap_cons, ← ih hplain.2, writeAttributes]

theorem Tag.filter_isMarkup_write {tag : Tag} (hplain : tag.isPlain = true) :
    tag.write.toList.filter isMarkup = tag.markup := by
  cases tag with
  | opening name attributes =>
    rw [Tag.isPlain, Bool.and_eq_true] at hplain
    simp only [Tag.write, String.toList_append, List.filter_append,
      filter_isMarkup_of_isName hplain.1, filter_isMarkup_writeAttributes hplain.2]
    rfl
  | closing name =>
    simp only [Tag.write, String.toList_append, List.filter_append,
      filter_isMarkup_of_isName hplain]
    rfl

theorem filter_isMarkup_writePieces {pieces : List Piece}
    (hplain : pieces.all Piece.isPlain = true) :
    (writePieces pieces).toList.filter isMarkup = pieces.flatMap (·.tag.markup) := by
  induction pieces with
  | nil => rfl
  | cons p rest ih =>
    rw [List.all_cons, Bool.and_eq_true, Piece.isPlain, Bool.and_eq_true] at hplain
    obtain ⟨⟨htext, htag⟩, hrest⟩ := hplain
    rw [writePieces, List.map_cons, String.join_cons, String.toList_append, List.filter_append,
      String.toList_append, List.filter_append, filter_isMarkup_of_isPlain htext,
      Tag.filter_isMarkup_write htag, List.flatMap_cons, ← ih hrest, writePieces, List.nil_append]

/-- All the markup in a text that is read is that of the tags. -/
theorem readsAs_iff {text : String} {d : Document} :
    ReadsAs text d ↔ d.isPlain = true ∧ d.write = text := by
  constructor
  · intro h
    exact read_eq_some_iff.1 h.read
  · rintro ⟨hplain, rfl⟩
    constructor
    · exact read_write hplain
    · rw [Document.isPlain, Bool.and_eq_true] at hplain
      rw [Document.write, String.toList_append, List.filter_append,
        filter_isMarkup_writePieces hplain.1, filter_isMarkup_of_isPlain hplain.2, List.append_nil]

end CitedChat.Markup
