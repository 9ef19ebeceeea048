import CitedChat.Html.Escape
import CitedChat.Proofs.Markup.Reading

/-!
Escaped texts. Character references are read back one by one, and an ampersand that begins none of
the few that escaping writes ends the reading. So whatever has been escaped is read back as it was
(`unescape?_escape`), and nothing in it is markup (`isPlain_escape`, `isPlain_escapeAddress`).
-/

set_option autoImplicit false

namespace CitedChat.Html

open Markup

/-! ### Character references -/

/-- The references behind their ampersands, with what they stand for. -/
def references : List (List Char × Char) :=
  [("amp;".toList, '&'), ("lt;".toList, '<'), ("gt;".toList, '>'), ("quot;".toList, '"'),
    ("#39;".toList, '\''), ("#x27;".toList, '\'')]

/-- The number counts the characters of a reference that are already accounted for. -/
def unescapeFrom : Nat → List Char → Option (List Char)
  | _, [] => some []
  | skip + 1, _ :: rest => unescapeFrom skip rest
  | 0, c :: rest =>
    if c = '&' then
      (references.find? fun reference => reference.1.isPrefixOf rest).bind fun reference =>
        (unescapeFrom reference.1.length rest).map (reference.2 :: ·)
    else (unescapeFrom 0 rest).map (c :: ·)

def unescape? (text : String) : Option String :=
  (unescapeFrom 0 text.toList).map String.ofList

/-- What a rule writes for a character is read back as the given meaning of the character. -/
def ReadsBack (rule meaning : Char → List Char) : Prop :=
  ∀ c rest, unescapeFrom 0 (rule c ++ rest) = (unescapeFrom 0 rest).map (meaning c ++ ·)

theorem unescape?_escapeWith {rule meaning : Char → List Char} (hrule : ReadsBack rule meaning)
    (text : String) : unescape? (escapeWith rule text) = some (escapeWith meaning text) := by
  have hall : ∀ cs : List Char,
      unescapeFrom 0 (cs.flatMap rule) = some (cs.flatMap meaning) := by
    intro cs
    induction cs with
    | nil => rfl
    | cons c rest ih => rw [List.flatMap_cons, hrule, ih, Option.map_some, List.flatMap_cons]
  rw [unescape?, escapeWith, String.toList_ofList, hall, Option.map_some, escapeWith]

theorem unescapeFrom_cons {c : Char} (hampersand : c ≠ '&') (rest : List Char) :
    unescapeFrom 0 (c :: rest) = (unescapeFrom 0 rest).map (c :: ·) := by
  rw [unescapeFrom, if_neg hampersand]

/-- Characters that begin no reference are read as they are. -/
theorem unescapeFrom_append {cs : List Char} (hampersand : '&' ∉ cs) (rest : List Char) :
    unescapeFrom 0 (cs ++ rest) = (unescapeFrom 0 rest).map (cs ++ ·) := by
  induction cs with
  | nil => simp
  | cons c cs ih =>
    rw [List.mem_cons, not_or] at hampersand
    rw [List.cons_append, unescapeFrom_cons (Ne.symm hampersand.1), ih hampersand.2, Option.map_map]
    rfl

theorem readsBack_escapeBodyChar : ReadsBack escapeBodyChar fun c ↦ [c] := by
  intro c rest
  unfold escapeBodyChar
  split
  · rfl
  · rfl
  · rfl
  · next hampersand _ _ => exact unescapeFrom_cons hampersand rest

theorem readsBack_escapeChar : ReadsBack escapeChar fun c ↦ [c] := by
  intro c rest
  unfold escapeChar
  split
  · rfl
  · rfl
  · exact readsBack_escapeBodyChar _ rest

theorem unescape?_escape (text : String) : unescape? (escape text) = some text := by
  rw [escape, unescape?_escapeWith readsBack_escapeChar, escapeWith, List.flatMap_singleton',
    String.ofList_toList]

/-- A character of an address without regard to HTML. -/
def encodeAddressChar (c : Char) : List Char :=
  if c.isAlphanum || plainInAddress.contains c || c == '&' || c == '\'' then [c]
  else Text.percentChar c

def encodeAddress (url : String) : String :=
  escapeWith encodeAddressChar url

theorem mem_percentChar {c d : Char} (hd : d ∈ Text.percentChar c) :
    d = '%' ∨ ∃ n < 16, d = Text.upperHexDigit n := by
  rw [Text.percentChar, List.mem_flatMap] at hd
  obtain ⟨b, -, hd⟩ := hd
  have hbyte : b.toNat < 256 := b.toNat_lt
  simp only [Text.percentByte, List.mem_cons, List.not_mem_nil, or_false] at hd
  obtain rfl | hhigh | hlow := hd
  · exact .inl rfl
  · exact .inr ⟨_, by omega, hhigh⟩
  · exact .inr ⟨_, by omega, hlow⟩

theorem upperHexDigit_ne_ampersand : ∀ n < 16, '&' ≠ Text.upperHexDigit n := by
  decide

theorem readsBack_escapeAddressChar : ReadsBack escapeAddressChar encodeAddressChar := by
  intro c rest
  by_cases hampersand : c = '&'
  · subst hampersand
    rfl
  by_cases hquote : c = '\''
  · subst hquote
    rfl
  have hsame : escapeAddressChar c = encodeAddressChar c := by
    simp [escapeAddressChar, encodeAddressChar, hampersand, hquote]
  rw [hsame]
  apply unescapeFrom_append
  intro hmem
  unfold encodeAddressChar at hmem
  split at hmem
  · exact hampersand (List.mem_singleton.1 hmem).symm
  · obtain hpercent | ⟨n, hn, hdigit⟩ := mem_percentChar hmem
    · cases hpercent
    · exact upperHexDigit_ne_ampersand n hn hdigit

theorem unescape?_escapeAddress (url : String) :
    unescape? (escapeAddress url) = some (encodeAddress url) :=
  unescape?_escapeWith readsBack_escapeAddressChar url

/-! ### No markup -/

theorem isPlain_escapeWith {rule : Char → List Char}
    (hrule : ∀ c, (rule c).all (!isMarkup ·) = true) (text : String) :
    isPlain (escapeWith rule text) = true := by
  rw [isPlain, escapeWith, String.toList_ofList, List.all_flatMap, List.all_eq_true]
  exact fun c _ ↦ hrule c

theorem isPlain_escape (text : String) : isPlain (escape text) = true := by
  refine isPlain_escapeWith (fun c ↦ ?_) text
  unfold escapeChar
  split
  · rfl
  · rfl
  · next hquote _ =>
    unfold escapeBodyChar
    split
    · rfl
    · rfl
    · rfl
    · next hless hgreater =>
      have hangles : c ≠ '<' ∧ c ≠ '>' := ⟨hless, hgreater⟩
      have hplain : isMarkup c = false := by simp [isMarkup, hangles, show c ≠ '"' from hquote]
      simp [hplain]

theorem isMarkup_of_plainInAddress {c : Char} (hc : c ∈ plainInAddress) : isMarkup c = false := by
  have hall : plainInAddress.all (!isMarkup ·) = true := by decide
  simpa using List.all_eq_true.1 hall c hc

theorem isMarkup_upperHexDigit : ∀ n < 16, isMarkup (Text.upperHexDigit n) = false := by
  decide

theorem isMarkup_of_percentChar {c d : Char} (hd : d ∈ Text.percentChar c) :
    isMarkup d = false := by
  obtain rfl | ⟨n, hn, rfl⟩ := mem_percentChar hd
  · rfl
  · exact isMarkup_upperHexDigit n hn

theorem isPlain_escapeAddress (url : String) : isPlain (escapeAddress url) = true := by
  refine isPlain_escapeWith (fun c ↦ ?_) url
  unfold escapeAddressChar
  split
  · rfl
  · split
    · rfl
    · split
      · next hshown =>
        rw [Bool.or_eq_true, List.contains_iff_mem] at hshown
        have hplain : isMarkup c = false :=
          hshown.elim isMarkup_of_isAlphanum isMarkup_of_plainInAddress
        simp [hplain]
      · rw [List.all_eq_true]
        intro d hd
        rw [isMarkup_of_percentChar hd]
        rfl

/-! ### Texts that stay as they are -/

theorem escapeChar_eq_self {c : Char} (hplain : isMarkup c = false) (hampersand : c ≠ '&')
    (hquote : c ≠ '\'') : escapeChar c = [c] := by
  unfold escapeChar
  split
  · cases hplain
  · exact absurd rfl hquote
  · unfold escapeBodyChar
    split
    · exact absurd rfl hampersand
    · cases hplain
    · cases hplain
    · rfl

theorem escape_eq_self {text : String} (htext : ∀ c ∈ text.toList, escapeChar c = [c]) :
    escape text = text := by
  have hall : ∀ cs : List Char, (∀ c ∈ cs, escapeChar c = [c]) → cs.flatMap escapeChar = cs := by
    intro cs hcs
    induction cs with
    | nil => rfl
    | cons c rest ih =>
      rw [List.forall_mem_cons] at hcs
      rw [List.flatMap_cons, hcs.1, ih hcs.2]
      rfl
  rw [escape, escapeWith, hall _ htext, String.ofList_toList]

theorem isAlphanum_of_mem_toString {n : Nat} {c : Char} (hc : c ∈ (toString n).toList) :
    c.isAlphanum = true := by
  have hdigits : c ∈ Nat.toDigits 10 n := by simpa using hc
  have hdigit : c.isDigit = true := Nat.isDigit_of_mem_toDigits (by omega) (by omega) hdigits
  rw [Char.isAlphanum, hdigit, Bool.or_true]

theorem isPlain_toString (n : Nat) : isPlain (toString n) = true := by
  rw [isPlain, List.all_eq_true]
  intro c hc
  rw [isMarkup_of_isAlphanum (isAlphanum_of_mem_toString hc)]
  rfl

theorem escape_append_toString {text : String} (htext : escape text = text) (n : Nat) :
    escape (text ++ toString n) = text ++ toString n := by
  have hnumber : escape (toString n) = toString n := by
    refine escape_eq_self fun c hc ↦ ?_
    have halphanum := isAlphanum_of_mem_toString hc
    refine escapeChar_eq_self (isMarkup_of_isAlphanum halphanum) ?_ ?_
    · rintro rfl
      cases halphanum
    · rintro rfl
      cases halphanum
  calc escape (text ++ toString n) = escape text ++ escape (toString n) := escapeWith_append ..
    _ = text ++ toString n := by rw [htext, hnumber]

end CitedChat.Html
