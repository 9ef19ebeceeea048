import CitedChat.Page.Sanitize
import CitedChat.Proofs.Library
import CitedChat.Proofs.Markup.Unescaping

/-!
Safe addresses in a browser. A browser strips control characters and spaces, drops tabs and line
breaks wherever they are, and takes the part before the first colon as the scheme if it looks like
one; the page trims white space and looks before the first colon for a slash, a question mark, a
number sign or a scheme that it knows. The two differ in what they leave out, but none of it can
stand in a scheme, so that an address which is safe for the page has no other scheme in a browser
than one of those (`isHarmless_of_isSafeAddress`). It does not get one by being encoded, either
(`isHarmless_encodeAddress`).
-/

set_option autoImplicit false

namespace CitedChat.Page

/-! ### The reading of a browser -/

/-- The control characters at the beginning of the table, and the space. -/
def isControl (c : Char) : Bool :=
  c.toNat ≤ 0x20

def isDropped (c : Char) : Bool :=
  c == '\t' || c == '\n' || c == '\r'

def isSchemeChar (c : Char) : Bool :=
  c.isAlphanum || c == '+' || c == '-' || c == '.'

def isScheme : List Char → Bool
  | [] => false
  | first :: rest => first.isAlpha && rest.all isSchemeChar

/-- A list without the elements at its ends that have a property. -/
def strip (p : Char → Bool) (cs : List Char) : List Char :=
  ((cs.dropWhile p).reverse.dropWhile p).reverse

/-- What a browser takes for the scheme of an address. -/
def scheme? (url : String) : Option String :=
  let cs := (strip isControl url.toList).filter (!isDropped ·)
  let beforeColon := cs.takeWhile (· != ':')
  if cs.contains ':' && isScheme beforeColon then
    some (String.ofList (beforeColon.map Char.toLower))
  else none

/-- A browser sees no scheme in an address, or one that runs no script. -/
def IsHarmless (url : String) : Prop :=
  ∀ scheme, scheme? url = some scheme → scheme ∈ ["http", "https", "mailto"]

/-! ### Characters of schemes -/

theorem isSchemeChar_of_isAlpha {c : Char} (hc : c.isAlpha = true) : isSchemeChar c = true := by
  simp [isSchemeChar, Char.isAlphanum, hc]

theorem isSchemeChar_bounds {c : Char} (hc : isSchemeChar c = true) :
    0x20 < c.toNat ∧ c.toNat < 0x80 := by
  simp only [isSchemeChar, Char.isAlphanum, Bool.or_eq_true, beq_iff_eq] at hc
  rcases hc with (((hletter | hdigit) | rfl) | rfl) | rfl
  · have hbounds := Char.isAlpha_iff.1 hletter
    omega
  · have hbounds : 48 ≤ c.toNat ∧ c.toNat ≤ 57 := Char.isDigit_iff_toNat.1 hdigit
    omega
  all_goals decide

theorem isControl_of_visible {c : Char} (hc : 0x20 < c.toNat) : isControl c = false := by
  simpa [isControl] using hc

theorem isDropped_of_visible {c : Char} (hc : 0x20 < c.toNat) : isDropped c = false := by
  rw [isDropped, Bool.or_eq_false_iff, Bool.or_eq_false_iff]
  refine ⟨⟨?_, ?_⟩, ?_⟩ <;>
  · apply beq_false_of_ne
    rintro rfl
    exact absurd hc (by decide)

theorem isBlank_of_isSchemeChar {c : Char} (hc : isSchemeChar c = true) :
    Text.isBlank c = false := by
  have hbounds := isSchemeChar_bounds hc
  simp only [Text.isBlank, Bool.or_eq_false_iff, Bool.and_eq_false_iff, decide_eq_false_iff_not,
    beq_eq_false_iff_ne]
  omega

theorem isAlpha_of_mem_safeSchemes {scheme : String} (hscheme : scheme ∈ safeSchemes) {c : Char}
    (hc : c ∈ scheme.toList) : c.isAlpha = true := by
  have hall : safeSchemes.all (·.toList.all Char.isAlpha) = true := by decide
  exact List.all_eq_true.1 (List.all_eq_true.1 hall scheme hscheme) c hc

/-! ### Stripping -/

theorem strip_append_cons {p : Char → Bool} {c : Char} (hc : p c = false)
    (before after : List Char) :
    strip p (before ++ c :: after) =
      before.dropWhile p ++ c :: (after.reverse.dropWhile p).reverse := by
  rw [strip, List.dropWhile_append_cons hc, List.reverse_append, List.reverse_cons,
    List.append_assoc, List.singleton_append, List.dropWhile_append_cons hc]
  simp

theorem mem_of_mem_strip {p : Char → Bool} {c : Char} {cs : List Char} (hc : c ∈ strip p cs) :
    c ∈ cs := by
  rw [strip, List.mem_reverse] at hc
  have hstart := (List.dropWhile_sublist p).mem hc
  rw [List.mem_reverse] at hstart
  exact (List.dropWhile_sublist p).mem hstart

/-! ### The two readings -/

/-- The part before the first colon as a browser sees it. -/
def seen (before : List Char) : List Char :=
  (before.dropWhile isControl).filter (!isDropped ·)

theorem scheme?_append_colon {url : String} {before after : List Char}
    (hurl : url.toList = before ++ ':' :: after) (hbefore : ':' ∉ before) :
    scheme? url = if isScheme (seen before) then
      some (String.ofList ((seen before).map Char.toLower)) else none := by
  have hseen : ':' ∉ seen before := by
    intro hin
    exact hbefore ((List.dropWhile_sublist _).mem (List.mem_filter.1 hin).1)
  have hparts : (strip isControl url.toList).filter (!isDropped ·) =
      seen before ++ ':' :: (after.reverse.dropWhile isControl).reverse.filter (!isDropped ·) := by
    rw [hurl, strip_append_cons (by decide), List.filter_append,
      List.filter_cons_of_pos (by decide)]
    rfl
  simp [scheme?, hparts, List.takeWhile_bne_append_cons hseen]

theorem scheme?_eq_some_iff {url scheme : String} :
    scheme? url = some scheme ↔ ∃ before after, url.toList = before ++ ':' :: after ∧
      ':' ∉ before ∧ isScheme (seen before) = true ∧
      String.ofList ((seen before).map Char.toLower) = scheme := by
  constructor
  · intro hscheme
    have hmem : ':' ∈ url.toList := by
      simp only [scheme?] at hscheme
      split at hscheme
      · next hfound =>
        rw [Bool.and_eq_true, List.contains_iff_mem] at hfound
        exact mem_of_mem_strip (List.mem_filter.1 hfound.1).1
      · cases hscheme
    obtain ⟨before, after, hurl, hbefore⟩ := List.eq_append_cons_of_mem hmem
    rw [scheme?_append_colon hurl hbefore] at hscheme
    split at hscheme
    · next hform => exact ⟨before, after, hurl, hbefore, hform, Option.some.inj hscheme⟩
    · cases hscheme
  · rintro ⟨before, after, hurl, hbefore, hform, rfl⟩
    rw [scheme?_append_colon hurl hbefore, if_pos hform]

theorem isSafeAddress_iff {url : String} {before after : List Char}
    (hurl : url.toList = before ++ ':' :: after) (hbefore : ':' ∉ before) :
    isSafeAddress url = true ↔ isRelative (before.dropWhile Text.isBlank) = true ∨
      String.ofList ((before.dropWhile Text.isBlank).map Char.toLower) ∈ safeSchemes := by
  have htrimmed : ':' ∉ before.dropWhile Text.isBlank := by
    intro hin
    exact hbefore ((List.dropWhile_sublist _).mem hin)
  have hparts : Text.trimList url.toList = before.dropWhile Text.isBlank ++
      ':' :: (after.reverse.dropWhile Text.isBlank).reverse := by
    rw [hurl]
    exact strip_append_cons (by decide) before after
  simp [isSafeAddress, hparts, List.takeWhile_bne_append_cons htrimmed]

theorem isSchemeChar_of_isScheme {cs : List Char} (hform : isScheme cs = true) :
    ∀ c ∈ cs, isSchemeChar c = true := by
  cases cs with
  | nil =>
    intro c hc
    cases hc
  | cons first rest =>
    rw [isScheme, Bool.and_eq_true, List.all_eq_true] at hform
    rw [List.forall_mem_cons]
    exact ⟨isSchemeChar_of_isAlpha hform.1, hform.2⟩

/-- Nothing that is stripped or dropped belongs to a scheme. -/
theorem seen_eq {before : List Char} (hform : isScheme (seen before) = true) :
    seen before = before.filter isSchemeChar := by
  have hdropped : ∀ c, (!isDropped c && isSchemeChar c) = isSchemeChar c := by
    intro c
    by_cases hc : isSchemeChar c = true
    · rw [hc, isDropped_of_visible (isSchemeChar_bounds hc).1]
      rfl
    · simp [hc]
  calc seen before = (seen before).filter isSchemeChar :=
        (List.filter_eq_self.2 (isSchemeChar_of_isScheme hform)).symm
    _ = (before.dropWhile isControl).filter isSchemeChar := by
        rw [seen, List.filter_filter]
        simp only [Bool.and_comm, hdropped]
    _ = before.filter isSchemeChar :=
        List.filter_dropWhile (fun _ hc ↦ isControl_of_visible (isSchemeChar_bounds hc).1) before

/-- A path, a query or a fragment that begins before the colon is seen by a browser, too. -/
theorem not_isRelative {before : List Char} (hform : isScheme (seen before) = true) :
    isRelative (before.dropWhile Text.isBlank) = false := by
  rw [isRelative, List.any_eq_false]
  intro c hc hrelative
  have hmem : c ∈ before := (List.dropWhile_sublist _).mem hc
  have hkept : isControl c = false ∧ isDropped c = false ∧ isSchemeChar c = false := by
    simp only [Bool.or_eq_true, beq_iff_eq] at hrelative
    obtain (rfl | rfl) | rfl := hrelative <;> decide
  have hseen : c ∈ seen before := by
    rw [seen, List.mem_filter]
    refine ⟨List.mem_dropWhile hkept.1 hmem, ?_⟩
    rw [hkept.2.1]
    rfl
  have hscheme := isSchemeChar_of_isScheme hform c hseen
  rw [hkept.2.2] at hscheme
  cases hscheme

theorem isHarmless_of_isSafeAddress {url : String} (hsafe : isSafeAddress url = true) :
    IsHarmless url := by
  intro scheme hscheme
  obtain ⟨before, after, hurl, hbefore, hform, rfl⟩ := scheme?_eq_some_iff.1 hscheme
  rw [isSafeAddress_iff hurl hbefore, not_isRelative hform] at hsafe
  obtain hfalse | hknown := hsafe
  · cases hfalse
  · have hletters : ∀ c ∈ before.dropWhile Text.isBlank, isSchemeChar c = true := by
      intro c hc
      apply isSchemeChar_of_isAlpha
      apply Char.isAlpha_of_isAlpha_toLower
      apply isAlpha_of_mem_safeSchemes hknown
      rw [String.toList_ofList]
      exact List.mem_map_of_mem hc
    have hword : before.dropWhile Text.isBlank = before.filter isSchemeChar := by
      rw [← List.filter_dropWhile (fun _ ↦ isBlank_of_isSchemeChar) before]
      exact (List.filter_eq_self.2 hletters).symm
    rwa [seen_eq hform, ← hword]

/-! ### Addresses as they are written -/

/-- A browser leaves nothing out of visible characters. -/
theorem seen_eq_self {before : List Char} (hvisible : ∀ c ∈ before, 0x20 < c.toNat) :
    seen before = before := by
  have hstart : before.dropWhile isControl = before := by
    cases before with
    | nil => rfl
    | cons c rest =>
      have hc := isControl_of_visible (hvisible c List.mem_cons_self)
      exact List.dropWhile_cons_of_neg (by simp [hc])
  rw [seen, hstart, List.filter_eq_self]
  intro c hc
  rw [isDropped_of_visible (hvisible c hc)]
  rfl

theorem visible_of_mem_encodeAddressChar {c d : Char} (hd : d ∈ Html.encodeAddressChar c) :
    0x20 < d.toNat := by
  have hplain : Html.plainInAddress.all (0x20 < ·.toNat) = true := by decide
  have hdigits : ∀ n < 16, 0x20 < (Text.upperHexDigit n).toNat := by decide
  unfold Html.encodeAddressChar at hd
  split at hd
  · next hshown =>
    obtain rfl := List.mem_singleton.1 hd
    simp only [Bool.or_eq_true, List.contains_iff_mem, beq_iff_eq] at hshown
    obtain ((halphanum | hmem) | rfl) | rfl := hshown
    · exact (isSchemeChar_bounds (by simp [isSchemeChar, halphanum])).1
    · exact of_decide_eq_true (List.all_eq_true.1 hplain _ hmem)
    · decide
    · decide
  · obtain rfl | ⟨n, hn, rfl⟩ := Html.mem_percentChar hd
    · decide
    · exact hdigits n hn

theorem exists_percentChar_eq (c : Char) : ∃ rest, Text.percentChar c = '%' :: rest := by
  cases hbytes : String.utf8EncodeChar c with
  | nil => exact absurd hbytes String.utf8EncodeChar_ne_nil
  | cons b rest =>
    rw [Text.percentChar, hbytes]
    exact ⟨_, rfl⟩

/-- A character that is no percent sign has not been encoded. -/
theorem eq_cons_of_flatMap_encodeAddressChar {cs rest : List Char} {d : Char} (hd : d ≠ '%')
    (hcs : cs.flatMap Html.encodeAddressChar = d :: rest) :
    ∃ more, cs = d :: more ∧ more.flatMap Html.encodeAddressChar = rest := by
  cases cs with
  | nil => cases hcs
  | cons c more =>
    rw [List.flatMap_cons, Html.encodeAddressChar] at hcs
    split at hcs
    · obtain ⟨rfl, hrest⟩ := List.cons.inj hcs
      exact ⟨more, rfl, hrest⟩
    · obtain ⟨percent, hpercent⟩ := exists_percentChar_eq c
      rw [hpercent] at hcs
      exact absurd (List.cons.inj hcs).1.symm hd

theorem eq_append_of_flatMap_encodeAddressChar {cs before after : List Char}
    (hbefore : ∀ c ∈ before, isSchemeChar c = true)
    (hcs : cs.flatMap Html.encodeAddressChar = before ++ ':' :: after) :
    ∃ more, cs = before ++ ':' :: more := by
  induction before generalizing cs with
  | nil =>
    obtain ⟨more, rfl, -⟩ := eq_cons_of_flatMap_encodeAddressChar (by decide) hcs
    exact ⟨more, rfl⟩
  | cons d before ih =>
    rw [List.forall_mem_cons] at hbefore
    have hd : d ≠ '%' := by
      rintro rfl
      cases hbefore.1
    obtain ⟨more, rfl, hmore⟩ := eq_cons_of_flatMap_encodeAddressChar hd hcs
    obtain ⟨rest, rfl⟩ := ih hbefore.2 hmore
    exact ⟨rest, rfl⟩

/-- Encoding brings no scheme about. -/
theorem scheme?_of_encodeAddress {url scheme : String}
    (hscheme : scheme? (Html.encodeAddress url) = some scheme) : scheme? url = some scheme := by
  rw [scheme?_eq_some_iff] at hscheme ⊢
  obtain ⟨before, after, hencoded, hbefore, hform, rfl⟩ := hscheme
  rw [Html.encodeAddress, Html.escapeWith, String.toList_ofList] at hencoded
  have hseen : seen before = before := by
    apply seen_eq_self
    intro c hc
    have hmem : c ∈ url.toList.flatMap Html.encodeAddressChar := by
      rw [hencoded]
      exact List.mem_append_left _ hc
    obtain ⟨d, -, hd⟩ := List.mem_flatMap.1 hmem
    exact visible_of_mem_encodeAddressChar hd
  have hchars : ∀ c ∈ before, isSchemeChar c = true := by
    rw [← hseen]
    exact isSchemeChar_of_isScheme hform
  obtain ⟨rest, hurl⟩ := eq_append_of_flatMap_encodeAddressChar hchars hencoded
  exact ⟨before, rest, hurl, hbefore, hform, rfl⟩

theorem isHarmless_encodeAddress {url : String} (hsafe : isSafeAddress url = true) :
    IsHarmless (Html.encodeAddress url) := by
  intro scheme hscheme
  exact isHarmless_of_isSafeAddress hsafe scheme (scheme?_of_encodeAddress hscheme)

end CitedChat.Page
