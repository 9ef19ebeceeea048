import CitedChat.Proofs.Json.Decoding
import CitedChat.Proofs.Json.Grammar
import Mathlib.Data.List.TakeWhile

/-!
What stands around and inside of values is read exactly as it is written: white space, strings with
their escapes (`readStringBody_glyphs`, `exists_glyphs`), and the pieces between brackets.
-/

set_option autoImplicit false

namespace CitedChat.Json

/-! ### White space -/

namespace Space

def none : Space := ⟨[], fun _ h ↦ by cases h⟩

def append (a b : Space) : Space :=
  ⟨a.chars ++ b.chars, fun c hc ↦ (List.mem_append.1 hc).elim (a.blank c) (b.blank c)⟩

end Space

theorem skipSpace_space (space : Space) (rest : List Char) :
    skipSpace (space.chars ++ rest) = skipSpace rest :=
  List.dropWhile_append_of_pos space.blank

theorem exists_space (cs : List Char) : ∃ space : Space, cs = space.chars ++ skipSpace cs :=
  ⟨⟨cs.takeWhile isSpace, fun _ ↦ List.mem_takeWhile_imp⟩, List.takeWhile_append_dropWhile.symm⟩

/-! ### Escapes -/

theorem CodeUnit.readUnit_chars (unit : CodeUnit) (rest : List Char) :
    readUnit (unit.chars ++ rest) = .ok (unit.value, rest) := by
  simp [chars, value, readUnit, unit.first.reads, unit.second.reads, unit.third.reads,
    unit.fourth.reads]

theorem readUnit_short_ne_ok (cs : List Char) (result : Nat × List Char) :
    readUnit.short cs ≠ .ok result := by
  rw [readUnit.short]
  split <;> (intro h; cases h)

theorem exists_unit {cs : List Char} {result : Nat × List Char}
    (hread : readUnit cs = .ok result) :
    ∃ unit : CodeUnit, cs = unit.chars ++ result.2 ∧ unit.value = result.1 := by
  rw [readUnit.eq_def] at hread
  split at hread
  · next a b c d rest =>
    split at hread
    · next ha hb hc hd =>
      cases hread
      exact ⟨⟨⟨a, _, ha⟩, ⟨b, _, hb⟩, ⟨c, _, hc⟩, ⟨d, _, hd⟩⟩, rfl, rfl⟩
    · exact absurd hread (readUnit_short_ne_ok _ _)
  · exact absurd hread (readUnit_short_ne_ok _ _)

/-- What is read behind a backslash and the letter `u` is a code or a pair of them. -/
theorem exists_point {cs : List Char} {result : Char × List Char}
    (hread : readPoint cs = .ok result) :
    ∃ glyph : Glyph, '\\' :: 'u' :: cs = glyph.text ++ result.2 ∧ glyph.char = result.1 := by
  rw [readPoint] at hread
  obtain ⟨⟨high, rest⟩, hhigh, hbehind⟩ := Except.bind_eq_ok hread
  obtain ⟨unit, rfl, hunit⟩ := exists_unit hhigh
  obtain rfl : unit.value = high := hunit
  dsimp only at hbehind ⊢
  split at hbehind
  · cases hbehind
  next hlone =>
  split at hbehind
  · next hscalar =>
    cases hbehind
    exact ⟨.code unit (by omega), rfl, rfl⟩
  next hsurrogate =>
  split at hbehind
  · cases hbehind
  · cases hbehind
  · next more =>
    obtain ⟨⟨low, rest⟩, hlow, hlast⟩ := Except.bind_eq_ok hbehind
    obtain ⟨second, rfl, hsecond⟩ := exists_unit hlow
    obtain rfl : second.value = low := hsecond
    dsimp only at hlast
    split at hlast
    · cases hlast
    · next hpair =>
      obtain rfl := Except.ok.inj hlast
      exact ⟨.pair unit second (by omega) (by omega), by simp [Glyph.text], by rw [Glyph.char]⟩
  · cases hbehind
  · cases hbehind

/-! ### Strings -/

/-- One character of a string is read. -/
theorem Glyph.readStringBody_text (glyph : Glyph) (budget : Nat) (done rest : List Char) :
    readStringBody (budget + 1) done (glyph.text ++ rest) =
      readStringBody budget (glyph.char :: done) rest := by
  cases glyph with
  | plain c hquote hbackslash hcontrol =>
    have hplain : ¬ c.toNat < 0x20 := by omega
    simp [text, char, readStringBody, hquote, hbackslash, hplain]
  | short letter c hletter =>
    have hu : letter ≠ 'u' := by
      rintro rfl
      cases hletter
    simp [text, char, readStringBody, hletter]
  | code unit hscalar =>
    have hpoint : readPoint (unit.chars ++ rest) = .ok (Char.ofNat unit.value, rest) := by
      have hlone : ¬ (0xdc00 ≤ unit.value ∧ unit.value ≤ 0xdfff) := by omega
      have hplain : unit.value < 0xd800 ∨ 0xdbff < unit.value := by omega
      rw [readPoint, unit.readUnit_chars]
      simp [bind, Except.bind, pure, Except.pure, hlone, hplain]
    simp [text, char, readStringBody, hpoint, bind, Except.bind]
  | pair high low hhigh hlow =>
    have hpoint : readPoint (high.chars ++ '\\' :: 'u' :: (low.chars ++ rest)) =
        .ok ((pair high low hhigh hlow).char, rest) := by
      have hlone : ¬ (0xdc00 ≤ high.value ∧ high.value ≤ 0xdfff) := by omega
      have hsurrogate : ¬ (high.value < 0xd800 ∨ 0xdbff < high.value) := by omega
      have hsecond : ¬ (low.value < 0xdc00 ∨ 0xdfff < low.value) := by omega
      rw [readPoint, high.readUnit_chars]
      simp only [bind, Except.bind, hlone, hsurrogate, if_false, low.readUnit_chars, hsecond]
      rfl
    simp [text, readStringBody, hpoint, bind, Except.bind]

/-- A string is read up to its closing quote. -/
theorem readStringBody_glyphs {glyphs : List Glyph} {budget : Nat}
    (hbudget : glyphs.length < budget) (done rest : List Char) :
    readStringBody budget done (glyphs.flatMap Glyph.text ++ '"' :: rest) =
      .ok (String.ofList (done.reverse ++ glyphs.map Glyph.char), rest) := by
  induction glyphs generalizing budget done with
  | nil =>
    obtain ⟨budget, rfl⟩ := Nat.exists_eq_add_one_of_ne_zero (Nat.ne_zero_of_lt hbudget)
    simp [readStringBody]
  | cons glyph glyphs ih =>
    obtain ⟨budget, rfl⟩ := Nat.exists_eq_add_one_of_ne_zero (Nat.ne_zero_of_lt hbudget)
    rw [List.flatMap_cons, List.append_assoc, glyph.readStringBody_text,
      ih (Nat.lt_of_succ_lt_succ hbudget)]
    simp

theorem exists_glyph {budget : Nat} {done cs : List Char} {result : String × List Char}
    (hread : readStringBody (budget + 1) done cs = .ok result) :
    (cs = '"' :: result.2 ∧ result.1 = String.ofList done.reverse) ∨
      ∃ (glyph : Glyph) (rest : List Char), cs = glyph.text ++ rest ∧
        readStringBody budget (glyph.char :: done) rest = .ok result := by
  cases cs with
  | nil => cases hread
  | cons c cs =>
    simp only [readStringBody] at hread
    split at hread
    · next hquote =>
      cases hread
      exact .inl ⟨by rw [beq_iff_eq.1 hquote], rfl⟩
    next hquote =>
    split at hread
    · next hbackslash =>
      obtain rfl := beq_iff_eq.1 hbackslash
      split at hread
      · cases hread
      · next more =>
        obtain ⟨⟨point, rest⟩, hpoint, hread⟩ := Except.bind_eq_ok hread
        obtain ⟨glyph, htext, rfl⟩ := exists_point hpoint
        exact .inr ⟨glyph, rest, htext, hread⟩
      · next letter more hletter =>
        split at hread
        · next x hescape => exact .inr ⟨.short letter x hescape, more, rfl, hread⟩
        · cases hread
    next hbackslash =>
    split at hread
    · cases hread
    next hcontrol =>
    exact .inr ⟨.plain c (by simpa using hquote) (by simpa using hbackslash) (by omega), cs, rfl,
      hread⟩

/-- What is read as a string is the text of one. -/
theorem exists_glyphs {budget : Nat} {done cs : List Char} {result : String × List Char}
    (hread : readStringBody budget done cs = .ok result) :
    ∃ glyphs : List Glyph, cs = glyphs.flatMap Glyph.text ++ '"' :: result.2 ∧
      result.1 = String.ofList (done.reverse ++ glyphs.map Glyph.char) := by
  induction budget generalizing done cs with
  | zero => cases hread
  | succ budget ih =>
    obtain ⟨rfl, hresult⟩ | ⟨glyph, rest, rfl, hmore⟩ := exists_glyph hread
    · exact ⟨[], rfl, by simpa using hresult⟩
    · obtain ⟨glyphs, rfl, hresult⟩ := ih hmore
      exact ⟨glyph :: glyphs, by simp, by simpa using hresult⟩

end CitedChat.Json
