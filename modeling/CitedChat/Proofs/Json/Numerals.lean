import CitedChat.Proofs.Json.Grammar
import CitedChat.Proofs.Library
import Mathlib.Data.List.TakeWhile

/-!
Numbers are read exactly as they are written. Whatever follows that does not go on with it, a number
is read from its text if it is in range (`Decimal.readNumber_eq_ok_iff`), and what is read as a
number is the text of one (`exists_decimal`). It is an integer if and only if it is written without
a fraction and an exponent, fits into 64 bits and is not a zero behind a minus sign
(`Decimal.number?_eq_integer_iff`).
-/

set_option autoImplicit false

namespace CitedChat.Json

/-- Nothing comes next that would go on with a number. -/
def EndsNumber (cs : List Char) : Prop :=
  ∀ c ∈ cs.head?, c.isDigit = false ∧ c ≠ '.' ∧ c ≠ 'e' ∧ c ≠ 'E'

theorem EndsNumber.noDigit {cs : List Char} (h : EndsNumber cs) : NoDigit cs :=
  fun c hc ↦ (h c hc).1

theorem noDigit_dropWhile (cs : List Char) : NoDigit (cs.dropWhile Char.isDigit) := by
  intro c hc
  have hhead := List.head?_dropWhile_not Char.isDigit cs
  rw [Option.mem_def.1 hc] at hhead
  exact hhead

/-- The digits that come next, if there are any. -/
theorem spanDigits_cases (cs : List Char) :
    (spanDigits cs).1 = [] ∨ ∃ (digits : Digits) (rest : List Char),
      spanDigits cs = (digits.chars, rest) ∧ cs = digits.chars ++ rest ∧ NoDigit rest := by
  by_cases hnone : cs.takeWhile Char.isDigit = []
  · exact .inl (by rw [spanDigits, List.span_eq_takeWhile_dropWhile, hnone])
  · exact .inr ⟨⟨_, hnone, fun _ ↦ List.mem_takeWhile_imp⟩, cs.dropWhile Char.isDigit,
      List.span_eq_takeWhile_dropWhile _ _, List.takeWhile_append_dropWhile.symm,
      noDigit_dropWhile cs⟩

/-! ### Exponents -/

/-- The digits of an exponent are taken to the last one, or dropped from some place on. -/
theorem takeExponent_append {digits : List Char} (hdigits : ∀ c ∈ digits, c.isDigit = true)
    {rest : List Char} (hrest : NoDigit rest) (value : Nat) :
    takeExponent (digits ++ rest) value =
        ((takeExponent digits value).1, (takeExponent digits value).2 ++ rest) ∧
      (∀ n, (takeExponent digits value).1 = some n → (takeExponent digits value).2 = []) ∧
      ∀ c ∈ (takeExponent digits value).2, c.isDigit = true := by
  induction digits generalizing value with
  | nil =>
    refine ⟨?_, fun _ _ ↦ rfl, fun c hc ↦ by cases hc⟩
    cases rest with
    | nil => rfl
    | cons c rest => simp [takeExponent, hrest c rfl]
  | cons d digits ih =>
    obtain ⟨hd, hmore⟩ := List.forall_mem_cons.1 hdigits
    simp only [List.cons_append, takeExponent, hd, if_true]
    split
    · exact ih hmore _
    · exact ⟨rfl, fun n hn ↦ (by cases hn), hmore⟩

theorem finishFloat_eq_ok_iff (negative : Bool) (value : Nat) (exponent : Int) (rest : List Char)
    (result : Number × List Char) :
    finishFloat negative value exponent rest = .ok result ↔
      float? negative value exponent = some result.1 ∧ result.2 = rest := by
  obtain ⟨x, left⟩ := result
  rw [finishFloat, float?]
  cases scaleFloat 8 value.toUInt64.toFloat exponent with
  | none => simp [flawAt]
  | some y => simp [eq_comm]

/-- The digits of an exponent come to its number, or to zero or nothing if they pass its range. -/
theorem exponent_eq_ok_iff (e : Exponent) {rest : List Char} (hrest : NoDigit rest)
    (negative : Bool) (value : Nat) (exponent : Int) (result : Number × List Char) :
    (match takeExponent (e.digits.chars ++ rest) 0 with
      | (some n, rest) =>
        finishFloat negative value (if e.down then exponent - n else exponent + n) rest
      | (none, rest) =>
        if value ≠ 0 ∧ !e.down then flawAt .numberOutOfRange rest
        else .ok (.float (signed negative 0), rest.dropWhile Char.isDigit)) = .ok result ↔
      e.scale? negative value exponent = some result.1 ∧ result.2 = rest := by
  obtain ⟨htaken, hall, hdropped⟩ := takeExponent_append e.digits.digits hrest 0
  obtain ⟨x, left⟩ := result
  rw [htaken, Exponent.scale?]
  cases hnumber : (takeExponent e.digits.chars 0).1 with
  | some n =>
    rw [hall n hnumber]
    exact finishFloat_eq_ok_iff _ _ _ _ _
  | none =>
    dsimp only
    rw [dropWhile_digits hdropped hrest]
    split
    · simp [flawAt]
    · simp [eq_comm]

namespace Exponent

/-- What stands behind the letter. -/
def signedDigits (e : Exponent) : List Char :=
  e.sign.elim [] (fun down ↦ [if down then '-' else '+']) ++ e.digits.chars

theorem readExponent_eq_ok_iff (e : Exponent) {rest : List Char} (hrest : NoDigit rest)
    (negative : Bool) (value : Nat) (exponent : Int) (result : Number × List Char) :
    readExponent negative value exponent (e.signedDigits ++ rest) = .ok result ↔
      e.scale? negative value exponent = some result.1 ∧ result.2 = rest := by
  rw [← exponent_eq_ok_iff e hrest]
  obtain ⟨upper, sign, ⟨digits, hnonempty, hdigits⟩⟩ := e
  obtain ⟨d, more, rfl⟩ := List.exists_cons_of_ne_nil hnonempty
  have hd : d.isDigit = true := hdigits d List.mem_cons_self
  have hdigit : ¬ (!d.isDigit) = true := by simp [hd]
  have hunsigned (behind : List Char) : readExponent negative value exponent (d :: behind) =
      readExponent negative value exponent ('+' :: d :: behind) := by
    have hplus : d ≠ '+' := fun h ↦ by rw [h] at hd; cases hd
    have hminus : d ≠ '-' := fun h ↦ by rw [h] at hd; cases hd
    simp [readExponent, hplus, hminus]
  rcases sign with _ | _ | _
  case' none =>
    rw [show signedDigits ⟨upper, none, d :: more, hnonempty, hdigits⟩ = d :: more from rfl,
      List.cons_append, hunsigned]
  all_goals
    show (if (!d.isDigit) = true then _ else _) = _ ↔ _
    rw [if_neg hdigit]
    exact Iff.rfl

end Exponent

/-- What is read as an exponent is the text of one. -/
theorem exists_exponent {negative : Bool} {value : Nat} {exponent : Int} {cs : List Char}
    {result : Number × List Char} (hread : readExponent negative value exponent cs = .ok result)
    (upper : Bool) :
    ∃ (e : Exponent) (rest : List Char),
      e.upper = upper ∧ cs = e.signedDigits ++ rest ∧ NoDigit rest := by
  have hdigits (sign : Option Bool) (behind : List Char)
      (hfirst : ∃ d rest, behind = d :: rest ∧ d.isDigit = true) :
      ∃ (e : Exponent) (rest : List Char), e.upper = upper ∧ e.sign = sign ∧
        behind = e.digits.chars ++ rest ∧ NoDigit rest := by
    obtain ⟨d, rest, rfl, hd⟩ := hfirst
    obtain hnone | ⟨digits, left, -, hcs, hleft⟩ := spanDigits_cases (d :: rest)
    · simp [spanDigits, List.span_eq_takeWhile_dropWhile, hd] at hnone
    · exact ⟨⟨upper, sign, digits⟩, left, rfl, rfl, hcs, hleft⟩
  obtain ⟨sign, behind, rfl, hfirst⟩ : ∃ (sign : Option Bool) (behind : List Char),
      cs = sign.elim [] (fun down ↦ [if down then '-' else '+']) ++ behind ∧
        ∃ d rest, behind = d :: rest ∧ d.isDigit = true := by
    simp only [readExponent] at hread
    split at hread
    · cases hread
    · next digits d more hdigits =>
      split at hread
      · cases hread
      · next hd =>
        have hd : d.isDigit = true := by simpa using hd
        split at hdigits
        · exact ⟨some false, _, rfl, d, more, hdigits, hd⟩
        · exact ⟨some true, _, rfl, d, more, hdigits, hd⟩
        · exact ⟨none, _, rfl, d, more, hdigits, hd⟩
  obtain ⟨e, rest, hupper, rfl, rfl, hrest⟩ := hdigits sign behind hfirst
  exact ⟨e, rest, hupper, (List.append_assoc _ _ _).symm, hrest⟩

/-! ### Fractions -/

/-- What comes next does not go on with an exponent, or begin one where there is none. -/
structure Exponent.Closed (e : Option Exponent) (rest : List Char) : Prop where
  noDigit : NoDigit rest
  noMark : e = none → ∀ c ∈ rest.head?, c ≠ 'e' ∧ c ≠ 'E'

theorem EndsNumber.closed {rest : List Char} (h : EndsNumber rest) (e : Option Exponent) :
    Exponent.Closed e rest :=
  ⟨h.noDigit, fun _ c hc ↦ (h c hc).2.2⟩

/-- The text of an exponent, where there may be none. -/
def Exponent.text? (e : Option Exponent) : List Char :=
  e.elim [] Exponent.text

theorem Exponent.Closed.noDigit_text {e : Option Exponent} {rest : List Char}
    (h : Exponent.Closed e rest) : NoDigit (Exponent.text? e ++ rest) := by
  cases e with
  | none => exact h.noDigit
  | some e =>
    intro c hc
    obtain ⟨upper, sign, digits⟩ := e
    cases upper <;> cases Option.some.inj hc <;> rfl

theorem Exponent.text_append (e : Exponent) (rest : List Char) :
    e.text ++ rest = (if e.upper then 'E' else 'e') :: (e.signedDigits ++ rest) := rfl

theorem readFraction_eq_ok_iff (f : Digits) {e : Option Exponent} {rest : List Char}
    (hclosed : Exponent.Closed e rest) (negative : Bool) (value : Nat) (exponent : Int)
    (result : Number × List Char) :
    readFraction negative value exponent (f.chars ++ (Exponent.text? e ++ rest)) = .ok result ↔
      scale? e negative (takeFraction f.chars value exponent).1
          (takeFraction f.chars value exponent).2 = some result.1 ∧ result.2 = rest := by
  obtain ⟨d, more, hcons⟩ := List.exists_cons_of_ne_nil f.nonempty
  rw [readFraction, spanDigits_append f.digits hclosed.noDigit_text, hcons]
  cases e with
  | none =>
    have hnone : Exponent.text? none ++ rest = rest := rfl
    rw [hnone]
    cases rest with
    | nil => exact finishFloat_eq_ok_iff _ _ _ _ _
    | cons c rest =>
      obtain ⟨hlower, hupper⟩ := hclosed.noMark rfl c rfl
      simpa [hlower, hupper, scale?] using finishFloat_eq_ok_iff _ _ _ (c :: rest) result
  | some e =>
    rw [Exponent.text?, Option.elim_some, e.text_append]
    cases e.upper <;> exact e.readExponent_eq_ok_iff hclosed.noDigit _ _ _ _

/-- What begins with an exponent that is read is an exponent with what follows it. -/
theorem exists_exponent_text {negative : Bool} {value : Nat} {exponent : Int} {cs : List Char}
    {result : Number × List Char} (hread : readExponent negative value exponent cs = .ok result)
    (upper : Bool) :
    ∃ (e : Exponent) (rest : List Char),
      (if upper then 'E' else 'e') :: cs = e.text ++ rest ∧ Exponent.Closed (some e) rest := by
  obtain ⟨e, rest, rfl, rfl, hrest⟩ := exists_exponent hread upper
  exact ⟨e, rest, (e.text_append rest).symm, hrest, fun h ↦ by cases h⟩

/-- What is read as a fraction is the text of one, with an exponent or none. -/
theorem exists_fraction {negative : Bool} {value : Nat} {exponent : Int} {cs : List Char}
    {result : Number × List Char} (hread : readFraction negative value exponent cs = .ok result) :
    ∃ (f : Digits) (e : Option Exponent) (rest : List Char),
      cs = f.chars ++ (Exponent.text? e ++ rest) ∧ Exponent.Closed e rest := by
  rw [readFraction] at hread
  obtain hnone | ⟨f, rest, hspan, rfl, hrest⟩ := spanDigits_cases cs
  · rcases hspan : spanDigits cs with ⟨digits, rest⟩
    rw [hspan] at hnone hread
    obtain rfl : digits = [] := hnone
    cases rest <;> cases hread
  · obtain ⟨d, more, hcons⟩ := List.exists_cons_of_ne_nil f.nonempty
    rw [hspan, hcons] at hread
    simp only at hread
    split at hread
    · obtain ⟨e, rest, htext, hclosed⟩ := exists_exponent_text hread false
      exact ⟨f, some e, rest, congrArg (f.chars ++ ·) htext, hclosed⟩
    · obtain ⟨e, rest, htext, hclosed⟩ := exists_exponent_text hread true
      exact ⟨f, some e, rest, congrArg (f.chars ++ ·) htext, hclosed⟩
    · next hlower hupper =>
      exact ⟨f, none, rest, rfl, hrest,
        fun _ c hc ↦ ⟨List.ne_of_mem_head? hlower c hc, List.ne_of_mem_head? hupper c hc⟩⟩

/-! ### Whole numbers -/

namespace Decimal

/-- What comes next does not go on with a number. -/
structure Closed (d : Decimal) (rest : List Char) : Prop where
  closed : Exponent.Closed d.exponent rest
  noPoint : d.fraction = none → d.exponent = none → ∀ c ∈ rest.head?, c ≠ '.'

end Decimal

theorem EndsNumber.closed_decimal {rest : List Char} (h : EndsNumber rest) (d : Decimal) :
    d.Closed rest :=
  ⟨h.closed d.exponent, fun _ _ c hc ↦ (h c hc).2.1⟩

namespace Decimal

/-- What stands behind the whole part. -/
def behind (d : Decimal) : List Char :=
  d.fraction.elim [] (fun f ↦ '.' :: f.chars) ++ Exponent.text? d.exponent

theorem text_append (d : Decimal) (rest : List Char) :
    d.text ++ rest =
      (if d.negative then ['-'] else []) ++ (d.whole.chars ++ (d.behind ++ rest)) := by
  simp [text, behind, Exponent.text?]

theorem Closed.noDigit {d : Decimal} {rest : List Char} (h : d.Closed rest) :
    NoDigit (d.behind ++ rest) := by
  rw [behind, List.append_assoc]
  cases d.fraction with
  | none => exact h.closed.noDigit_text
  | some f =>
    intro c hc
    cases Option.some.inj hc
    rfl

/-- A number is read behind its sign. -/
theorem readUnsigned_eq_ok_iff (d : Decimal) {rest : List Char} (hclosed : d.Closed rest)
    (result : Number × List Char) :
    readUnsigned d.negative (d.whole.chars ++ (d.behind ++ rest)) = .ok result ↔
      d.number? = some result.1 ∧ result.2 = rest := by
  have hspan := spanDigits_append d.whole.digits hclosed.noDigit
  obtain ⟨c, more, hcons⟩ := List.exists_cons_of_ne_nil d.whole.nonempty
  have hdigit : c.isDigit = true := d.whole.digits c (by simp [hcons])
  have hleading : (c == '0' && decide (1 < (c :: more).length)) = false := by
    have hone := d.leading
    rw [hcons] at hone
    by_cases hzero : c = '0'
    · simp [hone (by simp [hzero])]
    · simp [hzero]
  obtain ⟨hends, hpoint⟩ := hclosed
  rw [hcons, List.cons_append] at hspan
  rw [hcons, List.cons_append]
  simp only [readUnsigned, hspan, hdigit, hleading, number?, hcons]
  rcases takeWhole (c :: more) 0 0 with ⟨value, dropped⟩
  simp only [behind]
  cases hfraction : d.fraction with
  | some f =>
    simpa using readFraction_eq_ok_iff f hends d.negative value dropped result
  | none =>
    cases hexponent : d.exponent with
    | some e =>
      rw [hexponent] at hends
      simp only [Option.elim_none, List.nil_append, Exponent.text?, Option.elim_some, e.text_append]
      cases e.upper <;> simpa [scale?] using e.readExponent_eq_ok_iff hends.noDigit _ _ _ _
    | none =>
      rw [hexponent] at hends
      have hends : ∀ c ∈ rest.head?, c ≠ '.' ∧ c ≠ 'e' ∧ c ≠ 'E' :=
        fun c hc ↦ ⟨hpoint hfraction hexponent c hc, hends.noMark rfl c hc⟩
      have hwhole : (if (dropped == 0) = true then .ok (wholeNumber d.negative value, rest)
          else finishFloat d.negative value dropped rest) = .ok result ↔
            (if dropped == 0 then some (wholeNumber d.negative value)
              else scale? none d.negative value dropped) = some result.1 ∧ result.2 = rest := by
        split
        · simp [Prod.ext_iff, eq_comm]
        · exact finishFloat_eq_ok_iff _ _ _ _ _
      cases rest with
      | nil => simpa [Exponent.text?] using hwhole
      | cons c rest =>
        obtain ⟨hpoint, hlower, hupper⟩ := hends c rfl
        simpa [Exponent.text?, hpoint, hlower, hupper] using hwhole

/-- What is read behind the sign is the rest of a number. -/
theorem exists_unsigned {negative : Bool} {cs : List Char} {result : Number × List Char}
    (hread : readUnsigned negative cs = .ok result) :
    ∃ (d : Decimal) (rest : List Char), d.negative = negative ∧
      cs = d.whole.chars ++ (d.behind ++ rest) ∧ d.Closed rest := by
  obtain ⟨c, cs, rfl⟩ : ∃ c more, cs = c :: more := by
    cases cs with
    | nil => cases hread
    | cons c cs => exact ⟨c, cs, rfl⟩
  rw [readUnsigned] at hread
  split at hread
  · cases hread
  next hdigit =>
  obtain hnone | ⟨whole, behind, hspan, hcs, hbehind⟩ := spanDigits_cases (c :: cs)
  · have hdigit : c.isDigit = true := by simpa using hdigit
    simp [spanDigits, List.span_eq_takeWhile_dropWhile, hdigit] at hnone
  rw [hspan] at hread
  dsimp only at hread
  split at hread
  · cases hread
  next hzero =>
  have hleading : whole.chars.head? = some '0' → whole.chars.length = 1 := by
    obtain ⟨first, more, hcons⟩ := List.exists_cons_of_ne_nil whole.nonempty
    rw [hcons] at hcs hzero ⊢
    obtain rfl : c = first := (List.cons.inj hcs).1
    intro hhead
    obtain rfl : c = '0' := Option.some.inj hhead
    simpa using hzero
  rw [hcs]
  split at hread
  · obtain ⟨f, e, rest, rfl, hclosed⟩ := exists_fraction hread
    refine ⟨⟨negative, whole, some f, e, hleading⟩, rest, rfl, ?_, hclosed, fun h ↦ by cases h⟩
    simp [behind]
  · obtain ⟨e, rest, htext, hclosed⟩ := exists_exponent_text hread false
    exact ⟨⟨negative, whole, none, some e, hleading⟩, rest, rfl, congrArg (whole.chars ++ ·) htext,
      hclosed, fun _ h ↦ by cases h⟩
  · obtain ⟨e, rest, htext, hclosed⟩ := exists_exponent_text hread true
    exact ⟨⟨negative, whole, none, some e, hleading⟩, rest, rfl, congrArg (whole.chars ++ ·) htext,
      hclosed, fun _ h ↦ by cases h⟩
  · next hpoint hlower hupper =>
    exact ⟨⟨negative, whole, none, none, hleading⟩, behind, rfl, rfl,
      ⟨hbehind, fun _ c hc ↦ ⟨List.ne_of_mem_head? hlower c hc, List.ne_of_mem_head? hupper c hc⟩⟩,
      fun _ _ ↦ List.ne_of_mem_head? hpoint⟩

theorem text_head (d : Decimal) (rest : List Char) :
    ∃ c more, d.text ++ rest = c :: more ∧ (c == '-' || c.isDigit) = true := by
  obtain ⟨c, more, hcons⟩ := List.exists_cons_of_ne_nil d.whole.nonempty
  rw [text_append, hcons]
  cases d.negative with
  | false =>
    have hdigit : c.isDigit = true := d.whole.digits c (by simp [hcons])
    exact ⟨c, _, rfl, by simp [hdigit]⟩
  | true => exact ⟨'-', _, rfl, rfl⟩

/-- A number is read from its text, whatever follows it. -/
theorem readNumber_eq_ok_iff (d : Decimal) {rest : List Char} (hclosed : d.Closed rest)
    (result : Number × List Char) :
    readNumber (d.text ++ rest) = .ok result ↔ d.number? = some result.1 ∧ result.2 = rest := by
  rw [← d.readUnsigned_eq_ok_iff hclosed, text_append]
  cases hnegative : d.negative with
  | true => exact Iff.rfl
  | false =>
    obtain ⟨c, more, hcons⟩ := List.exists_cons_of_ne_nil d.whole.nonempty
    have hminus : c ≠ '-' := by
      rintro rfl
      cases d.whole.digits '-' (by simp [hcons])
    simp [hcons, readNumber, hminus]

end Decimal

/-- What is read as a number is the text of one. -/
theorem exists_decimal {cs : List Char} {result : Number × List Char}
    (hread : readNumber cs = .ok result) :
    ∃ d : Decimal, cs = d.text ++ result.2 ∧ d.number? = some result.1 := by
  obtain ⟨negative, behind, hcs, hunsigned⟩ : ∃ negative behind,
      cs = (if negative = true then ['-'] else []) ++ behind ∧
        readUnsigned negative behind = .ok result := by
    unfold readNumber at hread
    split at hread
    · exact ⟨true, _, rfl, hread⟩
    · exact ⟨false, _, rfl, hread⟩
  obtain ⟨d, rest, rfl, rfl, hclosed⟩ := Decimal.exists_unsigned hunsigned
  rw [← d.text_append] at hcs
  rw [hcs] at hread
  obtain ⟨hnumber, hrest⟩ := (d.readNumber_eq_ok_iff hclosed result).1 hread
  exact ⟨d, hrest ▸ hcs, hnumber⟩

/-! ### Integers -/

theorem float?_ne_integer (negative : Bool) (value : Nat) (exponent n : Int) :
    float? negative value exponent ≠ some (.integer n) := by
  intro h
  obtain ⟨x, -, hfloat⟩ := Option.map_eq_some_iff.1 h
  cases hfloat

theorem scale?_ne_integer (e : Option Exponent) (negative : Bool) (value : Nat)
    (exponent n : Int) : scale? e negative value exponent ≠ some (.integer n) := by
  cases e with
  | none => exact float?_ne_integer _ _ _ _
  | some e =>
    intro h
    rw [scale?, Option.elim_some, Exponent.scale?] at h
    split at h
    · exact float?_ne_integer _ _ _ _ h
    · split at h <;> cases h

theorem takeWhole_dropped_ne_zero (digits : List Char) (value dropped : Nat) (h : dropped ≠ 0) :
    (takeWhole digits value dropped).2 ≠ 0 := by
  induction digits generalizing dropped with
  | nil => exact h
  | cons c rest ih =>
    rw [takeWhole, if_neg (by simp [h])]
    exact ih _ (Nat.succ_ne_zero dropped)

/-- No digit is dropped if and only if the number fits. -/
theorem takeWhole_dropped_eq_zero_iff {digits : List Char} {value : Nat}
    (hvalue : value < Word.limit) :
    (takeWhole digits value 0).2 = 0 ↔ Nat.ofDigitChars 10 digits value < Word.limit := by
  refine ⟨fun h ↦ ?_, fun h ↦ by rw [takeWhole_eq h]⟩
  induction digits generalizing value with
  | nil => rwa [Nat.ofDigitChars_nil]
  | cons c rest ih =>
    rw [takeWhole] at h
    rw [digitValue_eq]
    split at h
    · next hfits => exact ih (by simpa using hfits) h
    · exact absurd h (takeWhole_dropped_ne_zero rest value 1 (by decide))

namespace Decimal

/-- The digits before the point, as a number. -/
def magnitude (d : Decimal) : Nat :=
  Nat.ofDigitChars 10 d.whole.chars 0

theorem wholeNumber_eq_integer_iff {negative : Bool} {value : Nat} (n : Int) :
    wholeNumber negative value = .integer n ↔
      if negative then 0 < value ∧ value ≤ Word.signedLimit ∧ n = -value else n = value := by
  cases negative with
  | false =>
    have hwhole : wholeNumber false value = .integer value := rfl
    rw [hwhole]
    exact ⟨fun h ↦ (Number.integer.inj h).symm, fun h ↦ congrArg Number.integer h.symm⟩
  | true =>
    by_cases hsmall : value = 0 ∨ Word.signedLimit < value
    · have hnot : ¬ (0 < value ∧ value ≤ Word.signedLimit ∧ n = -value) := by omega
      simp [wholeNumber, hsmall, hnot]
    · have hpos : 0 < value := by omega
      have hfits : value ≤ Word.signedLimit := by omega
      have hwhole : wholeNumber true value = .integer (-value) := by simp [wholeNumber, hsmall]
      rw [hwhole, if_pos rfl]
      exact ⟨fun h ↦ ⟨hpos, hfits, (Number.integer.inj h).symm⟩,
        fun h ↦ congrArg Number.integer h.2.2.symm⟩

/-- An integer is written without a fraction and without an exponent. It fits into 64 bits, with a
sign if it is negative, and a zero behind a minus sign is none. -/
theorem number?_eq_integer_iff (d : Decimal) (n : Int) :
    d.number? = some (.integer n) ↔
      d.fraction = none ∧ d.exponent = none ∧
        if d.negative then 0 < d.magnitude ∧ d.magnitude ≤ Word.signedLimit ∧ n = -d.magnitude
        else d.magnitude < Word.limit ∧ n = d.magnitude := by
  have hdropped : (takeWhole d.whole.chars 0 0).2 = 0 ↔ _ :=
    takeWhole_dropped_eq_zero_iff (by decide)
  have hlimit : Word.signedLimit < Word.limit := by decide
  rw [number?, magnitude]
  cases d.fraction with
  | some f => simp [scale?_ne_integer]
  | none =>
    cases d.exponent with
    | some e => simp [scale?_ne_integer]
    | none =>
      by_cases hfits : Nat.ofDigitChars 10 d.whole.chars 0 < Word.limit
      · simp [takeWhole_eq hfits, wholeNumber_eq_integer_iff, hfits]
      · have hlarge : ¬ Nat.ofDigitChars 10 d.whole.chars 0 ≤ Word.signedLimit := by omega
        simp [mt hdropped.1 hfits, scale?_ne_integer, hfits, hlarge]

end Decimal

end CitedChat.Json
