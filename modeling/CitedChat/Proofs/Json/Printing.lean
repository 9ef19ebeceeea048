import CitedChat.Json.Printer
import CitedChat.Json.TreeReader
import Mathlib.Data.List.TakeDrop

/-!
What is printed is read back. A text between quotes is read with its escapes undone
(`readString_print`), an integer that fits a word from its digits (`readNumber_print`), and
sequences and maps piece by piece (`readItems_joined`, `Tree.readMembers_joined`), if what follows
can follow a value (`Ends`). A value of strings and such integers, nested no deeper than the format
allows (`Tree.Readable`), is what its text denotes, with its keys sorted (`Tree.parse_text`).
-/

set_option autoImplicit false

namespace CitedChat.Json

/-- What may follow a value: nothing, a comma or a closing bracket. -/
def Ends : List Char → Prop
  | [] => True
  | c :: _ => c = ',' ∨ c = ']' ∨ c = '\x7d'

/-! ### Strings -/

theorem hexValue?_hexDigit : ∀ n < 16, hexValue? (hexDigit n) = some n := by
  decide

/-- The four digits of a small code. -/
theorem readUnit_code {n : Nat} (hsmall : n < 0x20) (rest : List Char) :
    readUnit ('0' :: '0' :: hexDigit (n / 16) :: hexDigit (n % 16) :: rest) = .ok (n, rest) := by
  have hzero : hexValue? '0' = some 0 := by decide
  have hcode : ((0 * 16 + 0) * 16 + n / 16) * 16 + n % 16 = n := by omega
  rw [readUnit, hzero, hexValue?_hexDigit _ (by omega), hexValue?_hexDigit _ (by omega)]
  dsimp only
  rw [hcode]

/-- A character is read back whether it is escaped or not. -/
theorem readStringBody_escapeChar (budget : Nat) (done : List Char) (c : Char) (rest : List Char) :
    readStringBody (budget + 1) done (escapeChar c ++ rest) =
      readStringBody budget (c :: done) rest := by
  simp only [escapeChar, beq_iff_eq]
  iterate 7
    split
    · next h =>
      subst h
      rfl
  split
  · next hcontrol =>
    have hpoint : readPoint ('0' :: '0' :: hexDigit (c.toNat / 16) :: hexDigit (c.toNat % 16) ::
        rest) = .ok (c, rest) := by
      have hplain : ¬ (0xdc00 ≤ c.toNat ∧ c.toNat ≤ 0xdfff) ∧ c.toNat < 0xd800 := by omega
      rw [readPoint, readUnit_code hcontrol]
      simp [bind, Except.bind, pure, Except.pure, hplain, Char.ofNat_toNat]
    simp [readStringBody, hpoint, bind, Except.bind]
  · next hquote hbackslash _ _ _ _ _ hplain =>
    simp [readStringBody, hquote, hbackslash, hplain]

/-- A text is read back up to its closing quote. -/
theorem readStringBody_escaped {budget : Nat} (text done rest : List Char)
    (hbudget : text.length < budget) :
    readStringBody budget done (text.flatMap escapeChar ++ '"' :: rest) =
      .ok (String.ofList (done.reverse ++ text), rest) := by
  induction text generalizing budget done with
  | nil =>
    obtain ⟨budget, rfl⟩ := Nat.exists_eq_add_one_of_ne_zero (Nat.ne_zero_of_lt hbudget)
    simp [readStringBody]
  | cons c text ih =>
    obtain ⟨budget, rfl⟩ := Nat.exists_eq_add_one_of_ne_zero (Nat.ne_zero_of_lt hbudget)
    rw [List.flatMap_cons, List.append_assoc, readStringBody_escapeChar,
      ih (c :: done) (Nat.lt_of_succ_lt_succ hbudget)]
    simp

theorem readString_print {budget : Nat} (text : String) (rest : List Char)
    (hbudget : text.toList.length < budget) :
    readStringBody budget [] (text.toList.flatMap escapeChar ++ '"' :: rest) =
      .ok (text, rest) := by
  rw [readStringBody_escaped _ _ _ hbudget]
  simp

/-! ### Numbers -/

/-- No digit comes next. -/
def NoDigit (cs : List Char) : Prop :=
  ∀ c ∈ cs.head?, c.isDigit = false

theorem Ends.noDigit {rest : List Char} (h : Ends rest) : NoDigit rest := by
  intro c hc
  cases rest with
  | nil => cases hc
  | cons d rest =>
    obtain rfl := Option.some.inj hc
    obtain rfl | rfl | rfl := h <;> rfl

theorem dropWhile_digits {digits rest : List Char} (hdigits : ∀ c ∈ digits, c.isDigit = true)
    (hrest : NoDigit rest) : (digits ++ rest).dropWhile Char.isDigit = rest := by
  rw [List.dropWhile_append_of_pos hdigits]
  cases rest with
  | nil => rfl
  | cons c rest => exact List.dropWhile_cons_of_neg (by simp [hrest c rfl])

theorem spanDigits_append {digits rest : List Char} (hdigits : ∀ c ∈ digits, c.isDigit = true)
    (hrest : NoDigit rest) : spanDigits (digits ++ rest) = (digits, rest) := by
  rw [spanDigits, List.span_eq_takeWhile_dropWhile, dropWhile_digits hdigits hrest,
    List.takeWhile_append_of_pos hdigits]
  cases rest with
  | nil => simp
  | cons c rest => simp [hrest c rfl]

theorem digitValue_eq (value : Nat) (c : Char) (rest : List Char) :
    Nat.ofDigitChars 10 (c :: rest) value =
      Nat.ofDigitChars 10 rest (value * 10 + digitValue c) := by
  rw [Nat.ofDigitChars_cons, digitValue, Nat.mul_comm]

theorem le_ofDigitChars (digits : List Char) (value : Nat) :
    value ≤ Nat.ofDigitChars 10 digits value := by
  induction digits generalizing value with
  | nil => exact Nat.le_of_eq Nat.ofDigitChars_nil.symm
  | cons c rest ih =>
    rw [digitValue_eq]
    have hrest := ih (value * 10 + digitValue c)
    omega

/-- Digits whose value is below the limit are taken whole. -/
theorem takeWhole_eq {digits : List Char} {value : Nat}
    (hfits : Nat.ofDigitChars 10 digits value < Word.limit) :
    takeWhole digits value 0 = (Nat.ofDigitChars 10 digits value, 0) := by
  induction digits generalizing value with
  | nil => rw [takeWhole, Nat.ofDigitChars_nil]
  | cons c rest ih =>
    rw [digitValue_eq] at hfits ⊢
    have hnext : value * 10 + digitValue c < Word.limit :=
      Nat.lt_of_le_of_lt (le_ofDigitChars rest _) hfits
    simp [takeWhole, hnext, ih hfits]

/-- Only zero begins with the digit zero. -/
theorem eq_zero_of_toDigits {n : Nat} {digits : List Char}
    (hdigits : Nat.toDigits 10 n = '0' :: digits) : n = 0 := by
  induction n using Nat.strongRecOn generalizing digits with
  | ind n ih =>
    obtain hless | hmore := Nat.lt_or_ge n 10
    · rw [Nat.toDigits_of_lt_base hless] at hdigits
      exact Nat.digitChar_eq_zero.1 (List.cons.inj hdigits).1
    · rw [Nat.toDigits_of_base_le (by omega) hmore] at hdigits
      cases hfirst : Nat.toDigits 10 (n / 10) with
      | nil => exact absurd hfirst Nat.toDigits_ne_nil
      | cons c rest =>
        rw [hfirst, List.cons_append] at hdigits
        obtain rfl : c = '0' := (List.cons.inj hdigits).1
        have hzero := ih (n / 10) (by omega) hfirst
        omega

/-- A number is written in digits, without a zero in front. -/
theorem exists_toDigits (n : Nat) :
    ∃ c digits, Nat.toDigits 10 n = c :: digits ∧ (∀ d ∈ c :: digits, d.isDigit = true) ∧
      (c == '0' && decide (1 < (c :: digits).length)) = false := by
  have hdigits : ∀ d ∈ Nat.toDigits 10 n, d.isDigit = true :=
    fun _ hmem ↦ Nat.isDigit_of_mem_toDigits (by omega) (by omega) hmem
  cases hcons : Nat.toDigits 10 n with
  | nil => exact absurd hcons Nat.toDigits_ne_nil
  | cons c digits =>
    refine ⟨c, digits, rfl, hcons ▸ hdigits, ?_⟩
    by_cases hzero : c = '0'
    · subst hzero
      obtain rfl := eq_zero_of_toDigits hcons
      rw [Nat.toDigits_zero] at hcons
      rw [← hcons]
      rfl
    · simp [hzero]

/-- The digits of a number are read back, whatever their sign. -/
theorem readUnsigned_digits {n : Nat} (hfits : n < Word.limit) (negative : Bool) {rest : List Char}
    (hends : Ends rest) :
    readUnsigned negative (Nat.toDigits 10 n ++ rest) = .ok (wholeNumber negative n, rest) := by
  have hwhole : takeWhole (Nat.toDigits 10 n) 0 0 = (n, 0) := by
    rw [takeWhole_eq (by rwa [Nat.ofDigitChars_ten_toDigits]), Nat.ofDigitChars_ten_toDigits]
  obtain ⟨c, digits, hcons, hdigits, hleading⟩ := exists_toDigits n
  have hspan := spanDigits_append hdigits hends.noDigit
  rw [hcons] at hwhole ⊢
  rw [List.cons_append] at hspan ⊢
  simp only [readUnsigned, hspan, hdigits c List.mem_cons_self, hwhole, hleading]
  cases rest with
  | nil => rfl
  | cons d rest => obtain rfl | rfl | rfl := hends <;> rfl

/-- An integer is written as its magnitude, behind a sign if it is negative. -/
theorem print_integer (n : Int) :
    (Number.integer n).print =
      if 0 ≤ n then Nat.toDigits 10 n.natAbs else '-' :: Nat.toDigits 10 n.natAbs := by
  rw [Number.print, Int.toString_eq_repr]
  cases n with
  | ofNat n => exact Nat.toList_repr
  | negSucc n =>
    rw [Int.repr, String.toList_append, Nat.toList_repr]
    rfl

/-- An integer that fits a word, with or without a sign, is read back. -/
theorem readNumber_print {n : Int} (hlower : -(Word.signedLimit : Int) ≤ n)
    (hupper : n < Word.limit) {rest : List Char} (hends : Ends rest) :
    readNumber ((Number.integer n).print ++ rest) = .ok (.integer n, rest) := by
  have hlimit : Word.limit = 2 * Word.signedLimit := rfl
  have hunsigned (negative : Bool) :=
    readUnsigned_digits (n := n.natAbs) (by omega) negative hends
  obtain ⟨c, digits, hcons, hdigits, -⟩ := exists_toDigits n.natAbs
  rw [print_integer]
  by_cases hsign : 0 ≤ n
  · have hwhole : wholeNumber false n.natAbs = .integer n := by
      simp only [wholeNumber, Int.natAbs_of_nonneg hsign]
      rfl
    have hdigit := hdigits c List.mem_cons_self
    rw [if_pos hsign, ← hwhole, ← hunsigned, hcons, List.cons_append, readNumber]
    rintro _ ⟨rfl, -⟩
    cases hdigit
  · have hwhole : wholeNumber true n.natAbs = .integer n := by
      have hmagnitude : ¬ Word.signedLimit < n.natAbs := by omega
      have hpositive : n ≠ 0 := by omega
      have hnegated : -(n.natAbs : Int) = n := by omega
      simp only [wholeNumber, hmagnitude, hnegated]
      simp [hpositive]
    rw [if_neg hsign, List.cons_append, readNumber, hunsigned, hwhole]

/-- An integer begins with a digit or a minus sign. -/
theorem exists_print_integer (n : Int) :
    ∃ c cs, (Number.integer n).print = c :: cs ∧ (c == '-' || c.isDigit) = true := by
  obtain ⟨c, digits, hcons, hdigits, -⟩ := exists_toDigits n.natAbs
  rw [print_integer, hcons]
  by_cases hsign : 0 ≤ n
  · refine ⟨c, digits, by rw [if_pos hsign], ?_⟩
    rw [hdigits c List.mem_cons_self, Bool.or_true]
  · exact ⟨'-', c :: digits, by rw [if_neg hsign], rfl⟩

/-! ### Sequences and maps -/

/-- Pieces with a comma before each but the first one, if that is the first of all. -/
def joined : Bool → List (List Char) → List Char
  | _, [] => []
  | first, piece :: rest => (if first then piece else ',' :: piece) ++ joined false rest

theorem commaJoin_eq_joined (pieces : List (List Char)) :
    commaJoin pieces = joined true pieces := by
  have hmore (pieces : List (List Char)) :
      joined false pieces = if pieces.isEmpty then [] else ',' :: commaJoin pieces := by
    induction pieces with
    | nil => rfl
    | cons piece rest ih =>
      rw [joined, ih]
      cases rest with
      | nil => simp [commaJoin]
      | cons next rest => simp [commaJoin]
  cases pieces with
  | nil => rfl
  | cons piece rest =>
    rw [joined, hmore]
    cases rest with
    | nil => simp [commaJoin]
    | cons next rest => simp [commaJoin]

theorem ends_joined (pieces : List (List Char)) {rest : List Char} (hends : Ends rest) :
    Ends (joined false pieces ++ rest) := by
  cases pieces with
  | nil => exact hends
  | cons piece pieces => exact .inl rfl

/-- What a piece of a sequence begins with: no white space and no closing bracket. -/
def Opens : List Char → Prop
  | [] => False
  | c :: _ => isSpace c = false ∧ c ≠ ']'

theorem skipSpace_cons {c : Char} (hc : isSpace c = false) (rest : List Char) :
    skipSpace (c :: rest) = c :: rest :=
  List.dropWhile_cons_of_neg (by simp [hc])

theorem skipSpace_append {cs : List Char} (hopens : Opens cs) (rest : List Char) :
    skipSpace (cs ++ rest) = cs ++ rest := by
  cases cs with
  | nil => exact hopens.elim
  | cons c cs => exact skipSpace_cons hopens.1 (cs ++ rest)

theorem isSpace_cases {c : Char} (h : isSpace c = true) :
    c = ' ' ∨ c = '\n' ∨ c = '\t' ∨ c = '\r' := by
  simpa [isSpace, or_assoc] using h

/-- A number opens like a value. -/
theorem opens_of_digit {c : Char} (hc : (c == '-' || c.isDigit) = true) (rest : List Char) :
    Opens (c :: rest) := by
  refine ⟨?_, ?_⟩
  · cases hspace : isSpace c with
    | false => rfl
    | true => obtain rfl | rfl | rfl | rfl := isSpace_cases hspace <;> cases hc
  · rintro rfl
    cases hc

theorem opens_print_integer (n : Int) : Opens (Number.integer n).print := by
  obtain ⟨c, cs, hprint, hstart⟩ := exists_print_integer n
  rw [hprint]
  exact opens_of_digit hstart cs

theorem seekItem_joined (first : Bool) {piece : List Char} (hopens : Opens piece)
    (pieces : List (List Char)) (rest : List Char) :
    seekItem first (joined first (piece :: pieces) ++ rest) =
      .ok (true, piece ++ (joined false pieces ++ rest)) := by
  rw [joined, List.append_assoc]
  cases piece with
  | nil => exact hopens.elim
  | cons c cs =>
    obtain ⟨hspace, hbracket⟩ := hopens
    cases first with
    | true => simp [seekItem, skipSpace, hspace]
    | false =>
      have hcomma : isSpace ',' = false := rfl
      simp [seekItem, skipSpace, hspace, hbracket, hcomma]

theorem seekItem_close (first : Bool) (rest : List Char) :
    seekItem first (']' :: rest) = .ok (false, ']' :: rest) := rfl

theorem seekKey_close (first : Bool) (rest : List Char) :
    seekKey first ('\x7d' :: rest) = .ok (false, '\x7d' :: rest) := rfl

theorem readColon_colon (rest : List Char) : readColon (':' :: rest) = .ok rest := rfl

theorem closing_sequence {α : Type} (x : α) (rest : List Char) :
    closing closeSequence (.ok (x, ']' :: rest)) = .ok (x, rest) := rfl

theorem closing_map {α : Type} (x : α) (rest : List Char) :
    closing closeMap (.ok (x, '\x7d' :: rest)) = .ok (x, rest) := rfl

/-- Items that are each read back are read back together. -/
theorem readItems_joined {α β : Type} (item : Reader α) (write : β → List Char) (value : β → α)
    {entries : List β} {budget : Nat} (hbudget : entries.length < budget)
    (hread : ∀ entry ∈ entries, Opens (write entry) ∧
      ∀ rest, Ends rest → item (write entry ++ rest) = .ok (value entry, rest))
    (first : Bool) (done : List α) (rest : List Char) :
    readItems item budget first done (joined first (entries.map write) ++ ']' :: rest) =
      .ok (done.reverse ++ entries.map value, ']' :: rest) := by
  induction entries generalizing budget first done with
  | nil =>
    obtain ⟨budget, rfl⟩ := Nat.exists_eq_add_one_of_ne_zero (Nat.ne_zero_of_lt hbudget)
    simp [readItems, joined, seekItem_close, bind, Except.bind, pure, Except.pure]
  | cons entry entries ih =>
    obtain ⟨budget, rfl⟩ := Nat.exists_eq_add_one_of_ne_zero (Nat.ne_zero_of_lt hbudget)
    obtain ⟨⟨hopens, hitem⟩, hrest⟩ := List.forall_mem_cons.1 hread
    have hends : Ends (joined false (entries.map write) ++ ']' :: rest) :=
      ends_joined _ (.inr (.inl rfl))
    have hmore := ih (Nat.lt_of_succ_lt_succ hbudget) hrest false (value entry :: done)
    rw [List.map_cons, readItems, seekItem_joined first hopens]
    simp only [bind, Except.bind, hitem _ hends, hmore]
    simp

/-! ### Trees -/

namespace Tree

theorem printItems_eq (items : List Tree) : printItems items = items.map print := by
  induction items with
  | nil => rfl
  | cons item rest ih => rw [printItems, ih, List.map_cons]

/-- The text of a member of an object. -/
def printMember (m : String × Tree) : List Char :=
  printString m.1 ++ ':' :: m.2.print

theorem printMembers_eq (members : List (String × Tree)) :
    printMembers members = members.map printMember := by
  induction members with
  | nil => rfl
  | cons m rest ih => rw [printMembers, ih, List.map_cons, printMember]

theorem print_string (text : String) (rest : List Char) :
    (string text).print ++ rest = '"' :: (text.toList.flatMap escapeChar ++ '"' :: rest) := by
  simp [print, printString]

theorem print_array (items : List Tree) (rest : List Char) :
    (array items).print ++ rest = '[' :: (joined true (items.map print) ++ ']' :: rest) := by
  simp [print, printItems_eq, commaJoin_eq_joined]

theorem print_object (members : List (String × Tree)) (rest : List Char) :
    (object members).print ++ rest =
      '\x7b' :: (joined true (members.map printMember) ++ '\x7d' :: rest) := by
  simp [print, printMembers_eq, commaJoin_eq_joined]

/-- A value that can be printed and read back: its numbers are integers that fit words, and it is
nested in itself at most so many times. -/
inductive Readable : Nat → Tree → Prop where
  | null {depth : Nat} : Readable depth .null
  | bool {depth : Nat} (value : Bool) : Readable depth (.bool value)
  | integer {depth : Nat} {n : Int} (hlower : -(Word.signedLimit : Int) ≤ n)
      (hupper : n < Word.limit) : Readable depth (.number (.integer n))
  | string {depth : Nat} (text : String) : Readable depth (.string text)
  | array {depth : Nat} {items : List Tree} (hitems : ∀ item ∈ items, Readable depth item) :
      Readable (depth + 1) (.array items)
  | object {depth : Nat} {members : List (String × Tree)}
      (hmembers : ∀ m ∈ members, Readable depth m.2) : Readable (depth + 1) (.object members)

theorem Readable.opens_print {depth : Nat} {tree : Tree} (h : Readable depth tree) :
    Opens tree.print := by
  cases h with
  | null => exact ⟨rfl, by decide⟩
  | bool value => cases value <;> exact ⟨rfl, by decide⟩
  | integer hlower hupper =>
    rw [print]
    exact opens_print_integer _
  | string text => exact ⟨rfl, by decide⟩
  | array hitems => exact ⟨rfl, by decide⟩
  | object hmembers => exact ⟨rfl, by decide⟩

/-! ### Lengths -/

theorem length_le_printString (text : String) :
    text.toList.length + 2 ≤ (printString text).length := by
  have hescape (cs : List Char) : cs.length ≤ (cs.flatMap escapeChar).length := by
    induction cs with
    | nil => exact Nat.le_refl _
    | cons c cs ih =>
      have hpositive : 1 ≤ (escapeChar c).length := by
        simp only [escapeChar]
        grind
      rw [List.flatMap_cons, List.length_append, List.length_cons]
      omega
  have htext := hescape text.toList
  simp only [printString, List.length_append, List.length_cons, List.length_nil]
  omega

theorem length_le_joined (first : Bool) (pieces : List (List Char)) :
    ∀ piece ∈ pieces, piece.length ≤ (joined first pieces).length := by
  induction pieces generalizing first with
  | nil => exact nofun
  | cons piece pieces ih =>
    intro other hmem
    rw [joined, List.length_append]
    obtain rfl | hmem := List.mem_cons.1 hmem
    · cases first with
      | true => simp
      | false =>
        simp
        omega
    · have hrest := ih false other hmem
      omega

theorem count_le_joined (first : Bool) {pieces : List (List Char)}
    (hpieces : ∀ piece ∈ pieces, Opens piece) : pieces.length ≤ (joined first pieces).length := by
  induction pieces generalizing first with
  | nil => exact Nat.zero_le _
  | cons piece pieces ih =>
    obtain ⟨hopens, hrest⟩ := List.forall_mem_cons.1 hpieces
    have hmore := ih false hrest
    have hpositive : 1 ≤ piece.length := by
      cases piece with
      | nil => exact hopens.elim
      | cons c cs => simp
    rw [joined, List.length_append, List.length_cons]
    cases first <;> (simp; omega)

theorem length_print_array (items : List Tree) :
    (array items).print.length = (joined true (items.map print)).length + 2 := by
  simp [print, printItems_eq, commaJoin_eq_joined]

theorem length_print_object (members : List (String × Tree)) :
    (object members).print.length = (joined true (members.map printMember)).length + 2 := by
  simp [print, printMembers_eq, commaJoin_eq_joined]

theorem array_bounds {depth budget : Nat} {items : List Tree}
    (hitems : ∀ item ∈ items, Readable depth item) (hbudget : (array items).print.length ≤ budget) :
    items.length < budget ∧ ∀ item ∈ items, item.print.length ≤ budget := by
  rw [length_print_array] at hbudget
  refine ⟨?_, fun item hmem ↦ ?_⟩
  · have hopens : ∀ piece ∈ items.map print, Opens piece :=
      List.forall_mem_map.2 fun item hmem ↦ (hitems item hmem).opens_print
    have hcount := count_le_joined true hopens
    rw [List.length_map] at hcount
    omega
  · have hitem := length_le_joined true (items.map print) _ (List.mem_map_of_mem hmem)
    omega

theorem object_bounds {budget : Nat} {members : List (String × Tree)}
    (hbudget : (object members).print.length ≤ budget) :
    members.length < budget ∧
      ∀ m ∈ members, m.1.toList.length < budget ∧ m.2.print.length < budget := by
  rw [length_print_object] at hbudget
  refine ⟨?_, fun m hmem ↦ ?_⟩
  · have hopens : ∀ piece ∈ members.map printMember, Opens piece :=
      List.forall_mem_map.2 fun m _ ↦ ⟨rfl, by decide⟩
    have hcount := count_le_joined true hopens
    rw [List.length_map] at hcount
    omega
  · have hmember := length_le_joined true (members.map printMember) _ (List.mem_map_of_mem hmem)
    have hkey := length_le_printString m.1
    rw [printMember, List.length_append, List.length_cons] at hmember
    exact ⟨by omega, by omega⟩

/-! ### Reading what is printed -/

theorem seekKey_joined (first : Bool) (m : String × Tree) (pieces : List (List Char))
    (rest : List Char) :
    seekKey first (joined first (printMember m :: pieces) ++ rest) =
      .ok (true, m.1.toList.flatMap escapeChar ++ '"' :: ':' ::
        (m.2.print ++ (joined false pieces ++ rest))) := by
  cases first <;> simp [joined, printMember, printString, seekKey, skipSpace, isSpace]

theorem readMembers_joined (limit : Nat) (item : Reader Tree) {members : List (String × Tree)}
    {budget : Nat} (hbudget : members.length < budget)
    (hread : ∀ m ∈ members, m.1.toList.length < limit ∧
      ∀ rest, Ends rest → item (m.2.print ++ rest) = .ok (m.2, rest))
    (first : Bool) (done : List (String × Tree)) (rest : List Char) :
    readMembers limit item budget first done
        (joined first (members.map printMember) ++ '\x7d' :: rest) =
      .ok (done.reverse ++ members, '\x7d' :: rest) := by
  induction members generalizing budget first done with
  | nil =>
    obtain ⟨budget, rfl⟩ := Nat.exists_eq_add_one_of_ne_zero (Nat.ne_zero_of_lt hbudget)
    simp [readMembers, joined, seekKey_close, bind, Except.bind, pure, Except.pure]
  | cons m members ih =>
    obtain ⟨budget, rfl⟩ := Nat.exists_eq_add_one_of_ne_zero (Nat.ne_zero_of_lt hbudget)
    obtain ⟨⟨hkey, hvalue⟩, hrest⟩ := List.forall_mem_cons.1 hread
    have hends : Ends (joined false (members.map printMember) ++ '\x7d' :: rest) :=
      ends_joined _ (.inr (.inr rfl))
    have hmore := ih (Nat.lt_of_succ_lt_succ hbudget) hrest false (m :: done)
    rw [List.map_cons, readMembers, seekKey_joined]
    simp only [bind, Except.bind, readString_print _ _ hkey, readColon_colon, hvalue _ hends, hmore]
    simp

theorem readTree_number (budget depth : Nat) {c : Char} (hc : (c == '-' || c.isDigit) = true)
    (cs : List Char) :
    readTree budget depth (c :: cs) = (readNumber (c :: cs)).map fun r ↦ (.number r.1, r.2) := by
  unfold readTree
  rw [skipSpace_cons (opens_of_digit hc cs).1]
  dsimp only
  split
  -- No number begins like a keyword, a text or a bracket.
  · cases hc
  · cases hc
  · cases hc
  · cases hc
  · cases hc
  · cases hc
  · rw [if_pos hc]
    cases readNumber (c :: cs) <;> rfl

theorem readTree_integer {n : Int} (hlower : -(Word.signedLimit : Int) ≤ n)
    (hupper : n < Word.limit) (budget depth : Nat) {rest : List Char} (hends : Ends rest) :
    readTree budget depth ((number (.integer n)).print ++ rest) =
      .ok (number (.integer n), rest) := by
  obtain ⟨c, cs, hprint, hstart⟩ := exists_print_integer n
  have hnumber := readNumber_print hlower hupper hends
  rw [print]
  rw [hprint, List.cons_append] at hnumber ⊢
  rw [readTree_number budget depth hstart, hnumber]
  rfl

/-- A readable value is read back from its text, whatever follows. -/
theorem readTree_print {depth budget : Nat} {tree : Tree} (h : Readable depth tree)
    (hbudget : tree.print.length ≤ budget) {rest : List Char} (hends : Ends rest) :
    readTree budget depth (tree.print ++ rest) = .ok (tree, rest) := by
  induction h generalizing rest with
  | null =>
    have hprint : null.print = ['n', 'u', 'l', 'l'] := rfl
    simp [hprint, readTree, skipSpace, isSpace, readKeyword, bind, Except.bind, pure, Except.pure]
  | bool value =>
    have hprint : (bool value).print =
        if value then ['t', 'r', 'u', 'e'] else ['f', 'a', 'l', 's', 'e'] := by
      cases value <;> rfl
    cases value <;> simp [hprint, readTree, skipSpace, isSpace, readKeyword, bind, Except.bind,
      pure, Except.pure]
  | integer hlower hupper => exact readTree_integer hlower hupper budget _ hends
  | string text =>
    have hlength := length_le_printString text
    rw [print] at hbudget
    have hstring := readString_print text rest (show text.toList.length < budget by omega)
    rw [print_string]
    simp [readTree, skipSpace, isSpace, hstring, bind, Except.bind, pure, Except.pure]
  | @array depth items hitems ih =>
    obtain ⟨hcount, hlengths⟩ := array_bounds hitems hbudget
    have hread := readItems_joined (readTree budget depth) print id hcount
      (fun item hmem ↦ ⟨(hitems item hmem).opens_print,
        fun _ hends ↦ ih item hmem (hlengths item hmem) hends⟩) true [] rest
    rw [print_array, readTree]
    simp [skipSpace, isSpace, hread, closing_sequence, bind, Except.bind, pure, Except.pure]
  | @object depth members hmembers ih =>
    obtain ⟨hcount, hlengths⟩ := object_bounds hbudget
    have hread := readMembers_joined budget (readTree budget depth) hcount
      (fun m hmem ↦ ⟨(hlengths m hmem).1,
        fun _ hends ↦ ih m hmem (Nat.le_of_lt (hlengths m hmem).2) hends⟩) true [] rest
    rw [print_object, readTree]
    simp [skipSpace, isSpace, hread, closing_map, bind, Except.bind, pure, Except.pure]

/-! ### Whole texts -/

@[simp] theorem toList_text (tree : Tree) : tree.text.toList = tree.print :=
  String.toList_ofList

/-- A reader that reads a value from its text and nothing beyond reads the whole text. -/
theorem runReader_text {α : Type} (reader : Scope → Reader α) {tree : Tree} {x : α}
    (hread : reader ⟨depthLimit, tree.print.length + 1⟩ tree.print = .ok (x, [])) :
    runReader reader tree.text = .ok x := by
  simp [runReader, Scope.ofText, hread, skipSpace]

/-- The text of a readable value denotes the value with its keys sorted. -/
theorem parse_text {tree : Tree} (h : tree.Readable depthLimit) :
    Tree.parse tree.text = .ok tree.sorted := by
  have hread : readTree (tree.print.length + 1) depthLimit tree.print = .ok (tree, []) := by
    have hends : Ends [] := trivial
    simpa using readTree_print h (Nat.le_succ _) hends
  rw [Tree.parse, runReader_text (fun scope ↦ readTree scope.budget scope.depth) hread]
  rfl

end Tree

end CitedChat.Json
