import CitedChat.Proofs.Json.Printing

/-!
Skipping the text of a value. A value is skipped without recursion, by a machine that keeps the
brackets that are open; from the text of a readable value it comes out at what follows, with the
brackets that were open before (`Skips`).
-/

set_option autoImplicit false

namespace CitedChat.Json

/-! ### Scalars -/

theorem skipString_escapeChar (budget : Nat) (c : Char) (rest : List Char) :
    skipString (budget + 1) (escapeChar c ++ rest) = skipString budget rest := by
  simp only [escapeChar, beq_iff_eq]
  iterate 7
    split
    · next h =>
      subst h
      rfl
  split
  · next hcontrol => 
    simp [skipString, readUnit_code hcontrol, bind, Except.bind]
  · next hquote hbackslash _ _ _ _ _ hplain =>
    simp [skipString, hquote, hbackslash, hplain]

theorem skipString_escaped {budget : Nat} (text rest : List Char) (hbudget : text.length < budget) :
    skipString budget (text.flatMap escapeChar ++ '"' :: rest) = .ok rest := by
  induction text generalizing budget with
  | nil =>
    obtain ⟨budget, rfl⟩ := Nat.exists_eq_add_one_of_ne_zero (Nat.ne_zero_of_lt hbudget)
    simp [skipString]
  | cons c text ih =>
    obtain ⟨budget, rfl⟩ := Nat.exists_eq_add_one_of_ne_zero (Nat.ne_zero_of_lt hbudget)
    rw [List.flatMap_cons, List.append_assoc, skipString_escapeChar,
      ih (Nat.lt_of_succ_lt_succ hbudget)]

theorem skipNumber_digits (n : Nat) {rest : List Char} (hends : Ends rest) :
    skipNumber (Nat.toDigits 10 n ++ rest) = .ok rest := by
  obtain ⟨c, digits, hcons, hdigits, hleading⟩ := exists_toDigits n
  have hspan := spanDigits_append hdigits hends.noDigit
  rw [hcons]
  rw [List.cons_append] at hspan ⊢
  simp only [skipNumber, hspan, hdigits c List.mem_cons_self, hleading]
  cases rest with
  | nil => rfl
  | cons d rest => obtain rfl | rfl | rfl := hends <;> rfl

/-! ### The machine -/

/-- Skips the next value, if a bracket is open in which there is one. -/
def skipNext (limit steps : Nat) (reached : Except Fault (List Bracket × List Char)) :
    Except Fault (List Char) := do
  match ← reached with
  | ([], rest) => pure rest
  | (brackets, rest) => skipTree limit steps brackets rest

/-- What is done behind a value: brackets are closed, and the next value is skipped inside the
innermost one that stays open. -/
def skipOn (limit left steps : Nat) (around : List Bracket) (rest : List Char) :
    Except Fault (List Char) :=
  skipNext limit steps (skipToValue left true around rest)

/-- A text is skipped as one value, with what the length of the text allows for left of the
bounds. -/
def Skips (limit : Nat) (cs : List Char) : Prop :=
  ∀ ⦃budget : Nat⦄ (around : List Bracket) ⦃rest : List Char⦄, cs.length ≤ budget → Ends rest →
    ∃ left steps, left ≤ limit ∧ limit ≤ left + cs.length ∧ budget ≤ steps + cs.length ∧
      skipTree limit budget around (cs ++ rest) = skipOn limit left steps around rest

/-- A text that is skipped in one step. -/
theorem skips_of_step {limit : Nat} {c : Char} {cs : List Char}
    (hstep : ∀ budget around rest, Ends rest →
      skipTree limit (budget + 1) around (c :: cs ++ rest) =
        skipOn limit limit budget around rest) :
    Skips limit (c :: cs) := by
  intro budget around rest hbudget hends
  rw [List.length_cons] at hbudget ⊢
  obtain ⟨budget, rfl⟩ := Nat.exists_eq_add_one_of_ne_zero (show budget ≠ 0 by omega)
  exact ⟨limit, budget, Nat.le_refl _, by omega, by omega, hstep budget around rest hends⟩

theorem skips_integer (limit : Nat) (n : Int) : Skips limit (Number.integer n).print := by
  obtain ⟨c, digits, hcons, hdigits, -⟩ := exists_toDigits n.natAbs
  have hopens := opens_print_integer n
  rw [print_integer, hcons] at hopens ⊢
  have hskip (rest : List Char) (hends : Ends rest) := skipNumber_digits n.natAbs hends
  rw [hcons] at hskip
  by_cases hsign : 0 ≤ n
  · rw [if_pos hsign] at hopens ⊢
    refine skips_of_step fun budget around rest hends ↦ ?_
    have hdigit := hdigits c List.mem_cons_self
    rw [skipTree, skipSpace_append hopens, List.cons_append]
    dsimp only
    split
    · cases hdigit
    · cases hdigit
    · cases hdigit
    · cases hdigit
    · cases hdigit
    · cases hdigit
    · cases hdigit
    · rw [if_pos hdigit, ← List.cons_append, hskip rest hends]
      rfl
  · rw [if_neg hsign] at hopens ⊢
    refine skips_of_step fun budget around rest hends ↦ ?_
    rw [skipTree, skipSpace_append hopens, List.cons_append]
    dsimp only
    rw [hskip rest hends]
    rfl

theorem skips_string {limit : Nat} {text : String} (hlimit : text.toList.length < limit) :
    Skips limit (printString text) := by
  refine skips_of_step fun budget around rest hends ↦ ?_
  have hskip := skipString_escaped text.toList rest hlimit
  have hprint : '"' :: (text.toList.flatMap escapeChar).append ['"'] ++ rest =
      '"' :: (text.toList.flatMap escapeChar ++ '"' :: rest) := by
    simp
  have hspace : skipSpace ('"' :: (text.toList.flatMap escapeChar ++ '"' :: rest)) =
      '"' :: (text.toList.flatMap escapeChar ++ '"' :: rest) := rfl
  rw [skipTree, hprint, hspace]
  dsimp only
  rw [hskip]
  rfl

/-! ### Brackets -/

/-- The character of a bracket. -/
def Bracket.open : Bracket → Char
  | .sequence => '['
  | .map => '\x7b'

/-- The character that closes a bracket. -/
def Bracket.close : Bracket → Char
  | .sequence => ']'
  | .map => '\x7d'

theorem Bracket.ends_close (bracket : Bracket) (rest : List Char) :
    Ends (bracket.close :: rest) := by
  cases bracket
  · exact .inr (.inl rfl)
  · exact .inr (.inr rfl)

theorem skipTree_open (limit budget : Nat) (bracket : Bracket) (around : List Bracket)
    (rest : List Char) :
    skipTree limit (budget + 1) around (bracket.open :: rest) =
      skipNext limit budget (skipToValue limit false (bracket :: around) rest) := by
  cases bracket <;> rfl

theorem skipToValue_close (left : Nat) (after : Bool) (bracket : Bracket) (around : List Bracket)
    (rest : List Char) :
    skipToValue (left + 1) after (bracket :: around) (bracket.close :: rest) =
      skipToValue left true around rest := by
  cases bracket <;> cases after <;> rfl

theorem skipToValue_comma (left : Nat) (bracket : Bracket) (around : List Bracket)
    (rest : List Char) :
    skipToValue (left + 1) true (bracket :: around) (',' :: rest) =
      skipToValue.toValue left (bracket :: around) rest := by
  rfl

/-- A piece of what stands between brackets: from it the machine goes into a value, which is skipped
in its turn. -/
structure Enters (limit : Nat) (bracket : Bracket) (piece value : List Char) : Prop where
  starts : ∃ c cs, piece = c :: cs ∧ isSpace c = false ∧ c ≠ bracket.close
  enters : ∀ ⦃left : Nat⦄ (around : List Bracket) (rest : List Char), piece.length ≤ left →
    skipToValue.toValue left (bracket :: around) (piece ++ rest) =
      .ok (bracket :: around, value ++ rest)
  skips : Skips limit value
  length_le : value.length ≤ piece.length

theorem skipToValue_first {limit left : Nat} {bracket : Bracket} {piece value : List Char}
    (henters : Enters limit bracket piece value) (hleft : piece.length ≤ left)
    (around : List Bracket) (rest : List Char) :
    skipToValue (left + 1) false (bracket :: around) (piece ++ rest) =
      .ok (bracket :: around, value ++ rest) := by
  have hvalue := henters.enters around rest hleft
  obtain ⟨c, cs, rfl, hspace, hclose⟩ := henters.starts
  rw [List.cons_append] at hvalue ⊢
  rw [← hvalue]
  cases bracket <;>
    simp [skipToValue, skipSpace, hspace, Bracket.close] at hclose ⊢ <;>
    simp [hclose]

/-- Behind a value in brackets the machine skips the pieces that are left and the closing
bracket. -/
theorem skipOn_joined {limit : Nat} {bracket : Bracket} {pieces : List (List Char)}
    (hpieces : ∀ piece ∈ pieces, ∃ value, Enters limit bracket piece value) {left steps : Nat}
    (hleft : (joined false pieces).length + 1 ≤ left) (hlimit : left ≤ limit)
    (hsteps : (joined false pieces).length ≤ steps) (around : List Bracket) (rest : List Char) :
    ∃ left' steps', left' ≤ limit ∧ left ≤ left' + (joined false pieces).length + 1 ∧
      steps ≤ steps' + (joined false pieces).length ∧
      skipOn limit left steps (bracket :: around)
          (joined false pieces ++ bracket.close :: rest) =
        skipOn limit left' steps' around rest := by
  induction pieces generalizing left steps with
  | nil =>
    obtain ⟨left, rfl⟩ := Nat.exists_eq_add_one_of_ne_zero (show left ≠ 0 by omega)
    refine ⟨left, steps, by omega, by omega, by omega, ?_⟩
    rw [joined, List.nil_append, skipOn, skipToValue_close, skipOn]
  | cons piece pieces ih =>
    obtain ⟨⟨value, henters⟩, hrest⟩ := List.forall_mem_cons.1 hpieces
    have hclose := bracket.ends_close rest
    have hlength : (joined false (piece :: pieces)).length =
        piece.length + (joined false pieces).length + 1 := by
      simp [joined]
    have hle := henters.length_le
    obtain ⟨left, rfl⟩ := Nat.exists_eq_add_one_of_ne_zero (show left ≠ 0 by omega)
    obtain ⟨left₁, steps₁, hlimit₁, hleft₁, hsteps₁, hskip⟩ :=
      henters.skips (bracket :: around) (show value.length ≤ steps by omega)
        (ends_joined pieces hclose)
    obtain ⟨left₂, steps₂, hlimit₂, hleft₂, hsteps₂, hmore⟩ :=
      ih hrest (show (joined false pieces).length + 1 ≤ left₁ by omega) hlimit₁
        (show (joined false pieces).length ≤ steps₁ by omega)
    refine ⟨left₂, steps₂, hlimit₂, by omega, by omega, ?_⟩
    have hpiece : joined false (piece :: pieces) ++ bracket.close :: rest =
        ',' :: (piece ++ (joined false pieces ++ bracket.close :: rest)) := by
      simp [joined]
    rw [← hmore, ← hskip, hpiece, skipOn, skipToValue_comma,
      henters.enters around _ (show piece.length ≤ left by omega)]
    rfl

/-- What stands between brackets is skipped with them. -/
theorem skips_bracket {limit : Nat} (bracket : Bracket) {pieces : List (List Char)}
    (hpieces : ∀ piece ∈ pieces, ∃ value, Enters limit bracket piece value)
    (hlimit : (joined true pieces).length + 2 ≤ limit) :
    Skips limit (bracket.open :: (joined true pieces ++ [bracket.close])) := by
  intro budget around rest hbudget hends
  have htext : bracket.open :: (joined true pieces ++ [bracket.close]) ++ rest =
      bracket.open :: (joined true pieces ++ bracket.close :: rest) := by simp
  have hlength : (bracket.open :: (joined true pieces ++ [bracket.close])).length =
      (joined true pieces).length + 2 := by simp
  rw [hlength] at hbudget ⊢
  obtain ⟨budget, rfl⟩ := Nat.exists_eq_add_one_of_ne_zero (show budget ≠ 0 by omega)
  obtain ⟨left, rfl⟩ := Nat.exists_eq_add_one_of_ne_zero (show limit ≠ 0 by omega)
  rw [htext, skipTree_open]
  cases pieces with
  | nil =>
    refine ⟨left, budget, by omega, by omega, by omega, ?_⟩
    rw [joined, List.nil_append, skipToValue_close, skipOn]
  | cons piece pieces =>
    obtain ⟨⟨value, henters⟩, hrest⟩ := List.forall_mem_cons.1 hpieces
    have hjoined : (joined true (piece :: pieces)).length =
        piece.length + (joined false pieces).length := by
      simp [joined]
    have hle := henters.length_le
    have hclose := bracket.ends_close rest
    obtain ⟨left₁, steps₁, hlimit₁, hleft₁, hsteps₁, hskip⟩ :=
      henters.skips (bracket :: around) (show value.length ≤ budget by omega)
        (ends_joined pieces hclose)
    obtain ⟨left₂, steps₂, hlimit₂, hleft₂, hsteps₂, hmore⟩ :=
      skipOn_joined hrest (show (joined false pieces).length + 1 ≤ left₁ by omega) hlimit₁
        (show (joined false pieces).length ≤ steps₁ by omega) around rest
    refine ⟨left₂, steps₂, hlimit₂, by omega, by omega, ?_⟩
    have hpiece : joined true (piece :: pieces) ++ bracket.close :: rest =
        piece ++ (joined false pieces ++ bracket.close :: rest) := by
      simp [joined]
    rw [← hmore, ← hskip, hpiece,
      skipToValue_first henters (show piece.length ≤ left by omega)]
    rfl

/-! ### Trees -/

namespace Tree

theorem enters_item {limit depth : Nat} {item : Tree} (h : Readable depth item)
    (hskips : Skips limit item.print) : Enters limit .sequence item.print item.print where
  starts := by
    have hopens := h.opens_print
    cases hprint : item.print with
    | nil =>
      rw [hprint] at hopens
      exact hopens.elim
    | cons c cs =>
      rw [hprint] at hopens
      exact ⟨c, cs, rfl, hopens⟩
  enters := fun _ _ _ _ ↦ rfl
  skips := hskips
  length_le := Nat.le_refl _

theorem enters_member {limit : Nat} {m : String × Tree} (hskips : Skips limit m.2.print) :
    Enters limit .map (printMember m) m.2.print where
  starts := ⟨'"', _, rfl, rfl, by decide⟩
  enters := by
    intro left around rest hleft
    have hkey := length_le_printString m.1
    rw [printMember, List.length_append] at hleft
    have hskip := skipString_escaped m.1.toList (':' :: (m.2.print ++ rest))
      (show m.1.toList.length < left by omega)
    have hpiece : printMember m ++ rest =
        '"' :: (m.1.toList.flatMap escapeChar ++ '"' :: ':' :: (m.2.print ++ rest)) := by
      simp [printMember, printString]
    have hspace : skipSpace ('"' :: (m.1.toList.flatMap escapeChar ++ '"' :: ':' ::
        (m.2.print ++ rest))) =
        '"' :: (m.1.toList.flatMap escapeChar ++ '"' :: ':' :: (m.2.print ++ rest)) := rfl
    rw [hpiece, skipToValue.toValue, hspace]
    simp [hskip, readColon_colon, bind, Except.bind, pure, Except.pure]
  skips := hskips
  length_le := by
    rw [printMember, List.length_append, List.length_cons]
    omega

/-- The text of a readable value is skipped. -/
theorem skips_print {limit depth : Nat} {tree : Tree} (h : Readable depth tree)
    (hlimit : tree.print.length ≤ limit) : Skips limit tree.print := by
  induction h with
  | null => exact skips_of_step fun _ _ _ _ ↦ rfl
  | bool value => cases value <;> exact skips_of_step fun _ _ _ _ ↦ rfl
  | integer hlower hupper =>
    rw [print]
    exact skips_integer limit _
  | string text =>
    have hlength := length_le_printString text
    rw [print] at hlimit ⊢
    exact skips_string (by omega)
  | @array depth items hitems ih =>
    obtain ⟨-, hlengths⟩ := array_bounds hitems hlimit
    have hprint := print_array items []
    rw [List.append_nil] at hprint
    rw [length_print_array] at hlimit
    rw [hprint]
    refine skips_bracket .sequence ?_ hlimit
    refine List.forall_mem_map.2 fun item hmem ↦ ?_
    exact ⟨_, enters_item (hitems item hmem) (ih item hmem (hlengths item hmem))⟩
  | @object depth members hmembers ih =>
    obtain ⟨-, hlengths⟩ := object_bounds hlimit
    have hprint := print_object members []
    rw [List.append_nil] at hprint
    rw [length_print_object] at hlimit
    rw [hprint]
    refine skips_bracket .map ?_ hlimit
    refine List.forall_mem_map.2 fun m hmem ↦ ?_
    exact ⟨_, enters_member (ih m hmem (Nat.le_of_lt (hlengths m hmem).2))⟩

/-- A readable value is skipped up to what follows. -/
theorem skipTree_print {limit depth : Nat} {tree : Tree} (h : Readable depth tree)
    (hlimit : tree.print.length < limit) {rest : List Char} (hends : Ends rest) :
    skipTree limit limit [] (tree.print ++ rest) = .ok rest := by
  obtain ⟨left, steps, -, hleft, -, hskip⟩ :=
    skips_print h (Nat.le_of_lt hlimit) [] (Nat.le_of_lt hlimit) hends
  obtain ⟨left, rfl⟩ := Nat.exists_eq_add_one_of_ne_zero (show left ≠ 0 by omega)
  rw [hskip]
  rfl

end Tree

end CitedChat.Json
