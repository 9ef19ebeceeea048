/-!
Whole numbers of a fixed width: 64 bits, as counts, ordinals and indices have, and 128 bits, beyond
which an integer is not even named.
-/

set_option autoImplicit false

namespace CitedChat.Word

/-- The first number that 64 bits do not hold. -/
def limit : Nat := 0x10000000000000000

/-- The first number that 64 bits with a sign do not hold. -/
def signedLimit : Nat := 0x8000000000000000

/-- The first number that 128 bits do not hold. -/
def wideLimit : Nat := 0x100000000000000000000000000000000

/-- The first number that 128 bits with a sign do not hold. -/
def signedWideLimit : Nat := 0x80000000000000000000000000000000

/-- The number that digits write, if there are any and 64 bits hold it. -/
def ofDigits? (cs : List Char) : Option Nat :=
  if cs.isEmpty || !cs.all Char.isDigit then none
  else
    let n := Nat.ofDigitChars 10 cs 0
    if n < limit then some n else none

theorem ofDigits?_eq_some_iff {cs : List Char} {n : Nat} :
    ofDigits? cs = some n ↔
      cs ≠ [] ∧ (∀ c ∈ cs, c.isDigit = true) ∧ Nat.ofDigitChars 10 cs 0 = n ∧ n < limit := by
  have htest : ¬ (cs.isEmpty || !cs.all Char.isDigit) = true ↔
      cs ≠ [] ∧ ∀ c ∈ cs, c.isDigit = true := by
    simp
  rw [ofDigits?, Option.ite_none_left_eq_some, htest]
  dsimp only
  rw [Option.ite_none_right_eq_some, Option.some.injEq, and_assoc]
  constructor
  · rintro ⟨hnonempty, hall, hfits, rfl⟩
    exact ⟨hnonempty, hall, rfl, hfits⟩
  · rintro ⟨hnonempty, hall, rfl, hfits⟩
    exact ⟨hnonempty, hall, hfits, rfl⟩

end CitedChat.Word
