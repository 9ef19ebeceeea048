/-!
Laws of lists, letters and computations that may fail, which the library lacks. An element that a
test rejects ends what is dropped or taken before it (`List.dropWhile_append_cons`,
`List.takeWhile_bne_append_cons`); the code of a character tells whether it is a letter
(`Char.isAlpha_iff`); and what ends well has ended well at each step (`Except.bind_eq_ok`).
-/

set_option autoImplicit false

namespace List

variable {α : Type}

/-- The element behind so many others is modified. -/
theorem modify_length_append (f : α → α) (xs : List α) (x : α) (ys : List α) :
    (xs ++ x :: ys).modify xs.length f = xs ++ f x :: ys := by
  induction xs with
  | nil => rfl
  | cons first rest ih => simpa using ih

variable {p q : α → Bool} {x : α}

theorem dropWhile_append_cons (hx : p x = false) (before after : List α) :
    (before ++ x :: after).dropWhile p = before.dropWhile p ++ x :: after := by
  rw [dropWhile_append, dropWhile_cons_of_neg (by simp [hx])]
  split
  · next hempty => rw [isEmpty_iff.1 hempty, nil_append]
  · rfl

theorem mem_dropWhile (hx : p x = false) {xs : List α} (hmem : x ∈ xs) : x ∈ xs.dropWhile p := by
  obtain ⟨before, after, rfl⟩ := append_of_mem hmem
  rw [dropWhile_append_cons hx]
  exact mem_append_right _ mem_cons_self

theorem filter_dropWhile (hpq : ∀ x, q x = true → p x = false) (xs : List α) :
    (xs.dropWhile p).filter q = xs.filter q := by
  induction xs with
  | nil => rfl
  | cons x rest ih =>
    cases hp : p x with
    | false => rw [dropWhile_cons_of_neg (by simp [hp])]
    | true =>
      have hq : ¬ q x = true := fun hq ↦ by
        rw [hpq x hq] at hp
        cases hp
      rw [dropWhile_cons_of_pos hp, ih, filter_cons_of_neg hq]

theorem takeWhile_bne_append_cons [DecidableEq α] {before : List α} (hbefore : x ∉ before)
    (after : List α) : (before ++ x :: after).takeWhile (· != x) = before := by
  have hall : ∀ y ∈ before, (y != x) = true := by
    intro y hy
    rw [bne_iff_ne]
    rintro rfl
    exact hbefore hy
  rw [takeWhile_append_of_pos hall, takeWhile_cons_of_neg (by simp), append_nil]

theorem ne_of_mem_head? {xs : List α} (h : ∀ rest, xs ≠ x :: rest) : ∀ y ∈ xs.head?, y ≠ x := by
  cases xs with
  | nil =>
    intro y hy
    cases hy
  | cons first rest =>
    intro y hy hsame
    exact h rest (by rw [← hsame, Option.some.inj hy])

end List

namespace Char

theorem isAlpha_iff {c : Char} :
    c.isAlpha = true ↔ 65 ≤ c.toNat ∧ c.toNat ≤ 90 ∨ 97 ≤ c.toNat ∧ c.toNat ≤ 122 := by
  show (decide ('A'.val ≤ c.val ∧ c.val ≤ 'Z'.val) ||
    (decide ('a'.val ≤ c.val) && decide (c.val ≤ 'z'.val))) = true ↔ _
  simp only [Bool.or_eq_true, Bool.and_eq_true, decide_eq_true_eq, UInt32.le_iff_toNat_le]
  rfl

/-- Only letters have a letter as their lower case. -/
theorem isAlpha_of_isAlpha_toLower {c : Char} (hc : c.toLower.isAlpha = true) :
    c.isAlpha = true := by
  by_cases hupper : 'A'.val ≤ c.val ∧ c.val ≤ 'Z'.val
  · have hbounds : 65 ≤ c.toNat ∧ c.toNat ≤ 90 := hupper
    exact isAlpha_iff.2 (.inl hbounds)
  · have hsame : c.toLower = c := dif_neg hupper
    rwa [hsame] at hc

end Char

namespace Except

variable {ε α β : Type} {x : Except ε α}

/-- A computation that ends well has ended well at its first step. -/
theorem bind_eq_ok {f : α → Except ε β} {result : β} (h : x >>= f = .ok result) :
    ∃ value, x = .ok value ∧ f value = .ok result := by
  cases x with
  | error e => cases h
  | ok value => exact ⟨value, rfl, h⟩

theorem map_eq_ok {f : α → β} {result : β} (h : x.map f = .ok result) :
    ∃ value, x = .ok value ∧ f value = result := by
  cases x with
  | error e => cases h
  | ok value => exact ⟨value, rfl, ok.inj h⟩

theorem mapError_eq_ok {δ : Type} {g : ε → δ} {value : α} (h : x.mapError g = .ok value) :
    x = .ok value := by
  cases x with
  | error e => cases h
  | ok found => exact congrArg ok (ok.inj h)

end Except
