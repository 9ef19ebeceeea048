import CitedChat.Proofs.Json.Decoding

/-!
A text that denotes no value is refused for a flaw, and at a place. Every part of the reader of
trees gives a result or finds a flaw (`FindsFlaw`), so that no mismatch can come out of it
(`Tree.parse_error`).
-/

set_option autoImplicit false

namespace CitedChat.Json

/-- If there is no result, then because of a flaw. -/
def FindsFlaw {α : Type} (x : Except Fault α) : Prop :=
  ∀ ⦃fault⦄, x = .error fault → ∃ flaw unread, fault = .placed (.flaw flaw) unread

namespace FindsFlaw

variable {α β : Type}

theorem ok (value : α) : FindsFlaw (.ok value) :=
  fun _ h ↦ by cases h

theorem placed (flaw : Flaw) (unread : Nat) :
    FindsFlaw (.error (.placed (.flaw flaw) unread) : Except Fault α) :=
  fun _ h ↦ ⟨flaw, unread, (Except.error.inj h).symm⟩

theorem ite {p : Prop} [Decidable p] {x y : Except Fault α} (hx : FindsFlaw x)
    (hy : FindsFlaw y) : FindsFlaw (if p then x else y) := by
  split
  · exact hx
  · exact hy

theorem bind {x : Except Fault α} {f : α → Except Fault β} (hx : FindsFlaw x)
    (hf : ∀ value, FindsFlaw (f value)) : FindsFlaw (x >>= f) := by
  cases x with
  | error fault =>
    intro other h
    obtain rfl := Except.error.inj h
    exact hx rfl
  | ok value => exact hf value

theorem closing {close : List Char → List Char × Option Flaw}
    {x : Except Fault (α × List Char)} (hx : FindsFlaw x) : FindsFlaw (closing close x) := by
  cases x with
  | error fault =>
    obtain ⟨flaw, unread, rfl⟩ := hx rfl
    exact placed flaw unread
  | ok result =>
    rw [Json.closing]
    split
    · exact ok _
    · exact placed _ _

end FindsFlaw

/-! ### Words and strings -/

theorem findsFlaw_readKeyword (word cs : List Char) : FindsFlaw (readKeyword word cs) := by
  induction word generalizing cs with
  | nil => exact .ok _
  | cons w word ih =>
    cases cs with
    | nil => exact .placed _ _
    | cons c cs =>
      rw [readKeyword]
      split
      · exact ih cs
      · exact .placed _ _

theorem findsFlaw_readUnit (cs : List Char) : FindsFlaw (readUnit cs) := by
  have hshort : FindsFlaw (readUnit.short cs) := by
    rw [readUnit.short]
    split
    · exact .placed _ _
    · exact .placed _ _
  rw [readUnit.eq_def]
  split
  · split
    · exact .ok _
    · exact hshort
  · exact hshort

theorem findsFlaw_readPoint (cs : List Char) : FindsFlaw (readPoint cs) := by
  refine (findsFlaw_readUnit cs).bind fun ⟨high, rest⟩ ↦ ?_
  dsimp only
  split
  · exact .placed _ _
  split
  · exact .ok _
  split
  · exact .placed _ _
  · exact .placed _ _
  · refine (findsFlaw_readUnit _).bind fun ⟨low, rest⟩ ↦ ?_
    dsimp only
    split
    · exact .placed _ _
    · exact .ok _
  · exact .placed _ _
  · exact .placed _ _

theorem findsFlaw_readStringBody (budget : Nat) (done cs : List Char) :
    FindsFlaw (readStringBody budget done cs) := by
  induction budget generalizing done cs with
  | zero => exact .placed _ _
  | succ budget ih =>
    cases cs with
    | nil => exact .placed _ _
    | cons c cs =>
      simp only [readStringBody]
      split
      · exact .ok _
      split
      · split
        · exact .placed _ _
        · exact (findsFlaw_readPoint _).bind fun _ ↦ ih _ _
        · split
          · exact ih _ _
          · exact .placed _ _
      split
      · exact .placed _ _
      · exact ih _ _

/-! ### Numbers -/

theorem findsFlaw_finishFloat (negative : Bool) (value : Nat) (exponent : Int) (rest : List Char) :
    FindsFlaw (finishFloat negative value exponent rest) := by
  rw [finishFloat]
  split
  · exact .ok _
  · exact .placed _ _

theorem findsFlaw_readExponent (negative : Bool) (value : Nat) (exponent : Int) (cs : List Char) :
    FindsFlaw (readExponent negative value exponent cs) := by
  simp only [readExponent]
  split
  · exact .placed _ _
  split
  · exact .placed _ _
  split
  · exact findsFlaw_finishFloat _ _ _ _
  · exact .ite (.placed _ _) (.ok _)

theorem findsFlaw_readFraction (negative : Bool) (value : Nat) (exponent : Int) (cs : List Char) :
    FindsFlaw (readFraction negative value exponent cs) := by
  rw [readFraction]
  split
  · exact .placed _ _
  · exact .placed _ _
  dsimp only
  split
  · exact findsFlaw_readExponent _ _ _ _
  · exact findsFlaw_readExponent _ _ _ _
  · exact findsFlaw_finishFloat _ _ _ _

theorem findsFlaw_readUnsigned (negative : Bool) (cs : List Char) :
    FindsFlaw (readUnsigned negative cs) := by
  cases cs with
  | nil => exact .placed _ _
  | cons c cs =>
    rw [readUnsigned]
    split
    · exact .placed _ _
    dsimp only
    split
    · exact .placed _ _
    split
    · exact findsFlaw_readFraction _ _ _ _
    · exact findsFlaw_readExponent _ _ _ _
    · exact findsFlaw_readExponent _ _ _ _
    split
    · exact .ok _
    · exact findsFlaw_finishFloat _ _ _ _

theorem findsFlaw_readNumber (cs : List Char) : FindsFlaw (readNumber cs) := by
  unfold readNumber
  split <;> exact findsFlaw_readUnsigned _ _

/-! ### Sequences and maps -/

theorem findsFlaw_seekItem (first : Bool) (cs : List Char) : FindsFlaw (seekItem first cs) := by
  rw [seekItem]
  split
  · exact .placed _ _
  · exact .ok _
  split
  · exact .ok _
  split
  · split
    · exact .placed _ _
    · exact .placed _ _
    · exact .ok _
  · exact .placed _ _

theorem findsFlaw_seekKey (first : Bool) (cs : List Char) : FindsFlaw (seekKey first cs) := by
  rw [seekKey]
  split
  · exact .placed _ _
  · exact .ok _
  split
  · split
    · exact .ok _
    · exact .placed _ _
  split
  · split
    · exact .placed _ _
    · exact .ok _
    · exact .placed _ _
    · exact .placed _ _
  · exact .placed _ _

theorem findsFlaw_readColon (cs : List Char) : FindsFlaw (readColon cs) := by
  rw [readColon]
  split
  · exact .placed _ _
  · exact .ok _
  · exact .placed _ _

theorem findsFlaw_readItems {item : Reader Tree} (hitem : ∀ cs, FindsFlaw (item cs))
    (budget : Nat) (first : Bool) (done : List Tree) (cs : List Char) :
    FindsFlaw (readItems item budget first done cs) := by
  induction budget generalizing first done cs with
  | zero => exact .placed _ _
  | succ budget ih =>
    rw [readItems]
    refine (findsFlaw_seekItem first cs).bind fun ⟨more, rest⟩ ↦ ?_
    cases more with
    | false => exact .ok _
    | true => exact (hitem rest).bind fun _ ↦ ih _ _ _

theorem findsFlaw_readMembers {item : Reader Tree} (hitem : ∀ cs, FindsFlaw (item cs))
    (limit budget : Nat) (first : Bool) (done : List (String × Tree)) (cs : List Char) :
    FindsFlaw (readMembers limit item budget first done cs) := by
  induction budget generalizing first done cs with
  | zero => exact .placed _ _
  | succ budget ih =>
    rw [readMembers]
    refine (findsFlaw_seekKey first cs).bind fun ⟨more, rest⟩ ↦ ?_
    cases more with
    | false => exact .ok _
    | true =>
      exact (findsFlaw_readStringBody _ _ _).bind fun _ ↦ (findsFlaw_readColon _).bind fun _ ↦
        (hitem _).bind fun _ ↦ ih _ _ _

/-! ### Trees and texts -/

theorem findsFlaw_readTree (budget depth : Nat) (cs : List Char) :
    FindsFlaw (readTree budget depth cs) := by
  induction depth using Nat.strongRecOn generalizing cs with
  | ind depth ih =>
    unfold readTree
    split
    · exact .placed _ _
    dsimp only
    split
    · exact (findsFlaw_readKeyword _ _).bind fun _ ↦ .ok _
    · exact (findsFlaw_readKeyword _ _).bind fun _ ↦ .ok _
    · exact (findsFlaw_readKeyword _ _).bind fun _ ↦ .ok _
    · exact (findsFlaw_readStringBody _ _ _).bind fun _ ↦ .ok _
    · split
      · exact .placed _ _
      next depth =>
      have hitems := findsFlaw_readItems (fun cs ↦ ih depth (Nat.lt_succ_self depth) cs)
      exact (hitems _ _ _ _).closing.bind fun _ ↦ .ok _
    · split
      · exact .placed _ _
      next depth =>
      have hmembers := findsFlaw_readMembers (fun cs ↦ ih depth (Nat.lt_succ_self depth) cs)
      exact (hmembers _ _ _ _ _).closing.bind fun _ ↦ .ok _
    · split
      · exact (findsFlaw_readNumber _).bind fun _ ↦ .ok _
      · exact .placed _ _

/-- A text that denotes no value is not of the wrong shape; it is no text of the format. -/
theorem Tree.parse_error {raw : String} {e : Error} (h : Tree.parse raw = .error e) :
    ∃ flaw place, e = ⟨.flaw flaw, some place⟩ := by
  rw [Tree.parse, runReader] at h
  split at h
  · next fault hread =>
    obtain ⟨flaw, unread, rfl⟩ := findsFlaw_readTree _ _ _ hread
    exact ⟨flaw, _, (Except.error.inj h).symm⟩
  · split at h
    · cases h
    · exact ⟨.trailingCharacters, _, (Except.error.inj h).symm⟩

end CitedChat.Json
