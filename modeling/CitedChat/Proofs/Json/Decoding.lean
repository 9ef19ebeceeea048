import CitedChat.Json.Alternatives
import CitedChat.Proofs.Library

/-!
What decoders make of trees, one equation for each way of building a decoder. A record goes through
its members one by one (`Fields.ofMembers_cons`), a list through its items (`Decoder.ofItems_map`).
Only a text that begins with a brace denotes an object (`readTree_object`).
-/

set_option autoImplicit false

namespace CitedChat.Json

namespace Tree

theorem sortedItems_eq (items : List Tree) : sortedItems items = items.map sorted := by
  induction items with
  | nil => rfl
  | cons item rest ih => rw [sortedItems, ih, List.map_cons]

theorem sorted_eq_object {tree : Tree} {members : List (String × Tree)}
    (h : tree.sorted = .object members) : ∃ written, tree = .object written := by
  cases tree with
  | object written => exact ⟨written, rfl⟩
  | _ => simp [sorted] at h

end Tree

/-! ### Texts of objects -/

theorem readTree_object {budget depth : Nat} {cs rest : List Char} {members : List (String × Tree)}
    (hread : readTree budget depth cs = .ok (.object members, rest)) :
    ∃ inner, skipSpace cs = '\x7b' :: inner := by
  unfold readTree at hread
  split at hread
  · cases hread
  · next c inner hspace =>
    split at hread
    · obtain ⟨_, _, hread⟩ := Except.bind_eq_ok hread
      cases hread
    · obtain ⟨_, _, hread⟩ := Except.bind_eq_ok hread
      cases hread
    · obtain ⟨_, _, hread⟩ := Except.bind_eq_ok hread
      cases hread
    · obtain ⟨_, _, hread⟩ := Except.bind_eq_ok hread
      cases hread
    · split at hread
      · cases hread
      · obtain ⟨_, _, hread⟩ := Except.bind_eq_ok hread
        cases hread
    · exact ⟨inner, hspace⟩
    · split at hread
      · obtain ⟨_, _, hread⟩ := Except.bind_eq_ok hread
        cases hread
      · cases hread

/-- A text that denotes an object begins with a brace. -/
theorem Tree.parse_object {text : String} {members : List (String × Tree)}
    (hparse : Tree.parse text = .ok (.object members)) :
    ∃ inner, skipSpace text.toList = '\x7b' :: inner := by
  rw [Tree.parse, runReader] at hparse
  split at hparse
  · cases hparse
  · next tree rest hread =>
    split at hparse
    · obtain ⟨written, rfl⟩ := Tree.sorted_eq_object (Except.ok.inj hparse)
      exact readTree_object hread
    · cases hparse

/-! ### Scalars -/

namespace Decoder

theorem ofTree_map {α β : Type} (f : α → β) (d : Decoder α) (origin : Origin) (tree : Tree) :
    (d.map f).ofTree origin tree = (d.ofTree origin tree).map f := rfl

theorem ofTree_check {α β : Type} {d : Decoder α} {origin : Origin} {tree : Tree} {x : α}
    (hread : d.ofTree origin tree = .ok x) (f : α → Except Mismatch β) :
    (d.check f).ofTree origin tree = f x := by
  have hcheck : (d.check f).ofTree origin tree = d.ofTree origin tree >>= f := rfl
  rw [hcheck, hread]
  rfl

theorem ofTree_string (origin : Origin) (text : String) :
    string.ofTree origin (.string text) = .ok text := rfl

theorem ofTree_natural (expected : String) (origin : Origin) {n : Nat} (hfits : n < Word.limit) :
    (natural expected).ofTree origin (.natural n) = .ok n := by
  have hnumber : (number expected).ofTree origin (.natural n) = .ok (n : Int) := rfl
  have hrange : 0 ≤ (n : Int) ∧ (n : Int) < Word.limit :=
    ⟨Int.natCast_nonneg n, Int.ofNat_lt.2 hfits⟩
  rw [natural, ofTree_check hnumber, if_pos hrange, Int.toNat_natCast]

theorem ofTree_signed64 (origin : Origin) {n : Int}
    (hfits : -(Word.signedLimit : Int) ≤ n ∧ n < Word.signedLimit) :
    signed64.ofTree origin (.integer n) = .ok n := by
  have hnumber : (number "i64").ofTree origin (.integer n) = .ok n := rfl
  rw [signed64, ofTree_check hnumber, if_pos hfits]

/-! ### Lists, records and alternatives -/

/-- Items that are each decoded are decoded in their order. -/
theorem ofItems_map {α : Type} {d : Decoder α} {origin : Origin} (write : α → Tree) {xs : List α}
    (hread : ∀ x ∈ xs, d.ofTree origin (write x) = .ok x) :
    d.ofItems origin (xs.map write) = .ok xs := by
  induction xs with
  | nil => rfl
  | cons x rest ih =>
    obtain ⟨hfirst, hrest⟩ := List.forall_mem_cons.1 hread
    rw [List.map_cons, ofItems, hfirst, ih hrest]
    rfl

theorem ofTree_record {σ τ : Type} (name : String) (fs : Fields σ τ) (origin : Origin)
    (members : List (String × Tree)) :
    (record name fs).ofTree origin (.object members) = fs.ofMembers origin fs.empty members := rfl

theorem ofTree_alternatives {α : Type} {known : List (String × Alternative α)} {key : String}
    {a : Alternative α} (hknown : findName known key = .ok a) (origin : Origin) (tree : Tree) :
    (alternatives known).ofTree origin (.object [(key, tree)]) = a.contents.ofTree origin tree := by
  have hname : (alternatives known).ofTree origin (.object [(key, tree)]) =
      findName known key >>= fun a ↦ a.contents.ofTree origin tree := rfl
  rw [hname, hknown]
  rfl

end Decoder

end CitedChat.Json
