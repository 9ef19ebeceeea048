import CitedChat.Proofs.Json.Decoding
import CitedChat.Proofs.Json.Printing
import Mathlib.Data.String.Basic

/-!
Sorting the keys of a value. Sorted keys ascend (`Tree.ascending_sortedMembers`), under each of them
stands the last value that it had (`Tree.lookup_sortedMembers`), and to sort a second time changes
nothing (`Tree.sorted_sorted`).
-/

set_option autoImplicit false

namespace CitedChat.Json

namespace Tree

/-- Keys ascend, so that each occurs once. -/
def Ascending (members : List (String × Tree)) : Prop :=
  members.Pairwise fun m n ↦ m.1 < n.1

theorem Ascending.nodup {members : List (String × Tree)} (h : Ascending members) :
    (members.map Prod.fst).Nodup :=
  List.pairwise_map.2 (h.imp fun hless ↦ ne_of_lt hless)

/-! ### Finding values -/

theorem lookup_nil (key : String) : lookup key [] = none := rfl

theorem lookup_cons (key : String) (m : String × Tree) (members : List (String × Tree)) :
    lookup key (m :: members) =
      (lookup key members).or (if m.1 = key then some m.2 else none) := by
  rw [lookup, lookup, List.reverse_cons, List.find?_append, Option.map_or]
  by_cases hkey : m.1 = key <;> simp [hkey]

theorem lookup_append (key : String) (members others : List (String × Tree)) :
    lookup key (members ++ others) = (lookup key others).or (lookup key members) := by
  rw [lookup, lookup, lookup, List.reverse_append, List.find?_append, Option.map_or]

/-- What is found under a key is the last of its values. -/
theorem lookup_eq_getLast? (key : String) (members : List (String × Tree)) :
    lookup key members = ((members.filter fun m ↦ m.1 == key).getLast?).map (·.2) := by
  rw [lookup, ← List.head?_filter, List.filter_reverse, List.head?_reverse]

theorem mem_of_lookup {key : String} {tree : Tree} {members : List (String × Tree)}
    (h : lookup key members = some tree) : (key, tree) ∈ members := by
  induction members with
  | nil => cases h
  | cons m members ih =>
    rw [lookup_cons, Option.or_eq_some_iff] at h
    obtain h | ⟨-, h⟩ := h
    · exact List.mem_cons_of_mem m (ih h)
    · split at h
      · next hkey =>
        cases h
        subst hkey
        exact List.mem_cons_self
      · cases h

theorem lookup_eq_none {key : String} {members : List (String × Tree)}
    (h : key ∉ members.map Prod.fst) : lookup key members = none := by
  cases hlookup : lookup key members with
  | none => rfl
  | some tree => exact absurd (List.mem_map_of_mem (f := Prod.fst) (mem_of_lookup hlookup)) h

theorem lookup_of_mem {members : List (String × Tree)} (hkeys : (members.map Prod.fst).Nodup)
    {m : String × Tree} (hmem : m ∈ members) : lookup m.1 members = some m.2 := by
  induction members with
  | nil => cases hmem
  | cons first members ih =>
    obtain ⟨hfirst, hrest⟩ := List.nodup_cons.1 hkeys
    rw [lookup_cons]
    obtain rfl | hmem := List.mem_cons.1 hmem
    · rw [lookup_eq_none hfirst, if_pos rfl, Option.none_or]
    · rw [ih hrest hmem, Option.some_or]

theorem lookup_filter {key other : String} (hkey : key ≠ other) (members : List (String × Tree)) :
    lookup key (members.filter fun m ↦ m.1 ≠ other) = lookup key members := by
  induction members with
  | nil => rfl
  | cons m members ih =>
    rw [lookup_cons, ← ih]
    by_cases hother : m.1 = other
    · have hdifferent : m.1 ≠ key := fun hsame ↦ hkey (hsame.symm.trans hother)
      rw [List.filter_cons_of_neg (by simp [hother]), if_neg hdifferent, Option.or_none]
    · rw [List.filter_cons_of_pos (by simp [hother]), lookup_cons]

/-! ### One member after the other -/

theorem mem_insertMember {key : String} {tree : Tree} {done : List (String × Tree)}
    {m : String × Tree} (h : m ∈ insertMember key tree done) : m = (key, tree) ∨ m ∈ done := by
  induction done with
  | nil => exact .inl (List.mem_singleton.1 h)
  | cons first done ih =>
    rw [insertMember] at h
    split at h
    · exact List.mem_cons.1 h
    · split at h
      · exact (List.mem_cons.1 h).imp_right (List.mem_cons_of_mem first)
      · obtain rfl | h := List.mem_cons.1 h
        · exact .inr List.mem_cons_self
        · exact (ih h).imp_right (List.mem_cons_of_mem first)

theorem Ascending.insertMember {done : List (String × Tree)} (h : Ascending done) (key : String)
    (tree : Tree) : Ascending (insertMember key tree done) := by
  induction done with
  | nil => exact List.pairwise_singleton _ _
  | cons first done ih =>
    obtain ⟨hfirst, hdone⟩ := List.pairwise_cons.1 h
    rw [Tree.insertMember]
    split
    · next hless =>
      refine List.pairwise_cons.2 ⟨fun m hmem ↦ ?_, h⟩
      obtain rfl | hmem := List.mem_cons.1 hmem
      · exact hless
      · exact lt_trans hless (hfirst m hmem)
    · next hless =>
      split
      · next hsame =>
        obtain rfl : key = first.1 := eq_of_beq hsame
        exact List.pairwise_cons.2 ⟨hfirst, hdone⟩
      · next hother =>
        have hmore : first.1 < key :=
          lt_of_le_of_ne (le_of_not_gt hless) fun heq ↦ hother (beq_of_eq heq.symm)
        refine List.pairwise_cons.2 ⟨fun m hmem ↦ ?_, ih hdone⟩
        obtain rfl | hmem := mem_insertMember hmem
        · exact hmore
        · exact hfirst m hmem

theorem lookup_of_forall_lt {key : String} {members : List (String × Tree)}
    (h : ∀ m ∈ members, key < m.1) : lookup key members = none :=
  lookup_eq_none fun hmem ↦
    have ⟨m, hmem, hsame⟩ := List.mem_map.1 hmem
    ne_of_lt (h m hmem) hsame.symm

theorem lookup_insertMember {done : List (String × Tree)} (h : Ascending done) (name key : String)
    (tree : Tree) :
    lookup name (Tree.insertMember key tree done) =
      if key = name then some tree else lookup name done := by
  induction done with
  | nil => simp [Tree.insertMember, lookup_cons, lookup_nil]
  | cons first done ih =>
    obtain ⟨hfirst, hdone⟩ := List.pairwise_cons.1 h
    rw [Tree.insertMember]
    split
    · next hless =>
      rw [lookup_cons]
      split
      · next hname =>
        subst hname
        rw [lookup_of_forall_lt (List.forall_mem_cons.2
          ⟨hless, fun m hmem ↦ lt_trans hless (hfirst m hmem)⟩)]
        rfl
      · exact Option.or_none
    · split
      · next hsame =>
        obtain rfl : key = first.1 := eq_of_beq hsame
        rw [lookup_cons, lookup_cons]
        split
        · next hname =>
          subst hname
          rw [lookup_of_forall_lt hfirst]
          rfl
        · rfl
      · next hother =>
        rw [lookup_cons, ih hdone, lookup_cons]
        split
        · rfl
        · rfl

/-! ### All members -/

theorem ascending_sortedMembers (members : List (String × Tree)) {done : List (String × Tree)}
    (h : Ascending done) : Ascending (sortedMembers members done) := by
  induction members generalizing done with
  | nil => exact h
  | cons m members ih => exact ih (h.insertMember m.1 m.2.sorted)

/-- The last value under each key stays, itself sorted. -/
theorem lookup_sortedMembers (name : String) (members : List (String × Tree))
    {done : List (String × Tree)} (h : Ascending done) :
    lookup name (sortedMembers members done) =
      ((lookup name members).map sorted).or (lookup name done) := by
  induction members generalizing done with
  | nil => rfl
  | cons m members ih =>
    rw [sortedMembers, ih (h.insertMember m.1 m.2.sorted), lookup_insertMember h, lookup_cons]
    cases lookup name members with
    | some tree => rfl
    | none => by_cases hkey : m.1 = name <;> simp [hkey]

theorem mem_sortedMembers {members done : List (String × Tree)} {m : String × Tree}
    (h : m ∈ sortedMembers members done) :
    m ∈ done ∨ ∃ n ∈ members, m = (n.1, n.2.sorted) := by
  induction members generalizing done with
  | nil => exact .inl h
  | cons first members ih =>
    obtain hdone | ⟨n, hmem, rfl⟩ := ih h
    · obtain rfl | hdone := mem_insertMember hdone
      · exact .inr ⟨first, List.mem_cons_self, rfl⟩
      · exact .inl hdone
    · exact .inr ⟨n, List.mem_cons_of_mem first hmem, rfl⟩

theorem insertMember_last {key : String} {done : List (String × Tree)}
    (h : ∀ m ∈ done, m.1 < key) (tree : Tree) :
    Tree.insertMember key tree done = done ++ [(key, tree)] := by
  induction done with
  | nil => rfl
  | cons first done ih =>
    obtain ⟨hfirst, hdone⟩ := List.forall_mem_cons.1 h
    have hother : ¬ (key == first.1) = true := fun hsame ↦ ne_of_gt hfirst (eq_of_beq hsame)
    rw [Tree.insertMember, if_neg (not_lt_of_gt hfirst), if_neg hother, ih hdone]
    rfl

/-- Members that ascend already stay where they are. -/
theorem sortedMembers_of_ascending {members done : List (String × Tree)}
    (hascending : Ascending (done ++ members)) (hsorted : ∀ m ∈ members, m.2.sorted = m.2) :
    sortedMembers members done = done ++ members := by
  induction members generalizing done with
  | nil => rw [sortedMembers, List.append_nil]
  | cons m members ih =>
    obtain ⟨hfirst, hrest⟩ := List.forall_mem_cons.1 hsorted
    have hlast : ∀ n ∈ done, n.1 < m.1 := fun n hmem ↦
      (List.pairwise_append.1 hascending).2.2 n hmem m List.mem_cons_self
    have hinsert := insertMember_last hlast m.2
    rw [List.append_cons] at hascending ⊢
    rw [sortedMembers, hfirst, hinsert]
    exact ih hascending hrest

mutual

/-- To sort a second time changes nothing. -/
theorem sorted_sorted : (tree : Tree) → tree.sorted.sorted = tree.sorted
  | .null | .bool _ | .number _ | .string _ => rfl
  | .array items => by
    rw [sorted, sorted, sortedItems_eq, sortedItems_eq, List.map_map]
    exact congrArg array (List.map_congr_left (sorted_sorted_items items))
  | .object members => by
    have hascending : Ascending (sortedMembers members []) :=
      ascending_sortedMembers members .nil
    have hvalues : ∀ m ∈ sortedMembers members [], m.2.sorted = m.2 := by
      intro m hmem
      obtain hdone | ⟨n, hn, rfl⟩ := mem_sortedMembers hmem
      · cases hdone
      · exact sorted_sorted_members members n hn
    rw [sorted, sorted, sortedMembers_of_ascending hascending hvalues]
    rfl

theorem sorted_sorted_items : (items : List Tree) →
    ∀ item ∈ items, item.sorted.sorted = item.sorted
  | [] => nofun
  | first :: items => List.forall_mem_cons.2 ⟨sorted_sorted first, sorted_sorted_items items⟩

theorem sorted_sorted_members : (members : List (String × Tree)) →
    ∀ m ∈ members, m.2.sorted.sorted = m.2.sorted
  | [] => nofun
  | (_, tree) :: members =>
    List.forall_mem_cons.2 ⟨sorted_sorted tree, sorted_sorted_members members⟩

end

/-- A value is as readable with sorted keys. -/
theorem Readable.sorted {depth : Nat} {tree : Tree} (h : Readable depth tree) :
    Readable depth tree.sorted := by
  induction h with
  | null => exact .null
  | bool value => exact .bool value
  | integer hlower hupper => exact .integer hlower hupper
  | string text => exact .string text
  | array hitems ih =>
    rw [Tree.sorted, sortedItems_eq]
    exact .array (List.forall_mem_map.2 ih)
  | object hmembers ih =>
    refine .object fun m hmem ↦ ?_
    obtain hdone | ⟨n, hn, rfl⟩ := mem_sortedMembers hmem
    · cases hdone
    · exact ih n hn

end Tree

end CitedChat.Json
