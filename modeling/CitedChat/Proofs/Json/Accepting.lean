import CitedChat.Proofs.Json.Filling
import Mathlib.Data.List.Forall2

/-!
Which values a decoder accepts, and as what. A decoder is exact for a relation between values and
trees if it accepts the related trees and no others, each as the value that it is related to
(`Decoder.Exact`). A field of an exact decoder holds a value, or may be missing or null
(`Decoder.Exact.fills_iff`, `Decoder.Exact.fills_optional_iff`); a record gets its fields from the
last value under each name (`Fields.ofMembers_sorted_eq_ok_iff`) or from a sequence that is neither
too short nor too long (`Fields.ofWholeSequence_eq_ok_iff`). Pairs and lists are sequences of what
is accepted for their parts (`Decoder.Exact.pair`, `Decoder.Exact.list`), alternatives with contents
maps from their names (`Decoder.ofTree_alternatives_eq_ok`).
-/

set_option autoImplicit false

namespace CitedChat.Json

namespace Tree

theorem sorted_array (items : List Tree) : (array items).sorted = .array (items.map sorted) := by
  rw [sorted, sortedItems_eq]

theorem sorted_single (key : String) (tree : Tree) :
    (object [(key, tree)]).sorted = .object [(key, tree.sorted)] := by
  rw [sorted, sortedMembers, sortedMembers, insertMember]

theorem sorted_eq_null_iff {tree : Tree} : tree.sorted = .null ↔ tree = .null := by
  cases tree <;> simp [sorted]

theorem sorted_eq_number_iff {tree : Tree} {value : Number} :
    tree.sorted = .number value ↔ tree = .number value := by
  cases tree <;> simp [sorted]

theorem sorted_eq_string_iff {tree : Tree} {text : String} :
    tree.sorted = .string text ↔ tree = .string text := by
  cases tree <;> simp [sorted]

end Tree

/-- What stands under a key that need not be there: where there is nothing, or null, there is no
value. -/
inductive Given {α : Type} (is : α → Tree → Prop) : Option Tree → Option α → Prop where
  | absent : Given is none none
  | null : Given is (some .null) none
  | value {x : α} {tree : Tree} (h : is x tree) : Given is (some tree) (some x)

namespace Decoder

variable {α : Type} {is : α → Tree → Prop}

/-- From a tree with sorted keys the decoder makes just the values that the tree is related to. -/
def Exact (d : Decoder α) (is : α → Tree → Prop) : Prop :=
  ∀ (tree : Tree) (x : α), d.ofTree .whole tree.sorted = .ok x ↔ is x tree

/-! ### Scalars -/

theorem exact_string : string.Exact fun text tree ↦ tree = .string text := by
  refine fun tree text ↦ Iff.trans ?_ Tree.sorted_eq_string_iff
  cases tree.sorted <;> simp [string, stringAs, mistyped]

theorem exact_number (expected : String) :
    (number expected).Exact fun n tree ↦ tree = .integer n := by
  refine fun tree n ↦ Iff.trans ?_ Tree.sorted_eq_number_iff
  cases tree.sorted with
  | number value => cases value <;> simp [number, mistyped]
  | _ => simp [number, mistyped]

theorem Exact.map {β : Type} {d : Decoder α} (h : d.Exact is) (f : α → β) :
    (d.map f).Exact fun y tree ↦ ∃ x, is x tree ∧ f x = y := by
  intro tree y
  rw [ofTree_map]
  constructor
  · intro hread
    obtain ⟨x, hx, rfl⟩ := Except.map_eq_ok hread
    exact ⟨x, (h tree x).1 hx, rfl⟩
  · rintro ⟨x, hx, rfl⟩
    rw [(h tree x).2 hx]
    rfl

/-- A check narrows what is accepted. -/
theorem Exact.check {β : Type} {d : Decoder α} (h : d.Exact is) (f : α → Except Mismatch β) :
    (d.check f).Exact fun y tree ↦ ∃ x, is x tree ∧ f x = .ok y := by
  intro tree y
  have hcheck : (d.check f).ofTree .whole tree.sorted = d.ofTree .whole tree.sorted >>= f := rfl
  rw [hcheck]
  constructor
  · intro hread
    obtain ⟨x, hx, hy⟩ := Except.bind_eq_ok hread
    exact ⟨x, (h tree x).1 hx, hy⟩
  · rintro ⟨x, hx, hy⟩
    rw [(h tree x).2 hx]
    exact hy

theorem exact_natural (expected : String) :
    (natural expected).Exact fun n tree ↦ tree = .natural n ∧ n < Word.limit := by
  refine fun tree n ↦ ((exact_number expected).check _ tree n).trans ⟨?_, ?_⟩
  · rintro ⟨x, rfl, hx⟩
    split at hx
    · next hrange =>
      cases hx
      rw [Tree.natural, Int.toNat_of_nonneg hrange.1]
      exact ⟨rfl, by omega⟩
    · cases hx
  · rintro ⟨rfl, hfits⟩
    refine ⟨n, rfl, ?_⟩
    rw [if_pos ⟨Int.natCast_nonneg n, Int.ofNat_lt.2 hfits⟩, Int.toNat_natCast]

theorem exact_signed64 :
    signed64.Exact fun n tree ↦ tree = .integer n ∧
      -(Word.signedLimit : Int) ≤ n ∧ n < Word.signedLimit := by
  refine fun tree n ↦ ((exact_number "i64").check _ tree n).trans ⟨?_, ?_⟩
  · rintro ⟨x, rfl, hx⟩
    split at hx
    · next hrange =>
      cases hx
      exact ⟨rfl, hrange⟩
    · cases hx
  · rintro ⟨rfl, hrange⟩
    exact ⟨n, rfl, if_pos hrange⟩

/-! ### Fields -/

/-- A field that takes nothing for a missing value has to be there. -/
theorem Exact.fills_iff {d : Decoder α} (h : d.Exact is) (habsent : d.absent = none)
    (found : Option Tree) (x : α) :
    d.Fills .whole none (found.map Tree.sorted) x ↔ ∃ tree, found = some tree ∧ is x tree := by
  cases found with
  | none => simp [Fills, habsent]
  | some tree => simp [Fills, h tree x]

theorem Exact.fills_optional_iff {d : Decoder α} (h : d.Exact is) (hnull : ∀ x, ¬ is x .null)
    (found : Option Tree) (x : Option α) :
    d.optional.Fills .whole none (found.map Tree.sorted) x ↔ Given is found x := by
  cases found with
  | none =>
    constructor
    · intro hfills
      obtain rfl : none = x := Option.some.inj hfills
      exact .absent
    · rintro ⟨⟩
      rfl
  | some tree =>
    by_cases htree : tree = .null
    · subst htree
      constructor
      · intro hfills
        obtain rfl : none = x := Except.ok.inj hfills
        exact .null
      · intro hgiven
        cases hgiven with
        | null => rfl
        | value hx => exact absurd hx (hnull _)
    · have hread : d.optional.ofTree .whole tree.sorted =
          (d.ofTree .whole tree.sorted).map some := by
        cases hsorted : tree.sorted with
        | null => exact absurd (Tree.sorted_eq_null_iff.1 hsorted) htree
        | _ => rfl
      rw [Option.map_some, Fills, hread]
      constructor
      · intro hfills
        obtain ⟨y, hy, rfl⟩ := Except.map_eq_ok hfills
        exact .value ((h tree y).1 hy)
      · intro hgiven
        cases hgiven with
        | null => exact absurd rfl htree
        | value hx => rw [(h tree _).2 hx]; rfl

end Decoder

namespace Fields

variable {σ τ : Type} {fs : Fields σ τ}

/-- A record that is written as an object has in each field what stands last under its name. -/
theorem ofMembers_sorted_eq_ok_iff (hnames : fs.names.Nodup) (members : List (String × Tree))
    (slots : σ) (values : τ) :
    fs.ofMembers .whole slots (Tree.sortedMembers members []) = .ok values ↔
      fs.Fills .whole (fun name ↦ (Tree.lookup name members).map Tree.sorted) slots values := by
  have hascending : Tree.Ascending (Tree.sortedMembers members []) :=
    Tree.ascending_sortedMembers members .nil
  rw [ofMembers_eq_ok_iff hnames hascending.nodup]
  refine fills_congr (fun name _ ↦ ?_) slots values
  rw [Tree.lookup_sortedMembers name members .nil, Tree.lookup_nil, Option.or_none]

/-- The values of all fields, where the items of a sequence stand for them. -/
def Lists : {σ τ : Type} → Fields σ τ → List Tree → τ → Prop
  | _, _, .nil, items, _ => items = []
  | _, _, .cons _ decoder rest, [], (x, xs) => decoder.absent = some x ∧ rest.Lists [] xs
  | _, _, .cons _ decoder rest, item :: items, (x, xs) =>
    decoder.ofTree .whole item = .ok x ∧ rest.Lists items xs

theorem ofItems_eq_ok_iff (expected : String) (index : Nat) (items : List Tree) (values : τ) :
    fs.ofItems .whole expected index items = .ok (values, []) ↔ fs.Lists items values := by
  induction fs generalizing index items with
  | nil => simp [ofItems, Lists]
  | cons name decoder rest ih =>
    obtain ⟨x, xs⟩ := values
    cases items with
    | nil =>
      rw [ofItems, Lists, ← ih (index + 1) []]
      cases decoder.absent with
      | none => simp
      | some y => cases rest.ofItems .whole expected (index + 1) [] <;>
          simp [bind, Except.bind, pure, Except.pure, Prod.ext_iff, and_assoc]
    | cons item items =>
      rw [ofItems, Lists, ← ih (index + 1) items]
      cases decoder.ofTree .whole item with
      | error mismatch => simp [bind, Except.bind]
      | ok y => cases rest.ofItems .whole expected (index + 1) items <;>
          simp [bind, Except.bind, pure, Except.pure, Prod.ext_iff, and_assoc]

/-- A record that is written as a sequence has in each field what stands in its place. -/
theorem ofWholeSequence_eq_ok_iff (expected : String) (items : List Tree) (values : τ) :
    fs.ofWholeSequence .whole expected items = .ok values ↔ fs.Lists items values := by
  rw [← ofItems_eq_ok_iff expected 0, ofWholeSequence]
  cases hitems : fs.ofItems .whole expected 0 items with
  | error mismatch => simp [bind, Except.bind]
  | ok result =>
    obtain ⟨xs, left⟩ := result
    cases left <;> simp [bind, Except.bind, pure, Except.pure]

end Fields

/-- A record is an object or a sequence. -/
theorem Decoder.exact_record {σ τ : Type} (name : String) {fs : Fields σ τ}
    (hnames : fs.names.Nodup) :
    (record name fs).Exact fun values tree ↦
      (∃ members, tree = .object members ∧
        fs.Fills .whole (fun name ↦ (Tree.lookup name members).map Tree.sorted) fs.empty values) ∨
      ∃ items, tree = .array items ∧ fs.Lists (items.map Tree.sorted) values := by
  intro tree values
  cases tree with
  | object members =>
    rw [Tree.sorted, ofTree_record, Fields.ofMembers_sorted_eq_ok_iff hnames]
    simp
  | array items =>
    have hread : (record name fs).ofTree .whole (Tree.array items).sorted =
        fs.ofWholeSequence .whole (fs.sized name) (items.map Tree.sorted) := by
      rw [Tree.sorted_array]
      rfl
    rw [hread, Fields.ofWholeSequence_eq_ok_iff]
    simp
  | _ => simp [Tree.sorted, record, mistyped]

/-! ### Pairs and lists -/

namespace Decoder

variable {α β : Type} {is : α → Tree → Prop}

/-- Two fields that may not be missing are listed by two items. -/
theorem Exact.lists_iff {a : Decoder α} {b : Decoder β} {also : β → Tree → Prop} (ha : a.Exact is)
    (hb : b.Exact also) (hfirst : a.absent = none) (hsecond : b.absent = none)
    (first second : String) (items : List Tree) (x : α) (y : β) :
    (Fields.cons first a (.cons second b .nil)).Lists (items.map Tree.sorted) (x, y, ()) ↔
      ∃ one two, items = [one, two] ∧ is x one ∧ also y two := by
  constructor
  · intro hitems
    rcases items with _ | ⟨one, _ | ⟨two, _ | ⟨three, items⟩⟩⟩
    case cons.cons.nil =>
      obtain ⟨hx, hy, -⟩ := hitems
      exact ⟨one, two, rfl, (ha one x).1 hx, (hb two y).1 hy⟩
    case cons.cons.cons => exact absurd hitems.2.2 (List.cons_ne_nil _ _)
    case nil => exact absurd (hfirst.symm.trans hitems.1) (Option.some_ne_none _).symm
    case cons.nil => exact absurd (hsecond.symm.trans hitems.2.1) (Option.some_ne_none _).symm
  · rintro ⟨one, two, rfl, hx, hy⟩
    exact ⟨(ha one x).2 hx, (hb two y).2 hy, rfl⟩

/-- A pair is a sequence of two, where neither part may be missing. -/
theorem Exact.pair {a : Decoder α} {b : Decoder β} {also : β → Tree → Prop} (ha : a.Exact is)
    (hb : b.Exact also) (hfirst : a.absent = none) (hsecond : b.absent = none) :
    (Decoder.pair a b).Exact fun values tree ↦
      ∃ one two, tree = .array [one, two] ∧ is values.1 one ∧ also values.2 two := by
  intro tree values
  rw [Decoder.pair, ofTree_map]
  cases tree with
  | array items =>
    have hread (expected : String) :
        (tuple expected expected (.cons "0" a (.cons "1" b .nil))).ofTree .whole
          (Tree.array items).sorted =
        Fields.ofWholeSequence (.cons "0" a (.cons "1" b .nil)) .whole expected
          (items.map Tree.sorted) := by
      rw [Tree.sorted_array]
      rfl
    rw [hread]
    constructor
    · intro h
      obtain ⟨⟨x, y, ⟨⟩⟩, hitems, rfl⟩ := Except.map_eq_ok h
      rw [Fields.ofWholeSequence_eq_ok_iff] at hitems
      obtain ⟨one, two, rfl, hx, hy⟩ := (ha.lists_iff hb hfirst hsecond _ _ items x y).1 hitems
      exact ⟨one, two, rfl, hx, hy⟩
    · rintro ⟨one, two, hitems, hx, hy⟩
      cases hitems
      have hlists := (ha.lists_iff hb hfirst hsecond "0" "1" [one, two] values.1 values.2).2
        ⟨one, two, rfl, hx, hy⟩
      rw [(Fields.ofWholeSequence_eq_ok_iff _ _ _).2 hlists]
      rfl
  | _ => simp [Tree.sorted, tuple, mistyped, Except.map]

theorem Exact.ofItems_eq_ok_iff {d : Decoder α} (h : d.Exact is) (items : List Tree)
    (xs : List α) :
    d.ofItems .whole (items.map Tree.sorted) = .ok xs ↔ List.Forall₂ is xs items := by
  induction items generalizing xs with
  | nil => simp [ofItems, eq_comm]
  | cons item items ih =>
    rw [List.map_cons, ofItems]
    constructor
    · intro hitems
      obtain ⟨x, hx, hitems⟩ := Except.bind_eq_ok hitems
      obtain ⟨rest, hrest, hitems⟩ := Except.bind_eq_ok hitems
      cases hitems
      exact .cons ((h item x).1 hx) ((ih rest).1 hrest)
    · rintro (_ | ⟨hitem, hrest⟩)
      rw [(h item _).2 hitem, (ih _).2 hrest]
      rfl

/-- A list is a sequence of what is accepted for its items. -/
theorem Exact.list {d : Decoder α} (h : d.Exact is) :
    d.list.Exact fun xs tree ↦ ∃ items, tree = .array items ∧ List.Forall₂ is xs items := by
  intro tree xs
  cases tree with
  | array items =>
    have hread : d.list.ofTree .whole (Tree.array items).sorted =
        d.ofItems .whole (items.map Tree.sorted) := by
      rw [Tree.sorted_array]
      rfl
    rw [hread, h.ofItems_eq_ok_iff]
    simp
  | _ => simp [Tree.sorted, Decoder.list, mistyped]

/-- Lists are related item by item to what is written of them. -/
theorem forall₂_write_iff (read : Tree → Tree) (write : α → Tree) (xs : List α)
    (items : List Tree) :
    List.Forall₂ (fun x tree ↦ read tree = write x) xs items ↔ items.map read = xs.map write := by
  induction xs generalizing items with
  | nil => cases items <;> simp
  | cons x rest ih => cases items <;> simp [ih]

/-- Where the items are known by what is written of them, a list is so too. -/
theorem Exact.list_of_write {d : Decoder α} (read : Tree → Tree) (write : α → Tree)
    (h : d.Exact fun x tree ↦ read tree = write x) :
    d.list.Exact fun xs tree ↦ ∃ items, tree = .array items ∧ items.map read = xs.map write := by
  intro tree xs
  rw [h.list tree xs]
  simp only [forall₂_write_iff]

/-! ### Alternatives -/

/-- Where no alternative stands by its name alone, each is a map from its name. -/
theorem ofTree_alternatives_eq_ok {known : List (String × Alternative α)}
    (halone : ∀ entry ∈ known, ∀ x, entry.2.alone ≠ .ok x) {origin : Origin} {tree : Tree} {x : α}
    (hread : (alternatives known).ofTree origin tree = .ok x) :
    ∃ key contents a, tree = .object [(key, contents)] ∧ (key, a) ∈ known ∧
      a.contents.ofTree origin contents = .ok x := by
  simp only [alternatives] at hread
  split at hread
  · next key contents =>
    obtain ⟨a, hfind, hcontents⟩ := Except.bind_eq_ok hread
    exact ⟨key, contents, a, rfl, mem_of_findName hfind, hcontents⟩
  · cases hread
  · obtain ⟨a, hfind, hname⟩ := Except.bind_eq_ok hread
    exact absurd hname (halone _ (mem_of_findName hfind) x)
  · cases hread

/-- The contents of several values are a sequence that is not empty. -/
theorem exact_holdingTuple {σ τ : Type} (label : String) (fs : Fields σ τ) (f : τ → α) :
    (holdingTuple label fs f).contents.Exact fun x tree ↦ ∃ items values,
      tree = .array items ∧ items ≠ [] ∧ fs.Lists (items.map Tree.sorted) values ∧
        f values = x := by
  intro tree x
  cases tree with
  | array items =>
    cases items with
    | nil => simp [holdingTuple, Tree.sorted, Tree.sortedItems, mistyped]
    | cons item items =>
      have hread : (holdingTuple label fs f).contents.ofTree .whole
          (Tree.array (item :: items)).sorted =
          (fs.ofWholeSequence .whole (fs.sized label) ((item :: items).map Tree.sorted)).map f := by
        rw [Tree.sorted_array]
        rfl
      rw [hread]
      constructor
      · intro h
        obtain ⟨values, hitems, rfl⟩ := Except.map_eq_ok h
        rw [Fields.ofWholeSequence_eq_ok_iff] at hitems
        exact ⟨_, values, rfl, List.cons_ne_nil _ _, hitems, rfl⟩
      · rintro ⟨_, values, hitems, -, hlists, rfl⟩
        cases hitems
        rw [(Fields.ofWholeSequence_eq_ok_iff _ _ _).2 hlists]
        rfl
  | _ => simp [holdingTuple, Tree.sorted, mistyped]

end Decoder

end CitedChat.Json
