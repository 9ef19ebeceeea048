import CitedChat.Proofs.Json.Sorting
import CitedChat.Proofs.Json.Yielding

/-!
What a record makes of members whose keys are distinct. Their order is of no account: each field
gets what its decoder makes of the value under its name, or what it takes for a missing one
(`Fields.ofMembers_eq_ok_iff`).
-/

set_option autoImplicit false

namespace CitedChat.Json

/-- Where the value of a field comes from: from its slot, from a value found under its name, or from
neither. -/
def Decoder.Fills {α : Type} (d : Decoder α) (origin : Origin) :
    (slot : Option α) → (found : Option Tree) → α → Prop
  | some y, none, x => y = x
  | some _, some _, _ => False
  | none, some tree, x => d.ofTree origin tree = .ok x
  | none, none, x => d.absent = some x

theorem Decoder.ofTree_map_eq_ok_iff {α β : Type} {d : Decoder α} {origin : Origin} {f : α → β}
    {tree : Tree} {P : β → Prop} :
    (∃ y, (d.map f).ofTree origin tree = .ok y ∧ P y) ↔
      ∃ x, d.ofTree origin tree = .ok x ∧ P (f x) := by
  rw [ofTree_map]
  constructor
  · rintro ⟨_, hread, hy⟩
    obtain ⟨x, hinner, rfl⟩ := Except.map_eq_ok hread
    exact ⟨x, hinner, hy⟩
  · rintro ⟨x, hinner, hx⟩
    exact ⟨f x, by rw [hinner]; rfl, hx⟩

namespace Fields

variable {σ τ : Type}

def names : {σ τ : Type} → Fields σ τ → List String
  | _, _, .nil => []
  | _, _, .cons name _ rest => name :: rest.names

/-- The values of all fields, where `find` finds what stands under their names. -/
def Fills (origin : Origin) (find : String → Option Tree) :
    {σ τ : Type} → Fields σ τ → σ → τ → Prop
  | _, _, .nil, _, _ => True
  | _, _, .cons name decoder rest, (slot, slots), (x, xs) =>
    decoder.Fills origin slot (find name) x ∧ rest.Fills origin find slots xs

variable {fs : Fields σ τ} {origin : Origin} {find : String → Option Tree}

/-- Only what stands under the names of fields matters. -/
theorem fills_congr {other : String → Option Tree} (h : ∀ name ∈ fs.names, find name = other name)
    (slots : σ) (values : τ) :
    fs.Fills origin find slots values ↔ fs.Fills origin other slots values := by
  induction fs with
  | nil => exact Iff.rfl
  | cons name decoder rest ih =>
    obtain ⟨hname, hrest⟩ := List.forall_mem_cons.1 h
    rw [Fills, Fills, hname, ih hrest]

theorem finish_eq_ok_iff (slots : σ) (values : τ) :
    fs.finish slots = .ok values ↔ fs.Fills origin (fun _ ↦ none) slots values := by
  induction fs with
  | nil => exact iff_of_true rfl trivial
  | cons name decoder rest ih =>
    obtain ⟨slot, slots⟩ := slots
    obtain ⟨x, xs⟩ := values
    have hfilled : decoder.Fills origin slot none x ↔ (slot <|> decoder.absent) = some x := by
      cases slot with
      | none => exact Iff.rfl
      | some y => exact ⟨congrArg some, Option.some.inj⟩
    rw [Fills, hfilled, finish, ← ih]
    cases (slot <|> decoder.absent) with
    | none => simp [bind, Except.bind]
    | some y => cases rest.finish slots <;> simp [bind, Except.bind, pure, Except.pure]

theorem entry_eq_none {key : String} (hkey : key ∉ fs.names) (slots : σ) :
    fs.entry key slots = none := by
  induction fs with
  | nil => rfl
  | cons name decoder rest ih =>
    obtain ⟨hname, hrest⟩ := not_or.1 (mt List.mem_cons.2 hkey)
    rw [entry, if_neg fun hsame ↦ hname (eq_of_beq hsame), ih hrest]
    rfl

/-- A value found under a field's name fills the slot of that field, which has to be free. -/
theorem entry_eq_some (hnames : fs.names.Nodup) {key : String} (hkey : key ∈ fs.names) (slots : σ)
    (origin : Origin) (find : String → Option Tree) {tree : Tree} (hfound : find key = some tree) :
    ∃ e, fs.entry key slots = some e ∧ ∀ values,
      fs.Fills origin find slots values ↔ e.taken = false ∧ ∃ filled,
        e.fill.ofTree origin tree = .ok filled ∧
          fs.Fills origin (fun name ↦ if name = key then none else find name) filled values := by
  induction fs with
  | nil => cases hkey
  | cons name decoder rest ih =>
    obtain ⟨slot, slots⟩ := slots
    obtain ⟨hname, hrest⟩ := List.nodup_cons.1 hnames
    rw [entry]
    by_cases hsame : key = name
    · subst hsame
      refine ⟨_, if_pos (beq_self_eq_true key), fun values ↦ ?_⟩
      obtain ⟨x, xs⟩ := values
      have hothers : rest.Fills origin find slots xs ↔
          rest.Fills origin (fun name ↦ if name = key then none else find name) slots xs :=
        fills_congr (fun name hmem ↦ (if_neg (ne_of_mem_of_not_mem hmem hname)).symm) slots xs
      rw [Fills, hfound, hothers]
      cases slot with
      | some y => simp [Decoder.Fills]
      | none =>
        simp [Decoder.ofTree_map_eq_ok_iff, Fills, Decoder.Fills]
    · obtain ⟨e, hentry, hfills⟩ := ih hrest ((List.mem_cons.1 hkey).resolve_left hsame) slots
      rw [if_neg fun heq ↦ hsame (eq_of_beq heq), hentry]
      refine ⟨_, rfl, fun values ↦ ?_⟩
      obtain ⟨x, xs⟩ := values
      rw [Fills, hfills, Decoder.ofTree_map_eq_ok_iff]
      simp only [Fills, if_neg (Ne.symm hsame)]
      constructor
      · rintro ⟨hfirst, hfree, filled, hread, hmore⟩
        exact ⟨hfree, filled, hread, hfirst, hmore⟩
      · rintro ⟨hfree, filled, hread, hfirst, hmore⟩
        exact ⟨hfirst, hfree, filled, hread, hmore⟩

/-- Members whose keys are distinct fill the fields whatever their order, whoever stands beside
them. -/
theorem ofMembers_eq_ok_iff (hnames : fs.names.Nodup) {members : List (String × Tree)}
    (hkeys : (members.map Prod.fst).Nodup) (slots : σ) (values : τ) :
    fs.ofMembers origin slots members = .ok values ↔
      fs.Fills origin (Tree.lookup · members) slots values := by
  induction members generalizing slots with
  | nil => exact finish_eq_ok_iff slots values
  | cons m members ih =>
    obtain ⟨hkey, hrest⟩ := List.nodup_cons.1 hkeys
    have hfound : Tree.lookup m.1 (m :: members) = some m.2 := by
      rw [Tree.lookup_cons, Tree.lookup_eq_none hkey, if_pos rfl]
      rfl
    have hothers {name : String} (hname : name ≠ m.1) :
        Tree.lookup name (m :: members) = Tree.lookup name members := by
      rw [Tree.lookup_cons, if_neg hname.symm, Option.or_none]
    rw [ofMembers]
    by_cases hfield : m.1 ∈ fs.names
    · obtain ⟨e, hentry, hfills⟩ := entry_eq_some hnames hfield slots origin
        (Tree.lookup · (m :: members)) hfound
      have hleft (name : String) : (if name = m.1 then none else Tree.lookup name (m :: members)) =
          Tree.lookup name members := by
        split
        · next hname => rw [hname, Tree.lookup_eq_none hkey]
        · next hname => exact hothers hname
      simp only [hleft] at hfills
      rw [hentry, hfills]
      dsimp only
      cases e.taken with
      | true => simp
      | false =>
        cases hread : e.fill.ofTree origin m.2 with
        | error mismatch => simp [bind, Except.bind]
        | ok filled => simpa [bind, Except.bind] using ih hrest filled
    · rw [entry_eq_none hfield]
      refine (ih hrest slots).trans (fills_congr (fun name hmem ↦ (hothers ?_).symm) slots values)
      rintro rfl
      exact hfield hmem

end Fields

end CitedChat.Json
