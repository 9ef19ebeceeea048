import CitedChat.Proofs.Json.Skipping
import CitedChat.Proofs.Json.Yielding

/-!
Decoders read the text of a value as they read the value. What a decoder makes of a value that
stands by itself it makes of the value's text, up to whatever follows (`Decoder.Coherent`). Scalars
are coherent, and each way of building a decoder keeps this: a list and the fields of a record go
through their texts as through their trees (`Fields.Coherent.readMembers`,
`Fields.Coherent.readItems`).
-/

set_option autoImplicit false

namespace CitedChat.Json

namespace Tree

end Tree

namespace Decoder

variable {α β : Type}

/-- What the decoder makes of a value that stands by itself, it makes of the value's text. -/
def Coherent (d : Decoder α) : Prop :=
  ∀ ⦃tree : Tree⦄ ⦃x : α⦄, d.ofTree .whole tree = .ok x →
    ∀ ⦃scope : Scope⦄ ⦃rest : List Char⦄, tree.Readable scope.depth →
      tree.print.length ≤ scope.budget → Ends rest →
      d.ofText scope (tree.print ++ rest) = .ok (x, rest)

/-! ### Scalars -/

theorem ofText_map (f : α → β) (d : Decoder α) (scope : Scope) (cs : List Char) :
    (d.map f).ofText scope cs = (d.ofText scope cs).map fun (x, rest) ↦ (f x, rest) := rfl

theorem Coherent.map {d : Decoder α} (h : d.Coherent) (f : α → β) : (d.map f).Coherent := by
  intro tree y hdecode scope rest hreadable hbudget hends
  obtain ⟨x, hread, rfl⟩ := Except.map_eq_ok hdecode
  have htext := h hread hreadable hbudget hends
  rw [ofText_map, htext]
  rfl

theorem Coherent.check {d : Decoder α} (h : d.Coherent) (f : α → Except Mismatch β) :
    (d.check f).Coherent := by
  intro tree y hdecode scope rest hreadable hbudget hends
  obtain ⟨x, hread, hcheck⟩ := Except.bind_eq_ok hdecode
  have htext := h hread hreadable hbudget hends
  simp [Decoder.check, htext, hcheck, bind, Except.bind, pure, Except.pure]

/-- A text in quotes is read, whatever follows. -/
theorem ofText_stringAs (expected : String) {text : String} {scope : Scope}
    (hbudget : text.toList.length < scope.budget) (rest : List Char) :
    (stringAs expected).ofText scope ('"' :: (text.toList.flatMap escapeChar ++ '"' :: rest)) =
      .ok (text, rest) :=
  readString_print text rest hbudget

theorem coherent_stringAs (expected : String) : (stringAs expected).Coherent := by
  intro tree x hdecode scope rest hreadable hbudget hends
  cases tree with
  | string text =>
    obtain rfl : text = x := Except.ok.inj hdecode
    have hlength := Tree.length_le_printString text
    rw [Tree.print] at hbudget
    rw [Tree.print_string]
    exact ofText_stringAs expected (by omega) rest
  | _ => cases hdecode

theorem coherent_string : string.Coherent :=
  coherent_stringAs "a string"

theorem coherent_number (expected : String) : (number expected).Coherent := by
  rintro tree x hdecode ⟨depth, budget⟩ rest hreadable hbudget hends
  cases hreadable with
  | @integer _ n hlower hupper =>
    obtain rfl : n = x := Except.ok.inj hdecode
    obtain ⟨c, cs, hprint, hstart⟩ := exists_print_integer n
    have hskip := skipSpace_append (opens_print_integer n) rest
    have hnumber := readNumber_print hlower hupper hends
    rw [Tree.print]
    rw [hprint, List.cons_append] at hskip hnumber ⊢
    simp only [number, hskip]
    rw [if_pos hstart, hnumber]
    rfl
  | _ => cases hdecode

theorem coherent_natural (expected : String) : (natural expected).Coherent :=
  (coherent_number expected).check _

theorem coherent_signed64 : signed64.Coherent :=
  (coherent_number "i64").check _

theorem coherent_unit : unit.Coherent := by
  intro tree x hdecode scope rest hreadable hbudget hends
  cases tree with
  | null => rfl
  | _ => cases hdecode

theorem coherent_bare (expected : String) : (bare expected).Coherent := by
  intro tree x hdecode scope rest hreadable hbudget hends
  cases tree with
  | null => rfl
  | _ => cases hdecode

/-! ### Lists -/

theorem ofText_list (d : Decoder α) (depth budget : Nat) (rest : List Char) :
    d.list.ofText ⟨depth + 1, budget⟩ ('[' :: rest) =
      closing closeSequence (readItems (d.ofText ⟨depth, budget⟩) budget true [] rest) := rfl

theorem Coherent.list {d : Decoder α} (h : d.Coherent) : d.list.Coherent := by
  rintro tree xs hdecode ⟨depth, budget⟩ rest hreadable hbudget hends
  cases tree with
  | array items =>
    obtain ⟨entries, rfl, rfl, hentries⟩ := exists_of_ofItems (show d.ofItems _ _ = _ from hdecode)
    cases hreadable with
    | @array depth _ hitems =>
      obtain ⟨hcount, hlengths⟩ := Tree.array_bounds hitems hbudget
      rw [List.length_map] at hcount
      have hread := readItems_joined (d.ofText ⟨depth, budget⟩)
        (Tree.print ∘ Prod.fst) Prod.snd hcount
        (fun entry hmem ↦
          have hitem := List.mem_map_of_mem (f := Prod.fst) hmem
          ⟨(hitems _ hitem).opens_print, fun _ hends ↦
            h (hentries entry hmem) (hitems _ hitem) (hlengths _ hitem) hends⟩)
        true [] rest
      rw [Tree.print_array, List.map_map, ofText_list, hread]
      rfl
  | _ => cases hdecode

end Decoder

/-! ### Records -/

/-- The members of an object whose text is within the scope. -/
structure Scope.Admits (scope : Scope) (members : List (String × Tree)) : Prop where
  count : members.length < scope.budget
  each : ∀ m ∈ members, m.2.Readable scope.depth ∧ m.1.toList.length < scope.budget ∧
    m.2.print.length < scope.budget

theorem Scope.Admits.tail {scope : Scope} {m : String × Tree} {members : List (String × Tree)}
    (h : scope.Admits (m :: members)) : scope.Admits members where
  count := Nat.lt_of_succ_lt h.count
  each := (List.forall_mem_cons.1 h.each).2

theorem Scope.admits_of_object {depth budget : Nat} {members : List (String × Tree)}
    (hmembers : ∀ m ∈ members, m.2.Readable depth)
    (hbudget : (Tree.object members).print.length ≤ budget) :
    Scope.Admits ⟨depth, budget⟩ members :=
  have hbounds := Tree.object_bounds hbudget
  ⟨hbounds.1, fun m hmem ↦ ⟨hmembers m hmem, hbounds.2 m hmem⟩⟩

theorem ends_members (members : List (String × Tree)) (rest : List Char) :
    Ends (joined false (members.map Tree.printMember) ++ '\x7d' :: rest) :=
  ends_joined _ (.inr (.inr rfl))

namespace Fields

variable {σ τ : Type}

/-- The decoders of all fields are coherent. -/
def Coherent : {σ τ : Type} → Fields σ τ → Prop
  | _, _, .nil => True
  | _, _, .cons _ decoder rest => decoder.Coherent ∧ rest.Coherent

theorem Coherent.entry {fs : Fields σ τ} (h : fs.Coherent) {key : String} {slots : σ}
    {e : Entry σ} (hentry : fs.entry key slots = some e) : e.fill.Coherent := by
  induction fs with
  | nil => cases hentry
  | cons name decoder rest ih =>
    obtain ⟨slot, slots⟩ := slots
    rw [Fields.entry] at hentry
    split at hentry
    · cases hentry
      exact h.1.map _
    · obtain ⟨inner, hinner, rfl⟩ := Option.map_eq_some_iff.1 hentry
      exact (ih h.2 hinner).map _

/-- The members of an object fill the fields from its text as from the object. -/
theorem Coherent.readMembers {fs : Fields σ τ} (h : fs.Coherent)
    {members : List (String × Tree)} {slots : σ} {x : τ}
    (hdecode : fs.ofMembers .whole slots members = .ok x) {scope : Scope}
    (hadmits : scope.Admits members) {budget : Nat} (hbudget : members.length < budget)
    (first : Bool) (rest : List Char) :
    fs.readMembers scope budget first slots
        (joined first (members.map Tree.printMember) ++ '\x7d' :: rest) =
      .ok (x, '\x7d' :: rest) := by
  induction members generalizing slots budget first with
  | nil =>
    obtain ⟨budget, rfl⟩ := Nat.exists_eq_add_one_of_ne_zero (Nat.ne_zero_of_lt hbudget)
    have hfinish : fs.finish slots = .ok x := hdecode
    simp [Fields.readMembers, joined, seekKey_close, hfinish, bind, Except.bind, pure, Except.pure]
  | cons m members ih =>
    obtain ⟨budget, rfl⟩ := Nat.exists_eq_add_one_of_ne_zero (Nat.ne_zero_of_lt hbudget)
    obtain ⟨hreadable, hkey, hlength⟩ := hadmits.each m List.mem_cons_self
    have hends := ends_members members rest
    have hmore {slots : σ} (hdecode : fs.ofMembers .whole slots members = .ok x) :=
      ih hdecode hadmits.tail (Nat.lt_of_succ_lt_succ hbudget) false
    rw [List.map_cons, Fields.readMembers, Tree.seekKey_joined]
    rw [ofMembers] at hdecode
    simp only [bind, Except.bind, readString_print _ _ hkey]
    cases hentry : fs.entry m.1 slots with
    | none =>
      rw [hentry] at hdecode
      simp only [readColon_colon, Tree.skipTree_print hreadable hlength hends]
      exact hmore hdecode
    | some e =>
      rw [hentry] at hdecode
      dsimp only at hdecode ⊢
      split at hdecode
      · cases hdecode
      · next hfree =>
        obtain ⟨filled, hfill, hdecode⟩ := Except.bind_eq_ok hdecode
        have htext := h.entry hentry hfill hreadable (Nat.le_of_lt hlength) hends
        simp only [hfree, readColon_colon, htext]
        exact hmore hdecode

/-- The items of a sequence fill the fields from its text as from the sequence. -/
theorem Coherent.readItems {fs : Fields σ τ} (h : fs.Coherent) {expected : String}
    {items : List Tree} {index : Nat} {x : τ}
    (hdecode : fs.ofItems .whole expected index items = .ok (x, [])) (scope : Scope)
    (hitems : ∀ item ∈ items, item.Readable scope.depth ∧ item.print.length ≤ scope.budget)
    (first : Bool) (rest : List Char) :
    fs.readItems scope expected index first (joined first (items.map Tree.print) ++ ']' :: rest) =
      .ok (x, ']' :: rest) := by
  induction fs generalizing items index first with
  | nil =>
    cases hdecode
    rfl
  | cons name decoder fields ih =>
    cases items with
    | nil =>
      rw [ofItems] at hdecode
      rw [Fields.readItems, List.map_nil, joined, List.nil_append, seekItem_close]
      simp only [bind, Except.bind]
      cases habsent : decoder.absent with
      | none =>
        rw [habsent] at hdecode
        cases hdecode
      | some y =>
        rw [habsent] at hdecode
        obtain ⟨⟨ys, left⟩, hmore, hdecode⟩ := Except.bind_eq_ok hdecode
        cases hdecode
        have hfields := ih h.2 hmore hitems first
        rw [List.map_nil, joined, List.nil_append] at hfields
        simp only [hfields, pure, Except.pure]
    | cons item items =>
      obtain ⟨⟨hreadable, hlength⟩, hrest⟩ := List.forall_mem_cons.1 hitems
      have hends : Ends (joined false (items.map Tree.print) ++ ']' :: rest) :=
        ends_joined _ (.inr (.inl rfl))
      rw [ofItems] at hdecode
      obtain ⟨y, hread, hdecode⟩ := Except.bind_eq_ok hdecode
      obtain ⟨⟨ys, left⟩, hmore, hdecode⟩ := Except.bind_eq_ok hdecode
      cases hdecode
      have htext := h.1 hread hreadable hlength hends
      have hfields := ih h.2 hmore hrest false
      rw [Fields.readItems, List.map_cons, seekItem_joined first hreadable.opens_print]
      simp only [bind, Except.bind, htext, hfields, pure, Except.pure]

/-- Nothing is left of a sequence that is taken whole. -/
theorem ofItems_of_ofWholeSequence {fs : Fields σ τ} {origin : Origin} {expected : String}
    {items : List Tree} {x : τ} (hdecode : fs.ofWholeSequence origin expected items = .ok x) :
    fs.ofItems origin expected 0 items = .ok (x, []) := by
  obtain ⟨⟨y, left⟩, hitems, hdecode⟩ := Except.bind_eq_ok hdecode
  cases left with
  | nil =>
    cases hdecode
    exact hitems
  | cons item left => cases origin <;> cases hdecode

theorem readSequence_eq (fs : Fields σ τ) (depth budget : Nat) (expected : String)
    (rest : List Char) :
    fs.readSequence ⟨depth + 1, budget⟩ expected rest =
      closing closeSequence (fs.readItems ⟨depth, budget⟩ expected 0 true rest) := rfl

theorem Coherent.readSequence {fs : Fields σ τ} (h : fs.Coherent) {expected : String}
    {items : List Tree} {x : τ} (hdecode : fs.ofWholeSequence .whole expected items = .ok x)
    {scope : Scope} (hreadable : (Tree.array items).Readable scope.depth)
    (hbudget : (Tree.array items).print.length ≤ scope.budget) (rest : List Char) :
    fs.readSequence scope expected (joined true (items.map Tree.print) ++ ']' :: rest) =
      .ok (x, rest) := by
  obtain ⟨depth, budget⟩ := scope
  cases hreadable with
  | @array depth _ hitems =>
    obtain ⟨-, hlengths⟩ := Tree.array_bounds hitems hbudget
    have hread := h.readItems (ofItems_of_ofWholeSequence hdecode) ⟨depth, budget⟩
      (fun item hmem ↦ ⟨hitems item hmem, hlengths item hmem⟩) true rest
    exact (readSequence_eq fs depth budget expected _).trans (by rw [hread]; rfl)

end Fields

namespace Decoder

variable {α β σ τ : Type}

theorem ofText_record_object (name : String) (fs : Fields σ τ) (depth budget : Nat)
    (rest : List Char) :
    (record name fs).ofText ⟨depth + 1, budget⟩ ('\x7b' :: rest) =
      closing closeMap (fs.readMembers ⟨depth, budget⟩ budget true fs.empty rest) := rfl

theorem coherent_record (name : String) {fs : Fields σ τ} (h : fs.Coherent) :
    (record name fs).Coherent := by
  rintro tree x hdecode ⟨depth, budget⟩ rest hreadable hbudget hends
  cases tree with
  | array items =>
    rw [Tree.print_array]
    exact h.readSequence hdecode hreadable hbudget rest
  | object members =>
    cases hreadable with
    | @object depth _ hmembers =>
      have hadmits := Scope.admits_of_object hmembers hbudget
      have hread := h.readMembers (ofTree_record name fs .whole members ▸ hdecode) hadmits
        hadmits.count true rest
      rw [Tree.print_object]
      exact (ofText_record_object name fs depth budget _).trans (by rw [hread]; rfl)
  | _ => cases hdecode

theorem coherent_tuple (expected short : String) {fs : Fields σ τ} (h : fs.Coherent) :
    (tuple expected short fs).Coherent := by
  intro tree x hdecode scope rest hreadable hbudget hends
  cases tree with
  | array items =>
    rw [Tree.print_array]
    exact h.readSequence hdecode hreadable hbudget rest
  | _ => cases hdecode

/-! ### Alternatives -/

/-- A name in quotes is read, whatever follows. -/
theorem ofText_name {known : List (String × α)} {key : String} {x : α}
    (hfind : findName known key = .ok x) (scope : Scope)
    (hbudget : key.toList.length < scope.budget) (rest : List Char) :
    (name known).ofText scope ('"' :: (key.toList.flatMap escapeChar ++ '"' :: rest)) =
      .ok (x, rest) := by
  have hkey := ofText_stringAs "variant identifier" hbudget rest
  simp [name, Decoder.check, hkey, hfind, bind, Except.bind, pure, Except.pure]

theorem coherent_name (known : List (String × α)) : (name known).Coherent :=
  (coherent_stringAs _).check _

theorem coherent_alternatives {known : List (String × Alternative α)}
    (h : ∀ entry ∈ known, entry.2.contents.Coherent) : (alternatives known).Coherent := by
  rintro tree x hdecode ⟨depth, budget⟩ rest hreadable hbudget hends
  cases tree with
  | string key =>
    obtain ⟨a, hfind, halone⟩ := Except.bind_eq_ok hdecode
    have hlength := Tree.length_le_printString key
    rw [Tree.print] at hbudget
    have hkey : key.toList.length < budget := Nat.lt_of_lt_of_le (by omega) hbudget
    have hname := ofText_name hfind ⟨depth, budget⟩ hkey rest
    rw [Tree.print_string]
    simp [alternatives, skipSpace, isSpace, hname, halone, bind, Except.bind, pure, Except.pure]
  | object members =>
    obtain _ | ⟨⟨key, tree⟩, _ | ⟨_, _⟩⟩ := members
    · cases hdecode
    · obtain ⟨a, hfind, hcontents⟩ := Except.bind_eq_ok hdecode
      have hmem := mem_of_findName hfind
      cases hreadable with
      | @object depth _ hmembers =>
        obtain ⟨-, hlengths⟩ := Tree.object_bounds hbudget
        obtain ⟨hkey, hlength⟩ := List.forall_mem_singleton.1 hlengths
        have hname := ofText_name hfind ⟨depth, budget⟩ hkey
          (':' :: (tree.print ++ '\x7d' :: rest))
        have hclose : Ends ('\x7d' :: rest) := .inr (.inr rfl)
        have htext : a.contents.ofText ⟨depth, budget⟩ (tree.print ++ '\x7d' :: rest) =
            .ok (x, '\x7d' :: rest) :=
          h _ hmem hcontents (hmembers _ List.mem_cons_self) (Nat.le_of_lt hlength) hclose
        rw [Tree.print_object]
        simp [alternatives, skipSpace, isSpace, descend, joined, Tree.printMember, printString,
          hname, htext, readColon_colon, bind, Except.bind, pure, Except.pure]
    · cases hdecode
  | _ => cases hdecode

theorem coherent_choice (known : List (String × α)) : (choice known).Coherent := by
  refine coherent_alternatives (List.forall_mem_map.2 fun entry _ ↦ ?_)
  exact coherent_unit.map _

theorem coherent_holding {d : Decoder α} (h : d.Coherent) (f : α → β) :
    (holding d f).contents.Coherent :=
  h.map f

theorem coherent_holdingTuple (label : String) {fs : Fields σ τ} (h : fs.Coherent) (f : τ → β) :
    (holdingTuple label fs f).contents.Coherent := by
  intro tree x hdecode scope rest hreadable hbudget hends
  have htuple : ((tuple label (fs.sized label) fs).map f).ofTree .whole tree = .ok x := by
    cases tree with
    | array items =>
      cases items with
      | nil => cases hdecode
      | cons item items => exact hdecode
    | _ => cases hdecode
  exact (coherent_tuple label (fs.sized label) h).map f htuple hreadable hbudget hends

end Decoder

end CitedChat.Json
