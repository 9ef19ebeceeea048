import CitedChat.Proofs.Json.Filling

/-!
Values that are restored from what is written of them. A decoder restores a value from a tree if it
makes the value of it whether the tree stands by itself or was held back, and whether its keys stand
as they were written or sorted (`Decoder.Restores`). Each way of building a decoder keeps this.
-/

set_option autoImplicit false

namespace CitedChat.Json

/-- The tree can be printed, and the decoder makes the value of it, wherever the tree comes from and
whichever order its keys have. -/
structure Decoder.Restores {α : Type} (d : Decoder α) (depth : Nat) (tree : Tree) (x : α) :
    Prop where
  readable : tree.Readable depth
  written : ∀ origin, d.ofTree origin tree = .ok x
  sorted : ∀ origin, d.ofTree origin tree.sorted = .ok x

namespace Decoder

variable {α β : Type} {depth : Nat}

/-- What is restored from a tree is restored from the sorted tree. -/
theorem Restores.sorted_tree {d : Decoder α} {tree : Tree} {x : α} (h : d.Restores depth tree x) :
    d.Restores depth tree.sorted x where
  readable := h.readable.sorted
  written := h.sorted
  sorted origin := (congrArg (d.ofTree origin) tree.sorted_sorted).trans (h.sorted origin)

/-! ### Scalars -/

theorem restores_string (text : String) : string.Restores depth (.string text) text where
  readable := .string text
  written _ := rfl
  sorted _ := rfl

theorem restores_natural (expected : String) {n : Nat} (hfits : n < Word.limit) :
    (natural expected).Restores depth (.natural n) n where
  readable := .integer (by simp [Word.signedLimit]) (by exact_mod_cast hfits)
  written origin := ofTree_natural expected origin hfits
  sorted origin := ofTree_natural expected origin hfits

theorem restores_signed64 {n : Int}
    (hfits : -(Word.signedLimit : Int) ≤ n ∧ n < Word.signedLimit) :
    signed64.Restores depth (.integer n) n where
  readable := .integer hfits.1 (by have hlimit : Word.limit = 2 * Word.signedLimit := rfl; omega)
  written origin := ofTree_signed64 origin hfits
  sorted origin := ofTree_signed64 origin hfits

theorem Restores.map {d : Decoder α} {tree : Tree} {x : α} (h : d.Restores depth tree x)
    (f : α → β) : (d.map f).Restores depth tree (f x) where
  readable := h.readable
  written origin := by rw [ofTree_map, h.written]; rfl
  sorted origin := by rw [ofTree_map, h.sorted]; rfl

theorem ofTree_optional {d : Decoder α} {origin : Origin} {tree : Tree} (hother : tree ≠ .null) :
    d.optional.ofTree origin tree = (d.ofTree origin tree).map some := by
  cases tree with
  | null => exact absurd rfl hother
  | _ => rfl

theorem Restores.optional {d : Decoder α} {tree : Tree} {x : α} (h : d.Restores depth tree x)
    (hother : tree ≠ .null) : d.optional.Restores depth tree (some x) where
  readable := h.readable
  written origin := by rw [ofTree_optional hother, h.written]; rfl
  sorted origin := by
    have hsorted : tree.sorted ≠ .null := by
      cases tree with
      | null => exact absurd rfl hother
      | _ => exact nofun
    rw [ofTree_optional hsorted, h.sorted]
    rfl

/-! ### Lists -/

theorem Restores.list {d : Decoder α} {write : α → Tree} {xs : List α}
    (h : ∀ x ∈ xs, d.Restores depth (write x) x) :
    d.list.Restores (depth + 1) (.array (xs.map write)) xs where
  readable := .array (List.forall_mem_map.2 fun x hmem ↦ (h x hmem).readable)
  written origin := ofItems_map write fun x hmem ↦ (h x hmem).written origin
  sorted origin := by
    rw [Tree.sorted, Tree.sortedItems_eq, List.map_map]
    exact ofItems_map (Tree.sorted ∘ write) fun x hmem ↦ (h x hmem).sorted origin

end Decoder

/-! ### Records and tuples -/

/-- The value of a field is restored from what was found of it, or taken for a missing one. -/
def Decoder.RestoresField {α : Type} (d : Decoder α) (depth : Nat) : Option Tree → α → Prop
  | some tree, x => d.Restores depth tree x
  | none, x => d.absent = some x

/-- A field that is written only where it has a value. -/
theorem Decoder.restoresField_optional {α : Type} {d : Decoder α} {depth : Nat} {write : α → Tree}
    {value : Option α} (h : ∀ x ∈ value, d.Restores depth (write x) x)
    (hwrite : ∀ x ∈ value, write x ≠ .null) :
    d.optional.RestoresField depth (value.map write) value := by
  cases value with
  | none => rfl
  | some x => exact (h x rfl).optional (hwrite x rfl)

namespace Fields

variable {σ τ : Type} {depth : Nat}

/-- The values of all fields are restored from what stands under their names. -/
def Restores (depth : Nat) (find : String → Option Tree) : {σ τ : Type} → Fields σ τ → τ → Prop
  | _, _, .nil, _ => True
  | _, _, .cons name decoder rest, (x, xs) =>
    decoder.RestoresField depth (find name) x ∧ rest.Restores depth find xs

variable {fs : Fields σ τ} {find : String → Option Tree} {values : τ}

theorem Restores.readable (h : fs.Restores depth find values) {name : String}
    (hname : name ∈ fs.names) {tree : Tree} (hfind : find name = some tree) :
    tree.Readable depth := by
  induction fs with
  | nil => cases hname
  | cons first decoder rest ih =>
    obtain ⟨hfirst, hrest⟩ := h
    obtain rfl | hname := List.mem_cons.1 hname
    · rw [hfind] at hfirst
      exact hfirst.readable
    · exact ih hrest hname

/-- Fields that are restored are filled from an arrangement of the values, such as the sorted
one. -/
theorem Restores.fills (h : fs.Restores depth find values) (origin : Origin)
    (arrange : Tree → Tree)
    (harrange : ∀ {α : Type} {d : Decoder α} {tree : Tree} {x : α}, d.Restores depth tree x →
      d.ofTree origin (arrange tree) = .ok x) :
    fs.Fills origin (fun name ↦ (find name).map arrange) fs.empty values := by
  induction fs with
  | nil => trivial
  | cons name decoder rest ih =>
    obtain ⟨x, xs⟩ := values
    obtain ⟨hfirst, hrest⟩ := h
    refine ⟨?_, ih hrest⟩
    dsimp only
    cases hfind : find name with
    | none =>
      rw [hfind] at hfirst
      exact hfirst
    | some tree =>
      rw [hfind] at hfirst
      exact harrange hfirst

/-- The items of a sequence restore the values of all fields in their order. -/
def RestoresItems (depth : Nat) : {σ τ : Type} → Fields σ τ → List Tree → τ → Prop
  | _, _, .nil, items, _ => items = []
  | _, _, .cons _ _ _, [], _ => False
  | _, _, .cons _ decoder rest, item :: items, (x, xs) =>
    decoder.Restores depth item x ∧ rest.RestoresItems depth items xs

theorem RestoresItems.readable {items : List Tree} (h : fs.RestoresItems depth items values) :
    ∀ item ∈ items, item.Readable depth := by
  induction fs generalizing items with
  | nil =>
    cases h
    exact fun _ hmem ↦ absurd hmem List.not_mem_nil
  | cons name decoder rest ih =>
    cases items with
    | nil => exact h.elim
    | cons item items => exact List.forall_mem_cons.2 ⟨h.1.readable, ih h.2⟩

theorem RestoresItems.ofItems {items : List Tree} (h : fs.RestoresItems depth items values)
    (origin : Origin) (arrange : Tree → Tree)
    (harrange : ∀ {α : Type} {d : Decoder α} {tree : Tree} {x : α}, d.Restores depth tree x →
      d.ofTree origin (arrange tree) = .ok x) (expected : String) (index : Nat) :
    fs.ofItems origin expected index (items.map arrange) = .ok (values, []) := by
  induction fs generalizing items index with
  | nil =>
    cases h
    rfl
  | cons name decoder rest ih =>
    cases items with
    | nil => exact h.elim
    | cons item items =>
      obtain ⟨x, xs⟩ := values
      obtain ⟨hfirst, hrest⟩ := h
      rw [List.map_cons, Fields.ofItems, harrange hfirst]
      simp [bind, Except.bind, ih hrest, pure, Except.pure]

end Fields

namespace Decoder

variable {α β σ τ : Type} {depth : Nat} {fs : Fields σ τ} {values : τ}

theorem restores_record (name : String) (hnames : fs.names.Nodup)
    {members : List (String × Tree)} (hkeys : (members.map Prod.fst).Nodup)
    (hknown : ∀ m ∈ members, m.1 ∈ fs.names)
    (h : fs.Restores depth (Tree.lookup · members) values) :
    (record name fs).Restores (depth + 1) (.object members) values where
  readable := .object fun m hmem ↦ h.readable (hknown m hmem) (Tree.lookup_of_mem hkeys hmem)
  written origin := by
    have hfills := h.fills origin id fun h ↦ h.written origin
    simp only [Option.map_id_fun, id_eq] at hfills
    exact (Fields.ofMembers_eq_ok_iff hnames hkeys fs.empty values).2 hfills
  sorted origin := by
    have hascending : Tree.Ascending (Tree.sortedMembers members []) :=
      Tree.ascending_sortedMembers members .nil
    have hfills := h.fills origin Tree.sorted fun h ↦ h.sorted origin
    have hlookup (name : String) : (Tree.lookup name members).map Tree.sorted =
        Tree.lookup name (Tree.sortedMembers members []) := by
      rw [Tree.lookup_sortedMembers name members .nil, Tree.lookup_nil, Option.or_none]
    simp only [hlookup] at hfills
    exact (Fields.ofMembers_eq_ok_iff hnames hascending.nodup fs.empty values).2 hfills

/-! ### Alternatives -/

theorem restores_alternatives {known : List (String × Alternative α)} {key : String}
    {a : Alternative α} (hknown : findName known key = .ok a) {tree : Tree} {x : α}
    (h : a.contents.Restores depth tree x) :
    (alternatives known).Restores (depth + 1) (.object [(key, tree)]) x where
  readable := .object (List.forall_mem_singleton.2 h.readable)
  written origin := (ofTree_alternatives hknown origin tree).trans (h.written origin)
  sorted origin := (ofTree_alternatives hknown origin tree.sorted).trans (h.sorted origin)

theorem ofTree_holdingTuple (label : String) {origin : Origin} {item : Tree} {items : List Tree}
    (hitems : fs.ofItems origin (fs.sized label) 0 (item :: items) = .ok (values, []))
    (f : τ → β) :
    (holdingTuple label fs f).contents.ofTree origin (.array (item :: items)) = .ok (f values) := by
  cases origin <;> simp [holdingTuple, Fields.ofWholeSequence, hitems, bind, Except.bind, pure,
    Except.pure, Except.map]

theorem restores_holdingTuple (label : String) {item : Tree} {items : List Tree} (values : τ)
    (h : fs.RestoresItems depth (item :: items) values) (f : τ → β) :
    (holdingTuple label fs f).contents.Restores (depth + 1) (.array (item :: items))
      (f values) where
  readable := .array h.readable
  written origin := by
    have hitems := h.ofItems origin id (fun h ↦ h.written origin) (fs.sized label) 0
    rw [List.map_id] at hitems
    exact ofTree_holdingTuple label hitems f
  sorted origin := by
    rw [Tree.sorted, Tree.sortedItems_eq]
    have hitems := h.ofItems origin Tree.sorted (fun h ↦ h.sorted origin) (fs.sized label) 0
    exact ofTree_holdingTuple label hitems f

/-! ### Tags beside contents -/

theorem findName_map (known : List (String × α)) (key : String) (f : α → β) :
    findName (known.map fun (name, x) ↦ (name, f x)) key = (findName known key).map f := by
  have hfind : (known.map fun (name, x) ↦ (name, f x)).find? (·.1 == key) =
      (known.find? (·.1 == key)).map fun (name, x) ↦ (name, f x) := List.find?_map ..
  rw [findName, findName, hfind, List.map_map]
  cases known.find? (·.1 == key) <;> rfl

theorem ofTree_choice {known : List (String × α)} {key : String} {x : α}
    (hknown : findName known key = .ok x) (origin : Origin) :
    (choice known).ofTree origin (.string key) = .ok x := by
  have hname : (choice known).ofTree origin (.string key) =
      findName (known.map fun (name, x) ↦ (name, (⟨.ok x, unit.map fun _ ↦ x⟩ : Alternative α)))
        key >>= Alternative.alone := rfl
  rw [hname, findName_map known key fun x ↦ (⟨.ok x, unit.map fun _ ↦ x⟩ : Alternative α), hknown]
  rfl

namespace Tagged

variable {t : Tagged α} {key : String} {alone : Option α} {d : Decoder α} {content : Tree} {x : α}
  {origin : Origin}

theorem key?_tagKey : t.key? t.tagKey = some .tag :=
  if_pos (beq_self_eq_true _)

theorem key?_contentKey (hkeys : t.tagKey ≠ t.contentKey) :
    t.key? t.contentKey = some .content := by
  rw [key?, if_neg fun hsame ↦ hkeys (eq_of_beq hsame).symm, if_pos (beq_self_eq_true _)]

theorem ofMembers_tagFirst (hkeys : t.tagKey ≠ t.contentKey)
    (hknown : findName t.known key = .ok (alone, d)) (hread : d.ofTree origin content = .ok x) :
    t.ofMembers origin [(t.tagKey, .string key), (t.contentKey, content)] = .ok x := by
  have htag := ofTree_choice hknown origin
  simp [ofMembers, relevant, key?_tagKey, key?_contentKey hkeys, tag, htag, hread, bind,
    Except.bind, ofMembers.last]

theorem ofMembers_contentFirst (hkeys : t.tagKey ≠ t.contentKey)
    (hknown : findName t.known key = .ok (alone, d)) (hread : d.ofTree .heldBack content = .ok x) :
    t.ofMembers origin [(t.contentKey, content), (t.tagKey, .string key)] = .ok x := by
  have htag := ofTree_choice hknown origin
  simp [ofMembers, relevant, key?_tagKey, key?_contentKey hkeys, tag, htag, hread, bind,
    Except.bind, ofMembers.last]

/-- A tag and contents, in either order. -/
theorem restores_contents (hkeys : t.tagKey ≠ t.contentKey)
    (hknown : findName t.known key = .ok (alone, d)) {depth : Nat}
    (h : d.Restores depth content x) :
    t.decoder.Restores (depth + 1)
      (.object [(t.tagKey, .string key), (t.contentKey, content)]) x where
  readable := .object (List.forall_mem_cons.2
    ⟨.string key, List.forall_mem_singleton.2 h.readable⟩)
  written origin := ofMembers_tagFirst hkeys hknown (h.written origin)
  sorted origin := by
    have hinsert : (Tree.object [(t.tagKey, .string key), (t.contentKey, content)]).sorted =
        .object (Tree.insertMember t.contentKey content.sorted [(t.tagKey, .string key)]) := rfl
    rw [hinsert, Tree.insertMember]
    split
    · exact ofMembers_contentFirst hkeys hknown (h.sorted .heldBack)
    · rw [if_neg fun hsame ↦ hkeys (eq_of_beq hsame).symm]
      exact ofMembers_tagFirst hkeys hknown (h.sorted origin)

/-- A tag alone. -/
theorem restores_alone (hknown : findName t.known key = .ok (some x, d)) {depth : Nat} :
    t.decoder.Restores (depth + 1) (.object [(t.tagKey, .string key)]) x := by
  have hread (origin : Origin) : t.ofMembers origin [(t.tagKey, .string key)] = .ok x := by
    have htag := ofTree_choice hknown origin
    simp [ofMembers, relevant, key?_tagKey, tag, htag, bind, Except.bind, lone]
  exact ⟨.object (List.forall_mem_singleton.2 (.string key)), hread, hread⟩

end Tagged

/-! ### Tags among the fields -/

namespace SelfTagged

variable {t : SelfTagged α} {key : String} {d : Decoder α} {origin : Origin}

/-- Where the tag was met, all other members are held back. -/
theorem splitMembers_some {members : List (String × Tree)} (h : t.tagKey ∉ members.map Prod.fst)
    (held : List (String × Tree)) :
    t.splitMembers origin (some d) held members = .ok (d, .object (held.reverse ++ members)) := by
  induction members generalizing held with
  | nil => rw [splitMembers, List.append_nil]
  | cons m members ih =>
    obtain ⟨hother, hrest⟩ := not_or.1 (mt List.mem_cons.2 h)
    rw [splitMembers, if_neg fun hsame ↦ hother (eq_of_beq hsame).symm, ih hrest]
    simp

/-- The tag is split off wherever it stands. -/
theorem splitMembers_none {members : List (String × Tree)} (hkeys : (members.map Prod.fst).Nodup)
    (htag : (t.tagKey, .string key) ∈ members) (hknown : findName t.known key = .ok d)
    (held : List (String × Tree)) :
    t.splitMembers origin none held members =
      .ok (d, .object (held.reverse ++ members.filter fun m ↦ m.1 ≠ t.tagKey)) := by
  induction members generalizing held with
  | nil => cases htag
  | cons m members ih =>
    obtain ⟨hkey, hrest⟩ := List.nodup_cons.1 hkeys
    rw [splitMembers]
    obtain rfl | htag := List.mem_cons.1 htag
    · have hname : t.tag.ofTree origin (.string key) = .ok d := by
        rw [tag, name, ofTree_check (x := key) rfl, hknown]
      have hothers : members.filter (fun m ↦ m.1 ≠ t.tagKey) = members :=
        List.filter_eq_self.2 fun m hmem ↦
          decide_eq_true (ne_of_mem_of_not_mem (List.mem_map_of_mem hmem) hkey)
      rw [List.filter_cons_of_neg (by simp), hothers, if_pos (beq_self_eq_true _),
        if_neg (by simp), hname]
      simp [bind, Except.bind, splitMembers_some hkey]
    · have hother : m.1 ≠ t.tagKey :=
        (ne_of_mem_of_not_mem (List.mem_map_of_mem (f := Prod.fst) htag) hkey).symm
      rw [if_neg fun hsame ↦ hother (eq_of_beq hsame), ih hrest htag]
      simp [hother]

variable {σ τ : Type} {fs : Fields σ τ} {values : τ} {f : τ → α} {label : String}

/-- The fields are found among the members beside the tag. -/
theorem ofTree_fields (hnames : fs.names.Nodup) (htagName : t.tagKey ∉ fs.names)
    (hknown : findName t.known key = .ok ((record label fs).map f))
    {members : List (String × Tree)} (hkeys : (members.map Prod.fst).Nodup)
    (htag : (t.tagKey, .string key) ∈ members)
    (hfills : fs.Fills .heldBack (Tree.lookup · members) fs.empty values) :
    t.decoder.ofTree origin (.object members) = .ok (f values) := by
  have hparts : t.parts origin (.object members) =
      .ok ((record label fs).map f, .object (members.filter fun m ↦ m.1 ≠ t.tagKey)) :=
    splitMembers_none hkeys htag hknown []
  have hothers : ((members.filter fun m ↦ m.1 ≠ t.tagKey).map Prod.fst).Nodup :=
    hkeys.sublist (List.filter_sublist.map Prod.fst)
  have hfound : fs.Fills .heldBack (Tree.lookup · (members.filter fun m ↦ m.1 ≠ t.tagKey))
      fs.empty values :=
    (Fields.fills_congr (fun name hmem ↦
      (Tree.lookup_filter (ne_of_mem_of_not_mem hmem htagName) members).symm) _ _).1 hfills
  have hrecord := (Fields.ofMembers_eq_ok_iff hnames hothers fs.empty values).2 hfound
  simp only [SelfTagged.decoder, hparts, bind, Except.bind]
  rw [ofTree_map, ofTree_record, hrecord]
  rfl

/-- A tag among fields, wherever it stands. -/
theorem restores_fields (values : τ) (hnames : fs.names.Nodup) (htagName : t.tagKey ∉ fs.names)
    (hknown : findName t.known key = .ok ((record label fs).map f))
    {fields : List (String × Tree)}
    (hkeys : (((t.tagKey, Tree.string key) :: fields).map Prod.fst).Nodup)
    {depth : Nat} (hfields : ∀ m ∈ fields, m.1 ∈ fs.names)
    (h : fs.Restores depth (Tree.lookup · ((t.tagKey, .string key) :: fields)) values) :
    t.decoder.Restores (depth + 1) (.object ((t.tagKey, .string key) :: fields)) (f values) where
  readable := by
    refine .object (List.forall_mem_cons.2 ⟨.string key, fun m hmem ↦ ?_⟩)
    have hfound : Tree.lookup m.1 ((t.tagKey, .string key) :: fields) = some m.2 :=
      Tree.lookup_of_mem hkeys (List.mem_cons_of_mem _ hmem)
    exact h.readable (hfields m hmem) hfound
  written origin := by
    have hfills := h.fills .heldBack id fun h ↦ h.written .heldBack
    simp only [Option.map_id_fun, id_eq] at hfills
    exact ofTree_fields hnames htagName hknown hkeys List.mem_cons_self hfills
  sorted origin := by
    have hascending : Tree.Ascending (Tree.sortedMembers ((t.tagKey, .string key) :: fields) []) :=
      Tree.ascending_sortedMembers _ .nil
    have hlookup (name : String) :
        Tree.lookup name (Tree.sortedMembers ((t.tagKey, .string key) :: fields) []) =
          (Tree.lookup name ((t.tagKey, .string key) :: fields)).map Tree.sorted := by
      rw [Tree.lookup_sortedMembers name _ .nil, Tree.lookup_nil, Option.or_none]
    have hfills := h.fills .heldBack Tree.sorted fun h ↦ h.sorted .heldBack
    simp only [← hlookup] at hfills
    refine ofTree_fields hnames htagName hknown hascending.nodup (Tree.mem_of_lookup ?_) hfills
    rw [hlookup, Tree.lookup_cons, Tree.lookup_eq_none (List.nodup_cons.1 hkeys).1, if_pos rfl]
    rfl

end SelfTagged

end Decoder

end CitedChat.Json
