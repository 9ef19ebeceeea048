import CitedChat.Proofs.Json.Decoding

/-!
What decoders come to. A decoder yields values of one kind, from whatever text or tree it accepts
(`Decoder.Yields`), if the decoders that it is built of do.
-/

set_option autoImplicit false

namespace CitedChat.Json

/-! ### Readers -/

theorem closing_eq_ok {α : Type} {close : List Char → List Char × Option Flaw}
    {result : Except Fault (α × List Char)} {x : α} {rest : List Char}
    (h : closing close result = .ok (x, rest)) : ∃ inner, result = .ok (x, inner) := by
  unfold closing at h
  split at h
  · next y inner =>
    split at h
    · cases h
      exact ⟨inner, rfl⟩
    · cases h
  · cases h
  · cases h

theorem descend_eq_ok {α : Type} {scope : Scope} {cs : List Char} {inner : Scope → Except Fault α}
    {x : α} (h : descend scope cs inner = .ok x) : ∃ within, inner within = .ok x := by
  unfold descend at h
  split at h
  · cases h
  · exact ⟨_, h⟩

theorem refuse_ne_ok {α : Type} (scope : Scope) (expected : String) (cs : List Char) (x : α) :
    refuse scope expected cs ≠ .ok x := by
  intro h
  unfold refuse at h
  split at h
  · cases h
  · split at h
    · obtain ⟨_, -, h⟩ := Except.bind_eq_ok h
      cases h
    · obtain ⟨_, -, h⟩ := Except.bind_eq_ok h
      cases h
    · obtain ⟨_, -, h⟩ := Except.bind_eq_ok h
      cases h
    · obtain ⟨_, -, h⟩ := Except.bind_eq_ok h
      cases h
    · cases h
    · cases h
    · split at h
      · obtain ⟨_, -, h⟩ := Except.bind_eq_ok h
        cases h
      · cases h

/-- Items are of one kind if each of them is. -/
theorem forall_mem_of_readItems {α : Type} {P : α → Prop} {item : Reader α}
    (hitem : ∀ ⦃cs x rest⦄, item cs = .ok (x, rest) → P x) {budget : Nat} {first : Bool}
    {done xs : List α} {cs rest : List Char} (hdone : ∀ x ∈ done, P x)
    (hread : readItems item budget first done cs = .ok (xs, rest)) : ∀ x ∈ xs, P x := by
  induction budget generalizing first done cs with
  | zero => cases hread
  | succ budget ih =>
    rw [readItems] at hread
    obtain ⟨⟨more, left⟩, -, hread⟩ := Except.bind_eq_ok hread
    cases more with
    | false =>
      cases hread
      simpa using hdone
    | true =>
      obtain ⟨⟨x, left⟩, hfirst, hread⟩ := Except.bind_eq_ok hread
      exact ih (List.forall_mem_cons.2 ⟨hitem hfirst, hdone⟩) hread

namespace Decoder

variable {α β : Type} {P : α → Prop} {Q : β → Prop}

/-- Whatever the decoder accepts, it comes to a value of one kind. -/
structure Yields (d : Decoder α) (P : α → Prop) : Prop where
  ofText : ∀ ⦃scope cs x rest⦄, d.ofText scope cs = .ok (x, rest) → P x
  ofTree : ∀ ⦃origin tree x⦄, d.ofTree origin tree = .ok x → P x
  absent : ∀ x ∈ d.absent, P x

theorem yields_any (d : Decoder α) : d.Yields fun _ ↦ True :=
  ⟨fun _ _ _ _ _ ↦ trivial, fun _ _ _ _ ↦ trivial, fun _ _ ↦ trivial⟩

/-! ### Scalars -/

theorem Yields.map {d : Decoder α} (h : d.Yields P) {f : α → β} (hf : ∀ x, P x → Q (f x)) :
    (d.map f).Yields Q where
  ofText scope cs y rest hread := by
    obtain ⟨⟨x, left⟩, hinner, heq⟩ := Except.map_eq_ok hread
    cases heq
    exact hf x (h.ofText hinner)
  ofTree origin tree y hread := by
    obtain ⟨x, hinner, rfl⟩ := Except.map_eq_ok hread
    exact hf x (h.ofTree hinner)
  absent y hmem := by
    obtain ⟨x, habsent, rfl⟩ := Option.map_eq_some_iff.1 hmem
    exact hf x (h.absent x habsent)

theorem yields_check {d : Decoder α} {f : α → Except Mismatch β} (hf : ∀ x y, f x = .ok y → Q y) :
    (d.check f).Yields Q where
  ofText scope cs y rest hread := by
    obtain ⟨⟨x, left⟩, -, hread⟩ := Except.bind_eq_ok hread
    cases hcheck : f x with
    | error mismatch =>
      simp only [hcheck] at hread
      cases hread
    | ok z =>
      simp only [hcheck] at hread
      cases hread
      exact hf x _ hcheck
  ofTree origin tree y hread := by
    obtain ⟨x, -, hcheck⟩ := Except.bind_eq_ok hread
    exact hf x y hcheck
  absent y hmem := nomatch hmem

theorem yields_natural (expected : String) : (natural expected).Yields (· < Word.limit) := by
  refine yields_check fun x y hcheck ↦ ?_
  split at hcheck
  · next hrange =>
    cases hcheck
    omega
  · cases hcheck

theorem yields_signed64 :
    signed64.Yields fun n ↦ -(Word.signedLimit : Int) ≤ n ∧ n < Word.signedLimit := by
  refine yields_check fun x y hcheck ↦ ?_
  split at hcheck
  · next hrange =>
    cases hcheck
    exact hrange
  · cases hcheck

/-- Items that are decoded are decoded one by one. -/
theorem exists_of_ofItems {d : Decoder α} {origin : Origin} {items : List Tree} {xs : List α}
    (hdecode : d.ofItems origin items = .ok xs) :
    ∃ entries : List (Tree × α), items = entries.map Prod.fst ∧ xs = entries.map Prod.snd ∧
      ∀ entry ∈ entries, d.ofTree origin entry.1 = .ok entry.2 := by
  induction items generalizing xs with
  | nil =>
    obtain rfl : [] = xs := Except.ok.inj hdecode
    exact ⟨[], rfl, rfl, nofun⟩
  | cons tree items ih =>
    obtain ⟨x, hread, hdecode⟩ := Except.bind_eq_ok hdecode
    obtain ⟨rest, hrest, hdecode⟩ := Except.bind_eq_ok hdecode
    obtain rfl : x :: rest = xs := Except.ok.inj hdecode
    obtain ⟨entries, rfl, rfl, hentries⟩ := ih hrest
    exact ⟨(tree, x) :: entries, rfl, rfl, List.forall_mem_cons.2 ⟨hread, hentries⟩⟩

theorem Yields.list {d : Decoder α} (h : d.Yields P) : d.list.Yields fun xs ↦ ∀ x ∈ xs, P x where
  ofText scope cs xs rest hread := by
    rw [Decoder.list] at hread
    dsimp only at hread
    split at hread
    · obtain ⟨within, hread⟩ := descend_eq_ok hread
      obtain ⟨inner, hread⟩ := closing_eq_ok hread
      exact forall_mem_of_readItems (fun _ _ _ hitem ↦ h.ofText hitem)
        (fun _ hmem ↦ absurd hmem List.not_mem_nil) hread
    · exact absurd hread (refuse_ne_ok _ _ _ _)
  ofTree origin tree xs hread := by
    cases tree with
    | array items =>
      obtain ⟨entries, rfl, rfl, hentries⟩ := exists_of_ofItems (show d.ofItems _ _ = _ from hread)
      exact List.forall_mem_map.2 fun entry hmem ↦ h.ofTree (hentries entry hmem)
    | _ => cases hread
  absent xs hmem := nomatch hmem

end Decoder

/-! ### Records -/

namespace Fields

variable {σ τ : Type}

/-- The decoders of the fields yield values of these kinds: the one for what is filled of the slots,
the other for all values together. -/
inductive Yields : {σ τ : Type} → Fields σ τ → (σ → Prop) → (τ → Prop) → Prop where
  | nil : Yields .nil (fun _ ↦ True) (fun _ ↦ True)
  | cons {α σ τ : Type} {name : String} {decoder : Decoder α} {rest : Fields σ τ}
      {P : α → Prop} {S : σ → Prop} {Q : τ → Prop}
      (hdecoder : decoder.Yields P) (hrest : rest.Yields S Q) :
      Yields (.cons name decoder rest) (fun slots ↦ (∀ x ∈ slots.1, P x) ∧ S slots.2)
        (fun values ↦ P values.1 ∧ Q values.2)

variable {fs : Fields σ τ} {S : σ → Prop} {Q : τ → Prop}

theorem Yields.empty (h : fs.Yields S Q) : S fs.empty := by
  induction h with
  | nil => trivial
  | cons hdecoder hrest ih => exact ⟨nofun, ih⟩

theorem Yields.entry (h : fs.Yields S Q) {slots : σ} (hslots : S slots) {key : String} {e : Entry σ}
    (hentry : fs.entry key slots = some e) : e.fill.Yields S := by
  induction h with
  | nil => cases hentry
  | cons hdecoder hrest ih =>
    obtain ⟨slot, slots⟩ := slots
    obtain ⟨hslot, hslots⟩ := hslots
    rw [Fields.entry] at hentry
    split at hentry
    · cases hentry
      refine Decoder.Yields.map hdecoder (f := fun x ↦ (some x, slots)) fun x hx ↦ ⟨?_, hslots⟩
      rintro _ ⟨⟩
      exact hx
    · obtain ⟨inner, hinner, rfl⟩ := Option.map_eq_some_iff.1 hentry
      exact (ih hslots hinner).map fun _ hinner ↦ ⟨hslot, hinner⟩

theorem Yields.finish (h : fs.Yields S Q) {slots : σ} (hslots : S slots) {values : τ}
    (hfinish : fs.finish slots = .ok values) : Q values := by
  induction h with
  | nil => trivial
  | cons hdecoder hrest ih =>
    obtain ⟨slot, slots⟩ := slots
    obtain ⟨hslot, hslots⟩ := hslots
    rw [Fields.finish] at hfinish
    split at hfinish
    · next x hsome =>
      obtain ⟨_, ⟨⟩, hfinish⟩ := Except.bind_eq_ok hfinish
      obtain ⟨xs, hmore, hfinish⟩ := Except.bind_eq_ok hfinish
      cases hfinish
      refine ⟨?_, ih hslots hmore⟩
      cases slot with
      | some y =>
        cases hsome
        exact hslot x rfl
      | none => exact hdecoder.absent x hsome
    · cases hfinish

theorem Yields.ofMembers (h : fs.Yields S Q) {origin : Origin} {members : List (String × Tree)}
    {slots : σ} (hslots : S slots) {values : τ}
    (hdecode : fs.ofMembers origin slots members = .ok values) : Q values := by
  induction members generalizing slots with
  | nil => exact h.finish hslots hdecode
  | cons m members ih =>
    rw [Fields.ofMembers] at hdecode
    split at hdecode
    · exact ih hslots hdecode
    · next e hentry =>
      split at hdecode
      · cases hdecode
      · obtain ⟨filled, hfill, hdecode⟩ := Except.bind_eq_ok hdecode
        exact ih ((h.entry hslots hentry).ofTree hfill) hdecode

theorem Yields.readMembers (h : fs.Yields S Q) {scope : Scope} {budget : Nat} {first : Bool}
    {slots : σ} (hslots : S slots) {cs rest : List Char} {values : τ}
    (hread : fs.readMembers scope budget first slots cs = .ok (values, rest)) : Q values := by
  induction budget generalizing first slots cs with
  | zero => cases hread
  | succ budget ih =>
    rw [Fields.readMembers] at hread
    obtain ⟨⟨more, left⟩, -, hread⟩ := Except.bind_eq_ok hread
    cases more with
    | false =>
      dsimp only at hread
      split at hread
      · next hfinish =>
        cases hread
        exact h.finish hslots hfinish
      · cases hread
    | true =>
      obtain ⟨⟨key, left⟩, -, hread⟩ := Except.bind_eq_ok hread
      dsimp only at hread
      split at hread
      · obtain ⟨_, -, hread⟩ := Except.bind_eq_ok hread
        obtain ⟨_, -, hread⟩ := Except.bind_eq_ok hread
        exact ih hslots hread
      · next e hentry =>
        split at hread
        · cases hread
        · obtain ⟨_, -, hread⟩ := Except.bind_eq_ok hread
          obtain ⟨⟨filled, left⟩, hfill, hread⟩ := Except.bind_eq_ok hread
          exact ih ((h.entry hslots hentry).ofText hfill) hread

theorem Yields.ofItems (h : fs.Yields S Q) {origin : Origin} {expected : String} {index : Nat}
    {items left : List Tree} {values : τ}
    (hdecode : fs.ofItems origin expected index items = .ok (values, left)) : Q values := by
  induction h generalizing index items with
  | nil => trivial
  | cons hdecoder hrest ih =>
    cases items with
    | nil =>
      rw [Fields.ofItems] at hdecode
      split at hdecode
      · cases hdecode
      · next x habsent =>
        obtain ⟨⟨xs, left⟩, hmore, hdecode⟩ := Except.bind_eq_ok hdecode
        cases hdecode
        exact ⟨hdecoder.absent x habsent, ih hmore⟩
    | cons item items =>
      obtain ⟨x, hfirst, hdecode⟩ := Except.bind_eq_ok hdecode
      obtain ⟨⟨xs, left⟩, hmore, hdecode⟩ := Except.bind_eq_ok hdecode
      cases hdecode
      exact ⟨hdecoder.ofTree hfirst, ih hmore⟩

theorem Yields.readItems (h : fs.Yields S Q) {scope : Scope} {expected : String} {index : Nat}
    {first : Bool} {cs rest : List Char} {values : τ}
    (hread : fs.readItems scope expected index first cs = .ok (values, rest)) : Q values := by
  induction h generalizing index first cs rest with
  | nil => trivial
  | cons hdecoder hrest ih =>
    rw [Fields.readItems] at hread
    obtain ⟨⟨more, left⟩, -, hread⟩ := Except.bind_eq_ok hread
    cases more with
    | true =>
      obtain ⟨⟨x, left⟩, hfirst, hread⟩ := Except.bind_eq_ok hread
      obtain ⟨⟨xs, left⟩, hmore, hread⟩ := Except.bind_eq_ok hread
      cases hread
      exact ⟨hdecoder.ofText hfirst, ih hmore⟩
    | false =>
      dsimp only at hread
      split at hread
      · cases hread
      · next x habsent =>
        obtain ⟨⟨xs, left⟩, hmore, hread⟩ := Except.bind_eq_ok hread
        cases hread
        exact ⟨hdecoder.absent x habsent, ih hmore⟩

theorem Yields.ofWholeSequence (h : fs.Yields S Q) {origin : Origin} {expected : String}
    {items : List Tree} {values : τ}
    (hdecode : fs.ofWholeSequence origin expected items = .ok values) : Q values := by
  obtain ⟨⟨found, left⟩, hitems, hdecode⟩ := Except.bind_eq_ok hdecode
  cases left with
  | nil =>
    cases hdecode
    exact h.ofItems hitems
  | cons item left => cases origin <;> cases hdecode

theorem Yields.readSequence (h : fs.Yields S Q) {scope : Scope} {expected : String}
    {cs rest : List Char} {values : τ}
    (hread : fs.readSequence scope expected cs = .ok (values, rest)) : Q values := by
  obtain ⟨within, hread⟩ := descend_eq_ok hread
  obtain ⟨inner, hread⟩ := closing_eq_ok hread
  exact h.readItems hread

end Fields

namespace Decoder

variable {α β σ τ : Type} {P : α → Prop} {R : β → Prop} {S : σ → Prop} {Q : τ → Prop}

theorem yields_record (name : String) {fs : Fields σ τ} (h : fs.Yields S Q) :
    (record name fs).Yields Q where
  ofText scope cs values rest hread := by
    simp only [record] at hread
    split at hread
    · exact h.readSequence hread
    · obtain ⟨within, hread⟩ := descend_eq_ok hread
      obtain ⟨inner, hread⟩ := closing_eq_ok hread
      exact h.readMembers h.empty hread
    · exact absurd hread (refuse_ne_ok _ _ _ _)
  ofTree origin tree values hread := by
    cases tree with
    | array items => exact h.ofWholeSequence hread
    | object members => exact h.ofMembers h.empty hread
    | _ => cases hread
  absent values hmem := nomatch hmem

theorem yields_tuple (expected short : String) {fs : Fields σ τ} (h : fs.Yields S Q) :
    (tuple expected short fs).Yields Q where
  ofText scope cs values rest hread := by
    simp only [tuple] at hread
    split at hread
    · exact h.readSequence hread
    · exact absurd hread (refuse_ne_ok _ _ _ _)
  ofTree origin tree values hread := by
    cases tree with
    | array items => exact h.ofWholeSequence hread
    | _ => cases hread
  absent values hmem := nomatch hmem

/-! ### Alternatives -/

theorem mem_of_findName {known : List (String × α)} {name : String} {x : α}
    (hfind : findName known name = .ok x) : (name, x) ∈ known := by
  rw [findName] at hfind
  split at hfind
  · next key y hsome =>
    obtain rfl : y = x := Except.ok.inj hfind
    obtain rfl : key = name := eq_of_beq (List.find?_some hsome :)
    exact List.mem_of_find?_eq_some hsome
  · cases hfind

/-- A name stands for what is known by it. -/
theorem yields_name (known : List (String × α)) :
    (name known).Yields fun x ↦ ∃ key, (key, x) ∈ known :=
  yields_check fun name _ hfind ↦ ⟨name, mem_of_findName hfind⟩

/-- Whether it comes alone or with contents, an alternative yields values of one kind. -/
structure Alternative.Yields (a : Alternative α) (P : α → Prop) : Prop where
  alone : ∀ ⦃x⦄, a.alone = .ok x → P x
  contents : a.contents.Yields P

theorem yields_alternatives {known : List (String × Alternative α)}
    (h : ∀ entry ∈ known, entry.2.Yields P) : (alternatives known).Yields P where
  ofText scope cs x rest hread := by
    simp only [alternatives] at hread
    split at hread
    · cases hread
    · obtain ⟨within, hread⟩ := descend_eq_ok hread
      obtain ⟨⟨a, left⟩, hname, hread⟩ := Except.bind_eq_ok hread
      obtain ⟨key, hmem⟩ := (yields_name known).ofText hname
      obtain ⟨_, -, hread⟩ := Except.bind_eq_ok hread
      obtain ⟨⟨y, left⟩, hcontents, hread⟩ := Except.bind_eq_ok hread
      dsimp only at hread
      split at hread
      · cases hread
        exact (h _ hmem).contents.ofText hcontents
      · cases hread
      · cases hread
    · obtain ⟨⟨a, left⟩, hname, hread⟩ := Except.bind_eq_ok hread
      obtain ⟨key, hmem⟩ := (yields_name known).ofText hname
      dsimp only at hread
      split at hread
      · next y halone =>
        cases hread
        exact (h _ hmem).alone halone
      · cases hread
    · cases hread
  ofTree origin tree x hread := by
    cases tree with
    | string key =>
      obtain ⟨a, hfind, halone⟩ := Except.bind_eq_ok hread
      have hmem := mem_of_findName hfind
      exact (h _ hmem).alone halone
    | object members =>
      match members with
      | [] => cases hread
      | [(key, tree)] =>
        obtain ⟨a, hfind, hcontents⟩ := Except.bind_eq_ok hread
        have hmem := mem_of_findName hfind
        exact (h _ hmem).contents.ofTree hcontents
      | _ :: _ :: _ => cases hread
    | _ => cases hread
  absent x hmem := nomatch hmem

/-- A choice is made among what is known. -/
theorem yields_choice (known : List (String × α)) :
    (choice known).Yields fun x ↦ ∃ key, (key, x) ∈ known := by
  refine yields_alternatives (List.forall_mem_map.2 fun entry hmem ↦ ⟨?_, ?_⟩)
  · rintro _ ⟨⟩
    exact ⟨entry.1, hmem⟩
  · exact (yields_any unit).map (f := fun _ ↦ entry.2) fun _ _ ↦ ⟨entry.1, hmem⟩

theorem yields_holding {d : Decoder α} (h : d.Yields P) {f : α → β} (hf : ∀ x, P x → R (f x)) :
    (holding d f).Yields R where
  alone := nofun
  contents := h.map hf

theorem yields_holdingTuple (label : String) {fs : Fields σ τ} (h : fs.Yields S Q) {f : τ → β}
    (hf : ∀ values, Q values → R (f values)) : (holdingTuple label fs f).Yields R where
  alone := nofun
  contents := {
    ofText := ((yields_tuple label (fs.sized label) h).map hf).ofText
    ofTree := by
      intro origin tree x hread
      have hitems {items : List Tree} (hread : (fs.ofWholeSequence origin (fs.sized label)
          items).map f = .ok x) : R x := by
        obtain ⟨values, hsequence, rfl⟩ := Except.map_eq_ok hread
        exact hf values (h.ofWholeSequence hsequence)
      simp only [holdingTuple] at hread
      split at hread
      · cases hread
      · exact hitems hread
      · cases hread
    absent := fun x hmem ↦ nomatch hmem }

/-! ### Tagged values -/

namespace Tagged

/-- An alternative of a tagged value yields values of one kind, with or without contents. -/
def YieldsEntry (entry : Option α × Decoder α) (P : α → Prop) : Prop :=
  (∀ x ∈ entry.1, P x) ∧ entry.2.Yields P

variable {t : Tagged α}

theorem yields_tag (h : ∀ entry ∈ t.known, YieldsEntry entry.2 P) :
    t.tag.Yields (YieldsEntry · P) where
  ofText _ _ _ _ hread :=
    have ⟨_, hmem⟩ := (yields_choice t.known).ofText hread
    h _ hmem
  ofTree _ _ _ hread :=
    have ⟨_, hmem⟩ := (yields_choice t.known).ofTree hread
    h _ hmem
  absent _ hmem := nomatch hmem

theorem finish_eq_ok {scope : Scope} {x y : α} {cs rest : List Char}
    (h : t.finish scope x cs = .ok (y, rest)) : x = y := by
  obtain ⟨⟨found, left⟩, -, h⟩ := Except.bind_eq_ok h
  cases found with
  | none =>
    cases h
    rfl
  | some key => cases h

/-- Nothing that matters is left behind the contents. -/
theorem last_eq_ok {x y : α} {others : List (Key × Tree)}
    (h : ofMembers.last t x others = .ok y) : x = y ∧ others = [] := by
  cases others with
  | nil => exact ⟨Except.ok.inj h, rfl⟩
  | cons m others => cases h

theorem lone_eq_ok {entry : Option α × Decoder α} {x : α} (h : t.lone entry = .ok x) :
    entry.1 = some x := by
  unfold lone at h
  split at h
  · next hsome =>
    cases h
    exact hsome
  · cases h

theorem readMap_yields (h : ∀ entry ∈ t.known, YieldsEntry entry.2 P) {scope : Scope}
    {cs rest : List Char} {x : α} (hread : t.readMap scope cs = .ok (x, rest)) : P x := by
  unfold readMap at hread
  obtain ⟨⟨found, left⟩, -, hread⟩ := Except.bind_eq_ok hread
  match found with
  | none => cases hread
  | some .tag =>
    obtain ⟨_, -, hread⟩ := Except.bind_eq_ok hread
    obtain ⟨⟨entry, left⟩, htag, hread⟩ := Except.bind_eq_ok hread
    have hentry := (yields_tag h).ofText htag
    obtain ⟨⟨found, left⟩, -, hread⟩ := Except.bind_eq_ok hread
    match found with
    | some .tag => cases hread
    | some .content =>
      obtain ⟨_, -, hread⟩ := Except.bind_eq_ok hread
      obtain ⟨⟨y, left⟩, hcontents, hread⟩ := Except.bind_eq_ok hread
      obtain rfl := finish_eq_ok hread
      exact hentry.2.ofText hcontents
    | none =>
      dsimp only at hread
      split at hread
      · next y hlone =>
        cases hread
        exact hentry.1 x (lone_eq_ok hlone)
      · cases hread
  | some .content =>
    obtain ⟨_, -, hread⟩ := Except.bind_eq_ok hread
    obtain ⟨⟨tree, left⟩, -, hread⟩ := Except.bind_eq_ok hread
    obtain ⟨⟨found, left⟩, -, hread⟩ := Except.bind_eq_ok hread
    match found with
    | some .content => cases hread
    | none => cases hread
    | some .tag =>
      obtain ⟨_, -, hread⟩ := Except.bind_eq_ok hread
      obtain ⟨⟨entry, left⟩, htag, hread⟩ := Except.bind_eq_ok hread
      dsimp only at hread
      split at hread
      · next y hcontents =>
        obtain rfl := finish_eq_ok hread
        exact ((yields_tag h).ofText htag).2.ofTree hcontents
      · cases hread

theorem readSequence_yields (h : ∀ entry ∈ t.known, YieldsEntry entry.2 P) {scope : Scope}
    {cs rest : List Char} {x : α} (hread : t.readSequence scope cs = .ok (x, rest)) : P x := by
  obtain ⟨⟨more, left⟩, -, hread⟩ := Except.bind_eq_ok hread
  cases more with
  | false => cases hread
  | true =>
    obtain ⟨⟨entry, left⟩, htag, hread⟩ := Except.bind_eq_ok hread
    obtain ⟨⟨more, left⟩, -, hread⟩ := Except.bind_eq_ok hread
    cases more with
    | false => cases hread
    | true => exact ((yields_tag h).ofText htag).2.ofText hread

theorem ofMembers_yields (h : ∀ entry ∈ t.known, YieldsEntry entry.2 P) {origin : Origin}
    {members : List (String × Tree)} {x : α} (hread : t.ofMembers origin members = .ok x) :
    P x := by
  unfold ofMembers at hread
  split at hread
  · cases hread
  · obtain ⟨entry, htag, hread⟩ := Except.bind_eq_ok hread
    have hentry := (yields_tag h).ofTree htag
    split at hread
    · exact hentry.1 x (lone_eq_ok hread)
    · cases hread
    · obtain ⟨y, hcontents, hread⟩ := Except.bind_eq_ok hread
      obtain ⟨rfl, -⟩ := last_eq_ok hread
      exact hentry.2.ofTree hcontents
  · split at hread
    · cases hread
    · cases hread
    · obtain ⟨entry, htag, hread⟩ := Except.bind_eq_ok hread
      obtain ⟨y, hcontents, hread⟩ := Except.bind_eq_ok hread
      obtain ⟨rfl, -⟩ := last_eq_ok hread
      exact ((yields_tag h).ofTree htag).2.ofTree hcontents

theorem ofSequence_yields (h : ∀ entry ∈ t.known, YieldsEntry entry.2 P) {origin : Origin}
    {items : List Tree} {x : α} (hread : t.ofSequence origin items = .ok x) : P x := by
  unfold ofSequence at hread
  split at hread
  · cases hread
  · obtain ⟨entry, htag, hread⟩ := Except.bind_eq_ok hread
    split at hread
    · cases hread
    · obtain ⟨y, hcontents, hread⟩ := Except.bind_eq_ok hread
      have hyields := ((yields_tag h).ofTree htag).2.ofTree hcontents
      split at hread
      · cases hread
        exact hyields
      · cases origin <;> cases hread

theorem yields_decoder (h : ∀ entry ∈ t.known, YieldsEntry entry.2 P) : t.decoder.Yields P where
  ofText scope cs x rest hread := by
    simp only [Tagged.decoder] at hread
    split at hread
    · obtain ⟨within, hread⟩ := descend_eq_ok hread
      obtain ⟨inner, hread⟩ := closing_eq_ok hread
      exact readSequence_yields h hread
    · obtain ⟨within, hread⟩ := descend_eq_ok hread
      obtain ⟨inner, hread⟩ := closing_eq_ok hread
      exact readMap_yields h hread
    · exact absurd hread (refuse_ne_ok _ _ _ _)
  ofTree origin tree x hread := by
    cases tree with
    | array items => exact ofSequence_yields h hread
    | object members => exact ofMembers_yields h hread
    | _ => cases hread
  absent x hmem := nomatch hmem

end Tagged

namespace SelfTagged

variable {t : SelfTagged α}

/-- What the tag names is known. -/
theorem exists_mem_of_readMap {scope : Scope} {budget : Nat} {first : Bool}
    {found : Option (Decoder α)} {held : List (String × Tree)} {cs rest : List Char}
    {d : Decoder α} {tree : Tree} (hfound : ∀ d ∈ found, ∃ key, (key, d) ∈ t.known)
    (hread : t.readMap scope budget first found held cs = .ok ((d, tree), rest)) :
    ∃ key, (key, d) ∈ t.known := by
  induction budget generalizing first found held cs with
  | zero => cases hread
  | succ budget ih =>
    rw [readMap] at hread
    obtain ⟨⟨more, left⟩, -, hread⟩ := Except.bind_eq_ok hread
    cases more with
    | false =>
      cases found with
      | none => cases hread
      | some found =>
        cases hread
        exact hfound d rfl
    | true =>
      obtain ⟨⟨key, left⟩, -, hread⟩ := Except.bind_eq_ok hread
      dsimp only at hread
      split at hread
      · split at hread
        · cases hread
        · obtain ⟨_, -, hread⟩ := Except.bind_eq_ok hread
          obtain ⟨⟨chosen, left⟩, htag, hread⟩ := Except.bind_eq_ok hread
          refine ih ?_ hread
          rintro _ ⟨⟩
          exact (yields_name t.known).ofText htag
      · obtain ⟨_, -, hread⟩ := Except.bind_eq_ok hread
        obtain ⟨⟨member, left⟩, -, hread⟩ := Except.bind_eq_ok hread
        exact ih hfound hread

theorem exists_mem_of_readParts {scope : Scope} {cs rest : List Char} {d : Decoder α} {tree : Tree}
    (hread : t.readParts scope cs = .ok ((d, tree), rest)) : ∃ key, (key, d) ∈ t.known := by
  unfold readParts at hread
  split at hread
  · obtain ⟨within, hread⟩ := descend_eq_ok hread
    obtain ⟨inner, hread⟩ := closing_eq_ok hread
    obtain ⟨⟨more, left⟩, -, hread⟩ := Except.bind_eq_ok hread
    cases more with
    | false => cases hread
    | true =>
      obtain ⟨⟨chosen, left⟩, htag, hread⟩ := Except.bind_eq_ok hread
      obtain ⟨⟨items, left⟩, -, hread⟩ := Except.bind_eq_ok hread
      cases hread
      exact (yields_name t.known).ofText htag
  · obtain ⟨within, hread⟩ := descend_eq_ok hread
    obtain ⟨inner, hread⟩ := closing_eq_ok hread
    exact exists_mem_of_readMap (fun _ hmem ↦ absurd hmem (Option.not_mem_none _)) hread
  · exact absurd hread (refuse_ne_ok _ _ _ _)

theorem exists_mem_of_splitMembers {origin : Origin} {found : Option (Decoder α)}
    {held members : List (String × Tree)} {d : Decoder α} {tree : Tree}
    (hfound : ∀ d ∈ found, ∃ key, (key, d) ∈ t.known)
    (hsplit : t.splitMembers origin found held members = .ok (d, tree)) :
    ∃ key, (key, d) ∈ t.known := by
  induction members generalizing found held with
  | nil =>
    cases found with
    | none => cases hsplit
    | some found =>
      cases hsplit
      exact hfound d rfl
  | cons m members ih =>
    rw [splitMembers] at hsplit
    split at hsplit
    · split at hsplit
      · cases hsplit
      · obtain ⟨chosen, htag, hsplit⟩ := Except.bind_eq_ok hsplit
        refine ih ?_ hsplit
        rintro _ ⟨⟩
        exact (yields_name t.known).ofTree htag
    · exact ih hfound hsplit

theorem exists_mem_of_parts {origin : Origin} {tree inner : Tree} {d : Decoder α}
    (hparts : t.parts origin tree = .ok (d, inner)) : ∃ key, (key, d) ∈ t.known := by
  cases tree with
  | array items =>
    cases items with
    | nil => cases hparts
    | cons tag items =>
      obtain ⟨chosen, htag, hparts⟩ := Except.bind_eq_ok hparts
      cases hparts
      exact (yields_name t.known).ofTree htag
  | object members =>
    exact exists_mem_of_splitMembers (fun _ hmem ↦ absurd hmem (Option.not_mem_none _)) hparts
  | _ => cases hparts

theorem yields_decoder (h : ∀ entry ∈ t.known, entry.2.Yields P) : t.decoder.Yields P where
  ofText scope cs x rest hread := by
    obtain ⟨⟨⟨d, tree⟩, left⟩, hparts, hread⟩ := Except.bind_eq_ok hread
    obtain ⟨key, hmem⟩ := exists_mem_of_readParts hparts
    dsimp only at hread
    split at hread
    · next y hcontents =>
      cases hread
      exact (h _ hmem).ofTree hcontents
    · cases hread
  ofTree origin tree x hread := by
    obtain ⟨⟨d, inner⟩, hparts, hread⟩ := Except.bind_eq_ok hread
    obtain ⟨key, hmem⟩ := exists_mem_of_parts hparts
    exact (h _ hmem).ofTree hread
  absent x hmem := nomatch hmem

end SelfTagged

end Decoder

end CitedChat.Json
