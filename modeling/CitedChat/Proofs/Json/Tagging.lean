import CitedChat.Proofs.Json.Coherence

/-!
Tagged values are read from their text as from their tree. A reader that looks for a tag and for
contents passes over every other member (`Tagged.seek_joined`), in whichever order it meets the two;
one that holds all members back until it has met the tag keeps them as they are
(`SelfTagged.readMap_joined`).
-/

set_option autoImplicit false

namespace CitedChat.Json

namespace Decoder

variable {α : Type}

/-! ### Tags beside contents -/

namespace Tagged

variable {t : Tagged α} {scope : Scope}

theorem relevant_cons (m : String × Tree) (members : List (String × Tree)) :
    t.relevant (m :: members) =
      ((t.key? m.1).map fun key ↦ (key, m.2)).toList ++ t.relevant members := by
  obtain ⟨key, tree⟩ := m
  rw [relevant, List.filterMap_cons]
  dsimp only
  cases t.key? key <;> rfl

/-- Where no key that matters is left, the end is found. -/
theorem seek_eq_none {members : List (String × Tree)} (hadmits : scope.Admits members)
    (hnone : t.relevant members = []) {budget : Nat} (hbudget : members.length < budget)
    (first : Bool) (rest : List Char) :
    t.seek scope budget first (joined first (members.map Tree.printMember) ++ '\x7d' :: rest) =
      .ok (none, '\x7d' :: rest) := by
  induction members generalizing budget first with
  | nil =>
    obtain ⟨budget, rfl⟩ := Nat.exists_eq_add_one_of_ne_zero (Nat.ne_zero_of_lt hbudget)
    rfl
  | cons m members ih =>
    obtain ⟨budget, rfl⟩ := Nat.exists_eq_add_one_of_ne_zero (Nat.ne_zero_of_lt hbudget)
    obtain ⟨hreadable, hkey, hlength⟩ := hadmits.each m List.mem_cons_self
    have hends := ends_members members rest
    rw [relevant_cons, List.append_eq_nil_iff] at hnone
    have hother : t.key? m.1 = none := by simpa using hnone.1
    have hmore := ih hadmits.tail hnone.2 (Nat.lt_of_succ_lt_succ hbudget) false
    rw [List.map_cons, seek, Tree.seekKey_joined]
    simp only [bind, Except.bind, readString_print _ _ hkey, hother, readColon_colon,
      Tree.skipTree_print hreadable hlength hends]
    exact hmore

/-- The first key that matters is found, with its value behind it. -/
theorem seek_eq_some {members : List (String × Tree)} (hadmits : scope.Admits members) {key : Key}
    {tree : Tree} {others : List (Key × Tree)}
    (hsome : t.relevant members = (key, tree) :: others) {budget : Nat}
    (hbudget : members.length < budget) (first : Bool) (rest : List Char) :
    ∃ left, t.relevant left = others ∧ scope.Admits left ∧ tree.Readable scope.depth ∧
      tree.print.length < scope.budget ∧
      t.seek scope budget first (joined first (members.map Tree.printMember) ++ '\x7d' :: rest) =
        .ok (some key, ':' ::
          (tree.print ++ (joined false (left.map Tree.printMember) ++ '\x7d' :: rest))) := by
  induction members generalizing budget first with
  | nil => cases hsome
  | cons m members ih =>
    obtain ⟨budget, rfl⟩ := Nat.exists_eq_add_one_of_ne_zero (Nat.ne_zero_of_lt hbudget)
    obtain ⟨hreadable, hkey, hlength⟩ := hadmits.each m List.mem_cons_self
    have hends := ends_members members rest
    rw [relevant_cons] at hsome
    rw [List.map_cons, seek, Tree.seekKey_joined]
    simp only [bind, Except.bind, readString_print _ _ hkey]
    cases hfound : t.key? m.1 with
    | some found =>
      rw [hfound] at hsome
      cases hsome
      exact ⟨members, rfl, hadmits.tail, hreadable, hlength, rfl⟩
    | none =>
      rw [hfound] at hsome
      simp only [readColon_colon, Tree.skipTree_print hreadable hlength hends]
      exact ih hadmits.tail hsome (Nat.lt_of_succ_lt_succ hbudget) false

theorem finish_joined (x : α) {members : List (String × Tree)} (hadmits : scope.Admits members)
    (hnone : t.relevant members = []) (rest : List Char) :
    t.finish scope x (joined false (members.map Tree.printMember) ++ '\x7d' :: rest) =
      .ok (x, '\x7d' :: rest) := by
  rw [finish, seek_eq_none hadmits hnone hadmits.count]
  rfl

theorem coherent_tag : t.tag.Coherent :=
  coherent_choice t.known

theorem readMap_joined (h : ∀ entry ∈ t.known, entry.2.2.Coherent)
    {members : List (String × Tree)} (hadmits : scope.Admits members) {x : α}
    (hdecode : t.ofMembers .whole members = .ok x) (rest : List Char) :
    t.readMap scope (joined true (members.map Tree.printMember) ++ '\x7d' :: rest) =
      .ok (x, '\x7d' :: rest) := by
  unfold ofMembers at hdecode
  split at hdecode
  · cases hdecode
  · next tag others hrelevant =>
    obtain ⟨entry, htag, hdecode⟩ := Except.bind_eq_ok hdecode
    obtain ⟨_, hmem⟩ := (yields_choice t.known).ofTree htag
    have hentry : entry.2.Coherent := h _ hmem
    obtain ⟨left, hleft, hadmits, hreadable, hlength, hseek⟩ :=
      seek_eq_some hadmits hrelevant hadmits.count true rest
    have htag := coherent_tag htag hreadable (Nat.le_of_lt hlength) (ends_members left rest)
    simp only [readMap, hseek, bind, Except.bind, readColon_colon, htag]
    split at hdecode
    · rw [seek_eq_none hadmits hleft hadmits.count]
      simp only [hdecode]
      rfl
    · cases hdecode
    · next content others =>
      obtain ⟨y, hcontents, hlast⟩ := Except.bind_eq_ok hdecode
      obtain ⟨rfl, rfl⟩ := last_eq_ok hlast
      obtain ⟨left, hleft, hadmits, hreadable, hlength, hseek⟩ :=
        seek_eq_some hadmits hleft hadmits.count false rest
      have hcontents := hentry hcontents hreadable (Nat.le_of_lt hlength) (ends_members left rest)
      simp only [hseek, readColon_colon, hcontents]
      exact finish_joined _ hadmits hleft rest
  · next content others hrelevant =>
    obtain ⟨left, hleft, hadmits, hreadable, hlength, hseek⟩ :=
      seek_eq_some hadmits hrelevant hadmits.count true rest
    have htree := Tree.readTree_print hreadable (Nat.le_of_lt hlength) (ends_members left rest)
    simp only [readMap, hseek, bind, Except.bind, readColon_colon, htree]
    split at hdecode
    · cases hdecode
    · cases hdecode
    · next tag others =>
      obtain ⟨entry, htag, hdecode⟩ := Except.bind_eq_ok hdecode
      obtain ⟨y, hcontents, hlast⟩ := Except.bind_eq_ok hdecode
      obtain ⟨rfl, rfl⟩ := last_eq_ok hlast
      obtain ⟨left, hleft, hadmits, hreadable, hlength, hseek⟩ :=
        seek_eq_some hadmits hleft hadmits.count false rest
      have htag := coherent_tag htag hreadable (Nat.le_of_lt hlength) (ends_members left rest)
      simp only [hseek, readColon_colon, htag, hcontents]
      exact finish_joined _ hadmits hleft rest

/-- A tagged sequence is its tag and its contents. -/
theorem exists_of_ofSequence {items : List Tree} {x : α}
    (hdecode : t.ofSequence .whole items = .ok x) :
    ∃ tag content entry, items = [tag, content] ∧ t.tag.ofTree .whole tag = .ok entry ∧
      entry.2.ofTree .whole content = .ok x := by
  match items with
  | [] => cases hdecode
  | [tag] =>
    obtain ⟨entry, htag, hdecode⟩ := Except.bind_eq_ok hdecode
    cases hdecode
  | tag :: content :: others =>
    obtain ⟨entry, htag, hdecode⟩ := Except.bind_eq_ok hdecode
    obtain ⟨y, hcontents, hdecode⟩ := Except.bind_eq_ok hdecode
    cases others with
    | nil =>
      cases hdecode
      exact ⟨tag, content, entry, rfl, htag, hcontents⟩
    | cons other others => cases hdecode

theorem readSequence_joined (h : ∀ entry ∈ t.known, entry.2.2.Coherent) (scope : Scope)
    {items : List Tree}
    (hitems : ∀ item ∈ items, item.Readable scope.depth ∧ item.print.length ≤ scope.budget) {x : α}
    (hdecode : t.ofSequence .whole items = .ok x) (rest : List Char) :
    t.readSequence scope (joined true (items.map Tree.print) ++ ']' :: rest) =
      .ok (x, ']' :: rest) := by
  obtain ⟨tag, content, entry, rfl, htag, hcontents⟩ := exists_of_ofSequence hdecode
  obtain ⟨_, hmem⟩ := (yields_choice t.known).ofTree htag
  have hentry : entry.2.Coherent := h _ hmem
  obtain ⟨⟨htagReadable, htagLength⟩, hcontent⟩ := List.forall_mem_cons.1 hitems
  obtain ⟨hreadable, hlength⟩ := List.forall_mem_singleton.1 hcontent
  have hcomma : Ends (joined false [content.print] ++ ']' :: rest) := .inl rfl
  have hclose : Ends (joined false [] ++ ']' :: rest) := .inr (.inl rfl)
  have htag := coherent_tag htag htagReadable htagLength hcomma
  have hcontents := hentry hcontents hreadable hlength hclose
  rw [List.map_cons, List.map_singleton, readSequence,
    seekItem_joined true htagReadable.opens_print]
  simp only [bind, Except.bind, htag, seekItem_joined false hreadable.opens_print]
  exact hcontents

theorem coherent_decoder (h : ∀ entry ∈ t.known, entry.2.2.Coherent) : t.decoder.Coherent := by
  rintro tree x hdecode ⟨depth, budget⟩ rest hreadable hbudget hends
  cases tree with
  | array items =>
    cases hreadable with
    | @array depth _ hitems =>
      obtain ⟨-, hlengths⟩ := Tree.array_bounds hitems hbudget
      have hread := readSequence_joined h ⟨depth, budget⟩
        (fun item hmem ↦ ⟨hitems item hmem, hlengths item hmem⟩) hdecode rest
      rw [Tree.print_array]
      simp [Tagged.decoder, descend, skipSpace, isSpace, hread, closing_sequence]
  | object members =>
    cases hreadable with
    | @object depth _ hmembers =>
      have hread := readMap_joined h (Scope.admits_of_object hmembers hbudget) hdecode rest
      rw [Tree.print_object]
      simp [Tagged.decoder, descend, skipSpace, isSpace, hread, closing_map]
  | _ => cases hdecode

end Tagged

/-! ### Tags among the fields -/

namespace SelfTagged

variable {t : SelfTagged α} {scope : Scope}

theorem readMap_joined {members : List (String × Tree)} (hadmits : scope.Admits members)
    {found : Option (Decoder α)} {held : List (String × Tree)} {d : Decoder α} {tree : Tree}
    (hsplit : t.splitMembers .whole found held members = .ok (d, tree)) {budget : Nat}
    (hbudget : members.length < budget) (first : Bool) (rest : List Char) :
    t.readMap scope budget first found held
        (joined first (members.map Tree.printMember) ++ '\x7d' :: rest) =
      .ok ((d, tree), '\x7d' :: rest) := by
  induction members generalizing found held budget first with
  | nil =>
    obtain ⟨budget, rfl⟩ := Nat.exists_eq_add_one_of_ne_zero (Nat.ne_zero_of_lt hbudget)
    cases found with
    | none => cases hsplit
    | some found =>
      cases hsplit
      rfl
  | cons m members ih =>
    obtain ⟨budget, rfl⟩ := Nat.exists_eq_add_one_of_ne_zero (Nat.ne_zero_of_lt hbudget)
    obtain ⟨hreadable, hkey, hlength⟩ := hadmits.each m List.mem_cons_self
    have hends := ends_members members rest
    have hmore {found : Option (Decoder α)} {held : List (String × Tree)}
        (hsplit : t.splitMembers .whole found held members = .ok (d, tree)) :=
      ih hadmits.tail hsplit (Nat.lt_of_succ_lt_succ hbudget) false
    rw [List.map_cons, readMap, Tree.seekKey_joined]
    rw [splitMembers] at hsplit
    simp only [bind, Except.bind, readString_print _ _ hkey]
    split at hsplit
    · next htagged =>
      rw [if_pos htagged]
      split at hsplit
      · cases hsplit
      · next hfree =>
        obtain ⟨chosen, htag, hsplit⟩ := Except.bind_eq_ok hsplit
        have htag := coherent_name _ htag hreadable (Nat.le_of_lt hlength) hends
        rw [if_neg hfree]
        simp only [readColon_colon, tag, htag]
        exact hmore hsplit
    · next hother =>
      have htree := Tree.readTree_print hreadable (Nat.le_of_lt hlength) hends
      rw [if_neg hother]
      simp only [readColon_colon, htree]
      exact hmore hsplit

/-- The items behind the tag are held back as they are. -/
theorem readSequence_joined (scope : Scope) {item : Tree} {items : List Tree}
    (hitems : ∀ other ∈ item :: items, other.Readable scope.depth ∧
      other.print.length ≤ scope.budget) (hcount : items.length < scope.budget) {d : Decoder α}
    (htag : t.tag.ofTree .whole item = .ok d) (rest : List Char) :
    t.readSequence scope (joined true ((item :: items).map Tree.print) ++ ']' :: rest) =
      .ok ((d, .array items), ']' :: rest) := by
  obtain ⟨⟨hreadable, hlength⟩, hothers⟩ := List.forall_mem_cons.1 hitems
  have hends : Ends (joined false (items.map Tree.print) ++ ']' :: rest) :=
    ends_joined _ (.inr (.inl rfl))
  have htag := coherent_name _ htag hreadable hlength hends
  have hread := readItems_joined (readTree scope.budget scope.depth) Tree.print id hcount
    (fun other hmem ↦ ⟨(hothers other hmem).1.opens_print, fun _ hends ↦
      Tree.readTree_print (hothers other hmem).1 (hothers other hmem).2 hends⟩) false [] rest
  rw [List.map_cons, readSequence, seekItem_joined true hreadable.opens_print]
  simp only [bind, Except.bind, tag, htag, hread]
  simp [pure, Except.pure]

/-- The tag and the fields are told apart in the text as in the tree. -/
theorem readParts_print {depth budget : Nat} {tree inner : Tree} {d : Decoder α}
    (hparts : t.parts .whole tree = .ok (d, inner)) (hreadable : tree.Readable depth)
    (hbudget : tree.print.length ≤ budget) (rest : List Char) :
    t.readParts ⟨depth, budget⟩ (tree.print ++ rest) = .ok ((d, inner), rest) := by
  cases tree with
  | array items =>
    cases items with
    | nil => cases hparts
    | cons item items =>
      obtain ⟨chosen, htag, hparts⟩ := Except.bind_eq_ok hparts
      cases hparts
      cases hreadable with
      | @array depth _ hitems =>
        obtain ⟨hcount, hlengths⟩ := Tree.array_bounds hitems hbudget
        have hread := readSequence_joined ⟨depth, budget⟩
          (fun other hmem ↦ ⟨hitems other hmem, hlengths other hmem⟩) (Nat.lt_of_succ_lt hcount)
          htag rest
        rw [Tree.print_array]
        simp only [readParts, descend]
        simp [-List.map_cons, skipSpace, isSpace, hread, closing_sequence]
  | object members =>
    cases hreadable with
    | @object depth _ hmembers =>
      have hadmits := Scope.admits_of_object hmembers hbudget
      have hread := readMap_joined hadmits (show t.splitMembers _ _ _ _ = _ from hparts)
        hadmits.count true rest
      rw [Tree.print_object]
      simp only [readParts, descend]
      simp [skipSpace, isSpace, hread, closing_map]
  | _ => cases hparts

theorem coherent_decoder : t.decoder.Coherent := by
  rintro tree x hdecode ⟨depth, budget⟩ rest hreadable hbudget hends
  obtain ⟨⟨d, inner⟩, hparts, hcontents⟩ := Except.bind_eq_ok hdecode
  have hread := readParts_print hparts hreadable hbudget rest
  simp only [SelfTagged.decoder, hread, bind, Except.bind, hcontents]
  rfl

end SelfTagged

end Decoder

end CitedChat.Json
