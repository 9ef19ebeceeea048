import CitedChat.Proofs.Json.Numerals
import CitedChat.Proofs.Json.Scanning
import CitedChat.Proofs.Json.Yielding

/-!
The reader of trees accepts the texts of the grammar and no others. A value is read from its text
if it is not nested too deep (`Written.accepts_readTree`), and whatever is read as a value is the
text of one (`reads_readTree`). So a whole text is accepted if and only if it is that of a
`Document`, and it denotes the value of the document with its keys sorted
(`Tree.parse_eq_ok_iff`).
-/

set_option autoImplicit false

namespace CitedChat.Json

/-! ### Beginnings and ends -/

theorem EndsNumber.cons {c : Char} (hdigit : c.isDigit = false) (hpoint : c ≠ '.')
    (hlower : c ≠ 'e') (hupper : c ≠ 'E') (rest : List Char) : EndsNumber (c :: rest) := by
  intro d hd
  obtain rfl := Option.some.inj hd
  exact ⟨hdigit, hpoint, hlower, hupper⟩

theorem endsNumber_nil : EndsNumber [] :=
  fun _ hc ↦ by cases hc

/-- White space ends a number. -/
theorem EndsNumber.space {rest : List Char} (h : EndsNumber rest) (space : Space) :
    EndsNumber (space.chars ++ rest) := by
  obtain ⟨chars, hblank⟩ := space
  cases chars with
  | nil => exact h
  | cons c chars =>
    obtain rfl | rfl | rfl | rfl := isSpace_cases (hblank c List.mem_cons_self) <;>
      exact .cons rfl (by decide) (by decide) (by decide) _

theorem Ends.endsNumber {rest : List Char} (h : Ends rest) : EndsNumber rest := by
  cases rest with
  | nil => exact endsNumber_nil
  | cons c rest =>
    obtain rfl | rfl | rfl := h <;> exact .cons rfl (by decide) (by decide) (by decide) _

theorem Written.opens_text (value : Written) : Opens value.text := by
  cases value with
  | null => exact ⟨rfl, by decide⟩
  | bool value => cases value <;> exact ⟨rfl, by decide⟩
  | number decimal value hvalue =>
    obtain ⟨c, more, htext, hc⟩ := decimal.text_head []
    rw [List.append_nil] at htext
    rw [text, htext]
    exact opens_of_digit hc more
  | string glyphs => exact ⟨rfl, by decide⟩
  | array space items => exact ⟨rfl, by decide⟩
  | object space members => exact ⟨rfl, by decide⟩

/-! ### Pieces between brackets -/

/-- A piece comes behind a comma, unless it is the first one. -/
theorem joined_cons (first : Bool) (piece : List Char) (pieces : List (List Char)) :
    joined first (piece :: pieces) =
      (if first then [] else [',']) ++ (piece ++ joined false pieces) := by
  cases first <;> simp [joined]

namespace Written

theorem itemTexts_eq (items : List (Spaced Written)) :
    itemTexts items = items.map fun i ↦ i.before.chars ++ (i.value.text ++ i.after.chars) := by
  induction items with
  | nil => rfl
  | cons i rest ih => rw [itemTexts, ih, List.map_cons]

theorem memberTexts_eq (members : List (Label × Spaced Written)) :
    memberTexts members = members.map fun m ↦
      m.1.text ++ ':' :: (m.2.before.chars ++ (m.2.value.text ++ m.2.after.chars)) := by
  induction members with
  | nil => rfl
  | cons m rest ih => rw [memberTexts, ih, List.map_cons]

theorem memberTrees_eq (members : List (Label × Spaced Written)) :
    memberTrees members = members.map fun m ↦ (m.1.key, m.2.value.tree) := by
  induction members with
  | nil => rfl
  | cons m rest ih => rw [memberTrees, ih, List.map_cons]

theorem nestingItems_le_iff {items : List (Spaced Written)} {depth : Nat} :
    nestingItems items ≤ depth ↔ ∀ i ∈ items, i.value.nesting ≤ depth := by
  induction items with
  | nil => simp [nestingItems]
  | cons i rest ih => rw [nestingItems, Nat.max_le, ih, List.forall_mem_cons]

theorem nestingMembers_le_iff {members : List (Label × Spaced Written)} {depth : Nat} :
    nestingMembers members ≤ depth ↔ ∀ m ∈ members, m.2.value.nesting ≤ depth := by
  induction members with
  | nil => simp [nestingMembers]
  | cons m rest ih => rw [nestingMembers, Nat.max_le, ih, List.forall_mem_cons]

theorem nesting_object_le_iff {space : Space} {members : List (Label × Spaced Written)}
    {depth : Nat} : (object space members).nesting ≤ depth + 1 ↔
      ∀ m ∈ members, m.2.value.nesting ≤ depth := by
  rw [nesting, Nat.add_le_add_iff_right, nestingMembers_le_iff]

end Written

/-- The reader reads the value from its text, behind white space and before anything that ends a
number. -/
def Accepts (item : Reader Tree) (value : Written) : Prop :=
  ∀ (before : Space) ⦃rest : List Char⦄, EndsNumber rest →
    item (before.chars ++ (value.text ++ rest)) = .ok (value.tree, rest)

theorem Accepts.read {item : Reader Tree} {value : Written} (h : Accepts item value)
    {rest : List Char} (hends : EndsNumber rest) :
    item (value.text ++ rest) = .ok (value.tree, rest) :=
  h .none hends

/-- The reader reads nothing but values behind white space, nested no deeper than allowed. -/
def Reads (item : Reader Tree) (depth : Nat) : Prop :=
  ∀ ⦃cs : List Char⦄ ⦃result : Tree × List Char⦄, item cs = .ok result →
    ∃ (before : Space) (value : Written), cs = before.chars ++ (value.text ++ result.2) ∧
      value.tree = result.1 ∧ value.nesting ≤ depth

/-! ### Items -/

theorem seekItem_piece (first : Bool) (space before : Space) {text : List Char}
    (hopens : Opens text) (rest : List Char) :
    seekItem first (space.chars ++ ((if first then [] else [',']) ++
      (before.chars ++ (text ++ rest)))) = .ok (true, text ++ rest) := by
  cases text with
  | nil => exact hopens.elim
  | cons c cs =>
    obtain ⟨hspace, hbracket⟩ := hopens
    have hcomma : isSpace ',' = false := rfl
    cases first <;>
      simp [seekItem, skipSpace_space, skipSpace_cons hspace, skipSpace_cons hcomma, hbracket]

theorem seekItem_end (first : Bool) (space : Space) (rest : List Char) :
    seekItem first (space.chars ++ ']' :: rest) = .ok (false, ']' :: rest) := by
  have hskip := skipSpace_cons (c := ']') rfl rest
  simp [seekItem, skipSpace_space, hskip]

/-- What is found to begin an item. -/
theorem exists_item_start {first : Bool} {cs rest : List Char}
    (hseek : seekItem first cs = .ok (true, rest)) :
    ∃ space before : Space,
      cs = space.chars ++ ((if first then [] else [',']) ++ (before.chars ++ rest)) := by
  obtain ⟨space, hcs⟩ := exists_space cs
  rw [seekItem] at hseek
  split at hseek
  · cases hseek
  · cases hseek
  next c behind _ hskip =>
  rw [hskip] at hcs
  split at hseek
  · next hfirst =>
    cases hseek
    exact ⟨space, .none, by rw [hcs, if_pos hfirst]; rfl⟩
  next hfirst =>
  split at hseek
  · next hcomma =>
    obtain ⟨before, hbehind⟩ := exists_space behind
    obtain rfl : c = ',' := beq_iff_eq.1 hcomma
    split at hseek
    · cases hseek
    · cases hseek
    · cases hseek
      exact ⟨space, before, by rw [hcs, if_neg hfirst, ← hbehind]; rfl⟩
  · cases hseek

/-- What is found to end the items. -/
theorem exists_items_end {first : Bool} {cs rest : List Char}
    (hseek : seekItem first cs = .ok (false, rest)) :
    ∃ (space : Space) (behind : List Char),
      cs = space.chars ++ ']' :: behind ∧ rest = ']' :: behind := by
  obtain ⟨space, hcs⟩ := exists_space cs
  rw [seekItem] at hseek
  split at hseek
  · cases hseek
  · next behind hskip =>
    cases hseek
    exact ⟨space, behind, by rw [hcs, hskip], rfl⟩
  · split at hseek
    · cases hseek
    · split at hseek
      · split at hseek <;> cases hseek
      · cases hseek

/-- Items that are each read are read one behind the other. -/
theorem readItems_written {item : Reader Tree} {items : List (Spaced Written)} {budget : Nat}
    (hbudget : items.length < budget) (hread : ∀ i ∈ items, Accepts item i.value)
    (first : Bool) (space : Space) (done : List Tree) (rest : List Char) :
    readItems item budget first done
        (space.chars ++ (joined first (Written.itemTexts items) ++ ']' :: rest)) =
      .ok (done.reverse ++ Written.itemTrees items, ']' :: rest) := by
  induction items generalizing budget first space done with
  | nil =>
    obtain ⟨budget, rfl⟩ := Nat.exists_eq_add_one_of_ne_zero (Nat.ne_zero_of_lt hbudget)
    simp [readItems, Written.itemTexts, Written.itemTrees, joined, seekItem_end, bind, Except.bind,
      pure, Except.pure]
  | cons i items ih =>
    obtain ⟨budget, rfl⟩ := Nat.exists_eq_add_one_of_ne_zero (Nat.ne_zero_of_lt hbudget)
    obtain ⟨hitem, hrest⟩ := List.forall_mem_cons.1 hread
    obtain ⟨before, value, after⟩ := i
    have hends : Ends (joined false (Written.itemTexts items) ++ ']' :: rest) :=
      ends_joined _ (.inr (.inl rfl))
    have hvalue := hitem.read (hends.endsNumber.space after)
    have hseek := seekItem_piece first space before value.opens_text
      (after.chars ++ (joined false (Written.itemTexts items) ++ ']' :: rest))
    have hmore := ih (Nat.lt_of_succ_lt_succ hbudget) hrest false after (value.tree :: done)
    simp only [Written.itemTexts, joined_cons, List.append_assoc]
    rw [readItems, hseek]
    simp only [bind, Except.bind, hvalue, hmore, Written.itemTrees]
    simp

/-- What is read as items is the text of items. -/
theorem exists_items {item : Reader Tree} {depth : Nat} (hitem : Reads item depth) {budget : Nat}
    {first : Bool} {done : List Tree} {cs : List Char} {result : List Tree × List Char}
    (hread : readItems item budget first done cs = .ok result) :
    ∃ (space : Space) (items : List (Spaced Written)) (rest : List Char),
      cs = space.chars ++ (joined first (Written.itemTexts items) ++ ']' :: rest) ∧
        result = (done.reverse ++ Written.itemTrees items, ']' :: rest) ∧
        Written.nestingItems items ≤ depth := by
  induction budget generalizing first done cs with
  | zero => cases hread
  | succ budget ih =>
    rw [readItems] at hread
    obtain ⟨⟨more, rest⟩, hseek, hread⟩ := Except.bind_eq_ok hread
    cases more with
    | false =>
      obtain ⟨space, behind, rfl, rfl⟩ := exists_items_end hseek
      cases hread
      exact ⟨space, [], behind, rfl, by simp [Written.itemTrees], Nat.zero_le _⟩
    | true =>
      obtain ⟨⟨x, left⟩, hx, hmore⟩ := Except.bind_eq_ok hread
      obtain ⟨space, before, rfl⟩ := exists_item_start hseek
      obtain ⟨more, value, rfl, rfl, hvalue⟩ := hitem hx
      obtain ⟨after, items, rest, rfl, rfl, hitems⟩ := ih hmore
      refine ⟨space, ⟨before.append more, value, after⟩ :: items, rest, ?_, ?_, ?_⟩
      · simp [Written.itemTexts, joined_cons, Space.append]
      · simp [Written.itemTrees]
      · exact Nat.max_le.2 ⟨hvalue, hitems⟩

/-! ### Members -/

theorem seekKey_quote (first : Bool) (space before : Space) (rest : List Char) :
    seekKey first (space.chars ++ ((if first then [] else [',']) ++
      (before.chars ++ '"' :: rest))) = .ok (true, rest) := by
  have hquote : isSpace '"' = false := rfl
  have hcomma : isSpace ',' = false := rfl
  cases first <;>
    simp [seekKey, skipSpace_space, skipSpace_cons hquote, skipSpace_cons hcomma]

theorem seekKey_end (first : Bool) (space : Space) (rest : List Char) :
    seekKey first (space.chars ++ '\x7d' :: rest) = .ok (false, '\x7d' :: rest) := by
  have hskip := skipSpace_cons (c := '\x7d') rfl rest
  simp [seekKey, skipSpace_space, hskip]

theorem readColon_space (space : Space) (rest : List Char) :
    readColon (space.chars ++ ':' :: rest) = .ok rest := by
  have hskip := skipSpace_cons (c := ':') rfl rest
  simp [readColon, skipSpace_space, hskip]

/-- What is found to begin a key. -/
theorem exists_key_start {first : Bool} {cs rest : List Char}
    (hseek : seekKey first cs = .ok (true, rest)) :
    ∃ space before : Space,
      cs = space.chars ++ ((if first then [] else [',']) ++ (before.chars ++ '"' :: rest)) := by
  obtain ⟨space, hcs⟩ := exists_space cs
  rw [seekKey] at hseek
  split at hseek
  · cases hseek
  · cases hseek
  next c behind _ hskip =>
  rw [hskip] at hcs
  split at hseek
  · next hfirst =>
    split at hseek
    · next hquote =>
      cases hseek
      obtain rfl : c = '"' := beq_iff_eq.1 hquote
      exact ⟨space, .none, by rw [hcs, if_pos hfirst]; rfl⟩
    · cases hseek
  next hfirst =>
  split at hseek
  · next hcomma =>
    obtain ⟨before, hbehind⟩ := exists_space behind
    obtain rfl : c = ',' := beq_iff_eq.1 hcomma
    split at hseek
    · cases hseek
    · next hquote =>
      cases hseek
      exact ⟨space, before, by rw [hcs, if_neg hfirst, ← hquote, ← hbehind]; rfl⟩
    · cases hseek
    · cases hseek
  · cases hseek

/-- What is found to end the members. -/
theorem exists_members_end {first : Bool} {cs rest : List Char}
    (hseek : seekKey first cs = .ok (false, rest)) :
    ∃ (space : Space) (behind : List Char),
      cs = space.chars ++ '\x7d' :: behind ∧ rest = '\x7d' :: behind := by
  obtain ⟨space, hcs⟩ := exists_space cs
  rw [seekKey] at hseek
  split at hseek
  · cases hseek
  · next behind hskip =>
    cases hseek
    exact ⟨space, behind, by rw [hcs, hskip], rfl⟩
  · split at hseek
    · split at hseek <;> cases hseek
    · split at hseek
      · split at hseek <;> cases hseek
      · cases hseek

theorem exists_colon {cs rest : List Char} (hread : readColon cs = .ok rest) :
    ∃ space : Space, cs = space.chars ++ ':' :: rest := by
  obtain ⟨space, hcs⟩ := exists_space cs
  rw [readColon] at hread
  split at hread
  · cases hread
  · next behind hskip =>
    cases hread
    exact ⟨space, by rw [hcs, hskip]⟩
  · cases hread

/-- Members whose values are each read are read one behind the other. -/
theorem readMembers_written {limit : Nat} {item : Reader Tree}
    {members : List (Label × Spaced Written)} {budget : Nat} (hbudget : members.length < budget)
    (hread : ∀ m ∈ members, m.1.glyphs.length < limit ∧ Accepts item m.2.value)
    (first : Bool) (space : Space) (done : List (String × Tree)) (rest : List Char) :
    readMembers limit item budget first done
        (space.chars ++ (joined first (Written.memberTexts members) ++ '\x7d' :: rest)) =
      .ok (done.reverse ++ Written.memberTrees members, '\x7d' :: rest) := by
  induction members generalizing budget first space done with
  | nil =>
    obtain ⟨budget, rfl⟩ := Nat.exists_eq_add_one_of_ne_zero (Nat.ne_zero_of_lt hbudget)
    simp [readMembers, Written.memberTexts, Written.memberTrees, joined, seekKey_end, bind,
      Except.bind, pure, Except.pure]
  | cons m members ih =>
    obtain ⟨budget, rfl⟩ := Nat.exists_eq_add_one_of_ne_zero (Nat.ne_zero_of_lt hbudget)
    obtain ⟨⟨hkey, hitem⟩, hrest⟩ := List.forall_mem_cons.1 hread
    obtain ⟨⟨front, glyphs, back⟩, before, value, after⟩ := m
    have hends : Ends (joined false (Written.memberTexts members) ++ '\x7d' :: rest) :=
      ends_joined _ (.inr (.inr rfl))
    have hvalue := hitem before (hends.endsNumber.space after)
    have hmore := ih (Nat.lt_of_succ_lt_succ hbudget) hrest false after
      ((Glyph.string glyphs, value.tree) :: done)
    simp only [Written.memberTexts, joined_cons, Label.text, Glyph.quoted, List.append_assoc,
      List.cons_append, List.nil_append]
    rw [readMembers, seekKey_quote]
    simp only [bind, Except.bind]
    rw [readStringBody_glyphs hkey]
    simp only [readColon_space, hvalue, List.reverse_nil, List.nil_append]
    rw [← Glyph.string, hmore]
    simp [Written.memberTrees, Label.key]

/-- What is read as members is the text of members. -/
theorem exists_members {limit : Nat} {item : Reader Tree} {depth : Nat} (hitem : Reads item depth)
    {budget : Nat} {first : Bool} {done : List (String × Tree)} {cs : List Char}
    {result : List (String × Tree) × List Char}
    (hread : readMembers limit item budget first done cs = .ok result) :
    ∃ (space : Space) (members : List (Label × Spaced Written)) (rest : List Char),
      cs = space.chars ++ (joined first (Written.memberTexts members) ++ '\x7d' :: rest) ∧
        result = (done.reverse ++ Written.memberTrees members, '\x7d' :: rest) ∧
        Written.nestingMembers members ≤ depth := by
  induction budget generalizing first done cs with
  | zero => cases hread
  | succ budget ih =>
    rw [readMembers] at hread
    obtain ⟨⟨more, rest⟩, hseek, hread⟩ := Except.bind_eq_ok hread
    cases more with
    | false =>
      obtain ⟨space, behind, rfl, rfl⟩ := exists_members_end hseek
      cases hread
      exact ⟨space, [], behind, rfl, by simp [Written.memberTrees], Nat.zero_le _⟩
    | true =>
      obtain ⟨⟨key, behind⟩, hkey, hbehind⟩ := Except.bind_eq_ok hread
      obtain ⟨opened, hcolon, hvalue⟩ := Except.bind_eq_ok hbehind
      obtain ⟨⟨x, left⟩, hx, hmore⟩ := Except.bind_eq_ok hvalue
      obtain ⟨space, front, rfl⟩ := exists_key_start hseek
      obtain ⟨glyphs, rfl, hglyphs⟩ := exists_glyphs hkey
      obtain rfl : key = Glyph.string glyphs := hglyphs
      obtain ⟨back, rfl⟩ := exists_colon hcolon
      obtain ⟨before, value, rfl, rfl, hdepth⟩ := hitem hx
      obtain ⟨after, members, rest, rfl, rfl, hmembers⟩ := ih hmore
      refine ⟨space, (⟨front, glyphs, back⟩, ⟨before, value, after⟩) :: members, rest, ?_, ?_, ?_⟩
      · simp [Written.memberTexts, joined_cons, Label.text, Glyph.quoted]
      · simp [Written.memberTrees, Label.key]
      · exact Nat.max_le.2 ⟨hdepth, hmembers⟩

/-! ### Values -/

theorem readKeyword_eq_ok_iff {word cs rest : List Char} :
    readKeyword word cs = .ok rest ↔ cs = word ++ rest := by
  induction word generalizing cs with
  | nil => exact ⟨fun h ↦ Except.ok.inj h, fun h ↦ congrArg Except.ok h⟩
  | cons w word ih =>
    cases cs with
    | nil => exact ⟨fun h ↦ (by cases h), fun h ↦ (by cases h)⟩
    | cons c cs =>
      rw [readKeyword, List.cons_append]
      by_cases hc : c = w
      · rw [if_pos (beq_iff_eq.2 hc), ih, hc, List.cons.injEq, eq_self, true_and]
      · rw [if_neg (by simpa using hc)]
        exact ⟨fun h ↦ (by cases h), fun h ↦ absurd (List.cons.inj h).1 hc⟩

/-- White space before a value is skipped. -/
theorem readTree_space (budget depth : Nat) (space : Space) (cs : List Char) :
    readTree budget depth (space.chars ++ cs) = readTree budget depth cs := by
  conv_lhs => unfold readTree
  conv_rhs => unfold readTree
  rw [skipSpace_space]

/-- There are no more pieces than characters, if the closing bracket is counted. -/
theorem count_le_joined_true (pieces : List (List Char)) :
    pieces.length ≤ (joined true pieces).length + 1 := by
  have hmore (pieces : List (List Char)) : pieces.length ≤ (joined false pieces).length := by
    induction pieces with
    | nil => exact Nat.zero_le _
    | cons piece pieces ih =>
      simp only [joined_cons, List.length_cons, List.length_append]
      simp
      omega
  cases pieces with
  | nil => exact Nat.zero_le _
  | cons piece pieces =>
    have hrest := hmore pieces
    simp only [joined_cons, List.length_cons, List.length_append]
    omega

theorem Glyph.length_quoted (glyphs : List Glyph) :
    glyphs.length + 2 ≤ (Glyph.quoted glyphs).length := by
  have hglyph (glyph : Glyph) : 1 ≤ glyph.text.length := by
    cases glyph <;> simp [Glyph.text]
  induction glyphs with
  | nil => exact Nat.le_refl _
  | cons glyph glyphs ih =>
    have hpositive := hglyph glyph
    simp only [Glyph.quoted, List.flatMap_cons, List.length_cons, List.length_append] at ih ⊢
    omega

namespace Written

theorem array_bounds {space : Space} {items : List (Spaced Written)} {budget : Nat}
    (hbudget : (array space items).text.length ≤ budget) :
    items.length < budget ∧ ∀ i ∈ items, i.value.text.length ≤ budget := by
  simp only [text, List.length_cons, List.length_append, List.length_nil] at hbudget
  refine ⟨?_, fun i hi ↦ ?_⟩
  · have hcount := count_le_joined_true (itemTexts items)
    rw [itemTexts_eq, List.length_map, ← itemTexts_eq] at hcount
    omega
  · have hpiece := Tree.length_le_joined true (itemTexts items) _
      (by rw [itemTexts_eq]; exact List.mem_map_of_mem hi)
    simp only [List.length_append] at hpiece
    omega

theorem object_bounds {space : Space} {members : List (Label × Spaced Written)} {budget : Nat}
    (hbudget : (object space members).text.length ≤ budget) :
    members.length < budget ∧
      ∀ m ∈ members, m.1.glyphs.length < budget ∧ m.2.value.text.length ≤ budget := by
  simp only [text, List.length_cons, List.length_append, List.length_nil] at hbudget
  refine ⟨?_, fun m hm ↦ ?_⟩
  · have hcount := count_le_joined_true (memberTexts members)
    rw [memberTexts_eq, List.length_map, ← memberTexts_eq] at hcount
    omega
  · have hpiece := Tree.length_le_joined true (memberTexts members) _
      (by rw [memberTexts_eq]; exact List.mem_map_of_mem hm)
    have hkey := Glyph.length_quoted m.1.glyphs
    simp only [Label.text, List.length_append, List.length_cons] at hpiece
    omega

/-- A value is read from its text. -/
theorem accepts_readTree (value : Written) {budget depth : Nat}
    (hbudget : value.text.length ≤ budget) (hdepth : value.nesting ≤ depth) :
    Accepts (readTree budget depth) value := by
  induction depth using Nat.strongRecOn generalizing value with
  | ind depth ih =>
    intro before rest hends
    rw [readTree_space]
    cases value with
    | null =>
      simp [text, tree, readTree, skipSpace, isSpace, readKeyword, bind, Except.bind, pure,
        Except.pure]
    | bool value =>
      cases value <;> simp [text, tree, readTree, skipSpace, isSpace, readKeyword, bind,
        Except.bind, pure, Except.pure]
    | number decimal value hvalue =>
      obtain ⟨c, more, htext, hc⟩ := decimal.text_head rest
      have hnumber := (decimal.readNumber_eq_ok_iff (hends.closed_decimal decimal)
        (value, rest)).2 ⟨hvalue, rfl⟩
      rw [text, tree]
      rw [htext] at hnumber ⊢
      rw [Tree.readTree_number budget depth hc, hnumber]
      rfl
    | string glyphs =>
      have hlength := Glyph.length_quoted glyphs
      have hstring := readStringBody_glyphs (show glyphs.length < budget by
        rw [text] at hbudget; omega) [] rest
      simp [text, tree, Glyph.quoted, Glyph.string, readTree, skipSpace, isSpace, hstring, bind,
        Except.bind, pure, Except.pure]
    | array space items =>
      obtain ⟨depth, rfl⟩ := Nat.exists_eq_add_one_of_ne_zero
        (show depth ≠ 0 by rw [nesting] at hdepth; omega)
      obtain ⟨hcount, hlengths⟩ := array_bounds hbudget
      have hnesting := nestingItems_le_iff.1 (Nat.le_of_succ_le_succ hdepth)
      have hread := readItems_written hcount
        (fun i hi ↦ ih depth (Nat.lt_succ_self _) i.value (hlengths i hi) (hnesting i hi))
        true space [] rest
      simp [text, tree, readTree, skipSpace, isSpace, hread, closing_sequence, bind, Except.bind,
        pure, Except.pure]
    | object space members =>
      obtain ⟨depth, rfl⟩ := Nat.exists_eq_add_one_of_ne_zero
        (show depth ≠ 0 by rw [nesting] at hdepth; omega)
      obtain ⟨hcount, hlengths⟩ := object_bounds hbudget
      have hnesting := nestingMembers_le_iff.1 (Nat.le_of_succ_le_succ hdepth)
      have hread := readMembers_written hcount
        (fun m hm ↦ ⟨(hlengths m hm).1, ih depth (Nat.lt_succ_self _) m.2.value (hlengths m hm).2
          (hnesting m hm)⟩) true space [] rest
      simp [text, tree, readTree, skipSpace, isSpace, hread, closing_map, bind, Except.bind, pure,
        Except.pure]

end Written

/-- What is read as a value is the text of one. -/
theorem reads_readTree (budget depth : Nat) : Reads (readTree budget depth) depth := by
  induction depth using Nat.strongRecOn with
  | ind depth ih =>
    intro cs result hread
    obtain ⟨before, hcs⟩ := exists_space cs
    unfold readTree at hread
    split at hread
    · cases hread
    next c inner hspace =>
    rw [hspace] at hcs
    subst hcs
    clear hspace
    split at hread
    · obtain ⟨rest, hword, hvalue⟩ := Except.bind_eq_ok hread
      cases hvalue
      exact ⟨before, .null, by rw [readKeyword_eq_ok_iff.1 hword]; rfl, rfl, Nat.zero_le _⟩
    · obtain ⟨rest, hword, hvalue⟩ := Except.bind_eq_ok hread
      cases hvalue
      exact ⟨before, .bool true, by rw [readKeyword_eq_ok_iff.1 hword]; rfl, rfl, Nat.zero_le _⟩
    · obtain ⟨rest, hword, hvalue⟩ := Except.bind_eq_ok hread
      cases hvalue
      exact ⟨before, .bool false, by rw [readKeyword_eq_ok_iff.1 hword]; rfl, rfl, Nat.zero_le _⟩
    · obtain ⟨⟨text, rest⟩, hstring, hvalue⟩ := Except.bind_eq_ok hread
      obtain ⟨glyphs, rfl, hglyphs⟩ := exists_glyphs hstring
      obtain rfl : text = Glyph.string glyphs := hglyphs
      cases hvalue
      exact ⟨before, .string glyphs, by simp [Written.text, Glyph.quoted], rfl, Nat.zero_le _⟩
    · split at hread
      · cases hread
      next depth =>
      obtain ⟨⟨trees, rest⟩, hclosing, hvalue⟩ := Except.bind_eq_ok hread
      obtain ⟨left, hitems⟩ := closing_eq_ok hclosing
      obtain ⟨space, items, behind, rfl, hresult, hnesting⟩ :=
        exists_items (ih depth (Nat.lt_succ_self depth)) hitems
      cases hresult
      rw [hitems, closing_sequence] at hclosing
      cases hclosing
      cases hvalue
      exact ⟨before, .array space items, by simp [Written.text], rfl,
        Nat.succ_le_succ hnesting⟩
    · split at hread
      · cases hread
      next depth =>
      obtain ⟨⟨trees, rest⟩, hclosing, hvalue⟩ := Except.bind_eq_ok hread
      obtain ⟨left, hmembers⟩ := closing_eq_ok hclosing
      obtain ⟨space, members, behind, rfl, hresult, hnesting⟩ :=
        exists_members (ih depth (Nat.lt_succ_self depth)) hmembers
      cases hresult
      rw [hmembers, closing_map] at hclosing
      cases hclosing
      cases hvalue
      exact ⟨before, .object space members, by simp [Written.text], rfl,
        Nat.succ_le_succ hnesting⟩
    · split at hread
      · obtain ⟨⟨value, rest⟩, hnumber, hresult⟩ := Except.bind_eq_ok hread
        obtain ⟨decimal, htext, hvalue⟩ := exists_decimal hnumber
        cases hresult
        exact ⟨before, .number decimal value hvalue, congrArg (before.chars ++ ·) htext, rfl,
          Nat.zero_le _⟩
      · cases hread

/-! ### Whole texts -/

/-- One value with white space around it, nested no deeper than allowed. -/
structure Document extends Spaced Written where
  shallow : value.nesting ≤ depthLimit

namespace Document

def text (d : Document) : String :=
  String.ofList (d.before.chars ++ (d.value.text ++ d.after.chars))

/-- What the document denotes. -/
def tree (d : Document) : Tree :=
  d.value.tree.sorted

theorem parse_text (d : Document) : Tree.parse d.text = .ok d.tree := by
  have hends : EndsNumber d.after.chars := by
    simpa using endsNumber_nil.space d.after
  have hafter : skipSpace d.after.chars = [] := by
    simpa [skipSpace] using d.after.blank
  have hbudget : d.value.text.length ≤ d.text.toList.length + 1 := by
    simp only [text, String.toList_ofList, List.length_append]
    omega
  have hread := d.value.accepts_readTree hbudget d.shallow d.before hends
  rw [Tree.parse, runReader]
  simp only [Scope.ofText]
  rw [text, String.toList_ofList] at hread ⊢
  rw [hread]
  simp only [hafter]
  rfl

end Document

/-- A text denotes a value if and only if it is the text of a document with this value. -/
theorem Tree.parse_eq_ok_iff {raw : String} {tree : Tree} :
    Tree.parse raw = .ok tree ↔ ∃ d : Document, raw = d.text ∧ d.tree = tree := by
  refine ⟨fun h ↦ ?_, fun ⟨d, htext, htree⟩ ↦ by rw [htext, d.parse_text, htree]⟩
  rw [Tree.parse, runReader] at h
  split at h
  · cases h
  next value rest hread =>
  split at h
  · next hend =>
    obtain ⟨before, value, htext, rfl, hshallow⟩ := reads_readTree _ _ hread
    obtain ⟨after, hafter⟩ := exists_space rest
    refine ⟨⟨⟨before, value, after⟩, hshallow⟩, ?_, Except.ok.inj h⟩
    rw [hend, List.append_nil] at hafter
    rw [Document.text, ← hafter, ← htext, String.ofList_toList]
  · cases h

end CitedChat.Json
