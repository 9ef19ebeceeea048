import CitedChat.Proofs.Chat.Appending
import CitedChat.Wire.Reply

/-!
Numbered transcripts. In a numbered transcript the ordinals count the sources of all turns from one
on, and the rank of a source is its place in its own turn (`Numbered`). A turn may follow a numbered
transcript if its sources count on from there (`numbered_append_iff`); what the legacy protocol
makes of a turn or of a whole transcript does so (`numberedFrom_upgrade`, `numbered_upgradeAll`). In
a numbered transcript no ordinal occurs twice, and looking an ordinal up finds the source at its
place (`Numbered.findSource?`).
-/

set_option autoImplicit false

namespace CitedChat

/-- Sources of one turn that count on from `earlier` ones. -/
def NumberedFrom (earlier : Nat) (sources : List Source) : Prop :=
  ∀ (k : Nat) (source : Source), sources[k]? = some source →
    source.ordinal = earlier + k + 1 ∧ source.index = k

structure Numbered (turns : List Turn) : Prop where
  ordinal : ∀ (k : Nat) (source : Source), (allSources turns)[k]? = some source →
    source.ordinal = k + 1
  index : ∀ turn ∈ turns, ∀ (k : Nat) (source : Source), turn.sources[k]? = some source →
    source.index = k

theorem numbered_nil : Numbered [] where
  ordinal := fun _ _ h ↦ by cases h
  index := fun _ h ↦ by cases h

theorem numberedFrom_nil (earlier : Nat) : NumberedFrom earlier [] :=
  fun _ _ h ↦ by cases h

/-- Ordinals that follow each other are those of the places. -/
theorem ordinals_eq_range'_iff (earlier : Nat) (sources : List Source) :
    sources.map Source.ordinal = List.range' (earlier + 1) sources.length ↔
      ∀ (k : Nat) (source : Source), sources[k]? = some source →
        source.ordinal = earlier + k + 1 := by
  constructor
  · intro hordinals k source hat
    have hbound := (List.getElem?_eq_some_iff.1 hat).1
    have hordinal : (sources.map Source.ordinal)[k]? =
        (List.range' (earlier + 1) sources.length)[k]? := congrArg (·[k]?) hordinals
    rw [List.getElem?_map, hat, List.getElem?_range' hbound] at hordinal
    have hvalue := Option.some.inj hordinal
    omega
  · intro hordinals
    refine List.ext_getElem (by simp) fun k hbound _ ↦ ?_
    rw [List.length_map] at hbound
    rw [List.getElem_map, List.getElem_range', hordinals k _ (List.getElem?_eq_getElem hbound)]
    omega

/-! ### Turn by turn -/

/-- A transcript is numbered on by a turn whose sources count on from those before. -/
theorem numbered_append_iff (turns : List Turn) (turn : Turn) :
    Numbered (turns ++ [turn]) ↔
      Numbered turns ∧ NumberedFrom (sourceCount turns) turn.sources := by
  have hall : allSources (turns ++ [turn]) = allSources turns ++ turn.sources := by
    rw [allSources_append]
    exact congrArg _ (List.append_nil _)
  have hlength := length_allSources turns
  constructor
  · intro hnumbered
    refine ⟨⟨fun k source hat ↦ ?_, fun other hmem ↦ ?_⟩, fun k source hat ↦ ⟨?_, ?_⟩⟩
    · have hbound := (List.getElem?_eq_some_iff.1 hat).1
      refine hnumbered.ordinal k source ?_
      rw [hall, List.getElem?_append_left hbound]
      exact hat
    · exact hnumbered.index other (List.mem_append_left _ hmem)
    · refine hnumbered.ordinal (sourceCount turns + k) source ?_
      rw [hall, List.getElem?_append_right (by omega), ← hat]
      congr 1
      omega
    · have hmem : turn ∈ turns ++ [turn] := List.mem_append_right _ (List.mem_singleton_self turn)
      exact hnumbered.index turn hmem k source hat
  · rintro ⟨hnumbered, hturn⟩
    refine ⟨fun k source hat ↦ ?_, fun other hmem ↦ ?_⟩
    · rw [hall] at hat
      by_cases hbound : k < (allSources turns).length
      · rw [List.getElem?_append_left hbound] at hat
        exact hnumbered.ordinal k source hat
      · rw [List.getElem?_append_right (by omega)] at hat
        have hordinal := (hturn _ source hat).1
        omega
    · obtain hmem | hmem := List.mem_append.1 hmem
      · exact hnumbered.index other hmem
      · rw [List.mem_singleton.1 hmem]
        exact fun k source hat ↦ (hturn k source hat).2

/-! ### What the legacy protocol numbers -/

theorem getElem?_number (earlier seen : Nat) (pairs : List (String × String)) (k : Nat) :
    (LegacyTurn.number earlier seen pairs)[k]? =
      (pairs[k]?).map (legacySource earlier (seen + k)) := by
  induction pairs generalizing seen k with
  | nil => rfl
  | cons pair rest ih =>
    cases k with
    | zero => rfl
    | succ k =>
      rw [LegacyTurn.number, List.getElem?_cons_succ, List.getElem?_cons_succ, ih]
      congr 2
      omega

theorem length_number (earlier seen : Nat) (pairs : List (String × String)) :
    (LegacyTurn.number earlier seen pairs).length = pairs.length := by
  induction pairs generalizing seen with
  | nil => rfl
  | cons pair rest ih => exact congrArg (· + 1) (ih _)

/-- Sources of a turn go on being numbered when pairs are numbered behind them. -/
theorem NumberedFrom.append_number {earlier : Nat} {sources : List Source}
    (hnumbered : NumberedFrom earlier sources) (pairs : List (String × String)) :
    NumberedFrom earlier (sources ++ LegacyTurn.number earlier sources.length pairs) := by
  intro k source hat
  by_cases hbound : k < sources.length
  · rw [List.getElem?_append_left hbound] at hat
    exact hnumbered k source hat
  · rw [List.getElem?_append_right (by omega), getElem?_number, Option.map_eq_some_iff] at hat
    obtain ⟨pair, -, rfl⟩ := hat
    have hplace : sources.length + (k - sources.length) = k := by omega
    rw [hplace]
    exact ⟨rfl, rfl⟩

theorem numberedFrom_upgrade (earlier : Nat) (turn : LegacyTurn) :
    NumberedFrom earlier (turn.upgrade earlier).sources := by
  cases turn with
  | user text => exact numberedFrom_nil earlier
  | assistant text pairs => exact (numberedFrom_nil earlier).append_number pairs

/-- Legacy turns are numbered on from a numbered transcript. -/
theorem Numbered.append_upgradeAll {before : List Turn} (hnumbered : Numbered before)
    (turns : List LegacyTurn) :
    Numbered (before ++ LegacyTurn.upgradeAll (sourceCount before) turns) := by
  induction turns generalizing before with
  | nil =>
    rw [LegacyTurn.upgradeAll, List.append_nil]
    exact hnumbered
  | cons turn rest ih =>
    have hnext := (numbered_append_iff before (turn.upgrade (sourceCount before))).2
      ⟨hnumbered, numberedFrom_upgrade _ turn⟩
    have hcount : sourceCount (before ++ [turn.upgrade (sourceCount before)]) =
        sourceCount before + (turn.upgrade (sourceCount before)).sources.length := by
      rw [sourceCount_append, sourceCount_cons]
      rfl
    have hrest := ih hnext
    rw [hcount, List.append_assoc] at hrest
    exact hrest

theorem numbered_upgradeAll (turns : List LegacyTurn) : Numbered (LegacyTurn.upgradeAll 0 turns) :=
  numbered_nil.append_upgradeAll turns

/-! ### Looking sources up -/

namespace Numbered

variable {turns : List Turn}

theorem ordinals (hnumbered : Numbered turns) :
    (allSources turns).map Source.ordinal = List.range' 1 (sourceCount turns) := by
  rw [← length_allSources, ordinals_eq_range'_iff 0]
  intro k source hat
  rw [hnumbered.ordinal k source hat, Nat.zero_add]

theorem nodup_ordinals (hnumbered : Numbered turns) :
    ((allSources turns).map Source.ordinal).Nodup := by
  rw [hnumbered.ordinals]
  exact List.nodup_range'

/-- An ordinal leads to the source at its place, and other numbers lead nowhere. -/
theorem findSource? (hnumbered : Numbered turns) (ordinal : Nat) :
    (⟨turns⟩ : Conversation).findSource? ordinal =
      if 1 ≤ ordinal ∧ ordinal ≤ sourceCount turns then (allSources turns)[ordinal - 1]?
      else none := by
  rw [Conversation.findSource?_eq]
  have hlength := length_allSources turns
  -- An ordinal tells the place, so it makes no difference that the search is from the back.
  have hfound : ∀ source ∈ (allSources turns).reverse, source.ordinal = ordinal →
      1 ≤ ordinal ∧ ordinal ≤ sourceCount turns ∧
        (allSources turns)[ordinal - 1]? = some source := by
    intro source hmem hordinal
    obtain ⟨k, hat⟩ := List.mem_iff_getElem?.1 (List.mem_reverse.1 hmem)
    have hbound := (List.getElem?_eq_some_iff.1 hat).1
    have hplace := hnumbered.ordinal k source hat
    refine ⟨by omega, by omega, ?_⟩
    rw [show ordinal - 1 = k by omega]
    exact hat
  cases hsearch : (allSources turns).reverse.find? (·.ordinal == ordinal) with
  | some source =>
    have hmem := List.mem_of_find?_eq_some hsearch
    have hmatch := List.find?_some hsearch
    have hordinal : source.ordinal = ordinal := beq_iff_eq.1 hmatch
    obtain ⟨hlower, hupper, hat⟩ := hfound source hmem hordinal
    rw [if_pos ⟨hlower, hupper⟩, hat]
  | none =>
    split
    · next hrange =>
      have hbound : ordinal - 1 < (allSources turns).length := by omega
      have hat := List.getElem?_eq_getElem hbound
      have hplace := hnumbered.ordinal _ _ hat
      have hmiss := List.find?_eq_none.1 hsearch (allSources turns)[ordinal - 1]
        (List.mem_reverse.2 (List.getElem_mem hbound))
      refine absurd (beq_iff_eq.2 ?_) hmiss
      omega
    · rfl

end Numbered

end CitedChat
