import CitedChat.Proofs.Wire.LegacyAcceptance

/-!
What the legacy protocol accepts as a reply. A turn is written as a map from its role to its
contents (`LegacyTurn.toTree`), and the decoders of turns and of lists of turns accept what is
written so and nothing else (`LegacyTurn.exact_decoder`, `LegacyTurn.exact_transcript`). A reply is
a text of such a value (`Protocol.decodeReply_legacy_eq_ok_iff`), and every turn and every list of
turns has one.
-/

set_option autoImplicit false

namespace CitedChat

open Json

namespace LegacyTurn

/-! ### Turns as they are written -/

def pairTree (pair : String × String) : Tree :=
  .array [.string pair.1, .string pair.2]

/-- A turn as it is written: a map from its role to its contents. -/
def toTree : LegacyTurn → Tree
  | .user text => .object [("User", .string text)]
  | .assistant text pairs =>
    .object [("Assistant", .array [.string text, .array (pairs.map pairTree)])]

theorem sorted_toTree (turn : LegacyTurn) : turn.toTree.sorted = turn.toTree := by
  cases turn with
  | user text => rfl
  | assistant text pairs =>
    simp [toTree, pairTree, Tree.sorted, Tree.sortedMembers, Tree.insertMember,
      Tree.sortedItems_eq, Function.comp_def]

theorem readable_toTree (depth : Nat) (written : LegacyTurn) :
    written.toTree.Readable (depth + 4) := by
  cases written with
  | user text => exact .object (List.forall_mem_singleton.2 (.string text))
  | assistant text pairs =>
    have hpair (pair : String × String) : (pairTree pair).Readable (depth + 1) := by
      refine .array fun item hitem ↦ ?_
      obtain rfl | rfl : item = .string pair.1 ∨ item = .string pair.2 := by simpa using hitem
      · exact .string _
      · exact .string _
    have hpairs : (Tree.array (pairs.map pairTree)).Readable (depth + 2) :=
      .array (List.forall_mem_map.2 fun pair _ ↦ hpair pair)
    refine .object (List.forall_mem_singleton.2 (.array fun item hitem ↦ ?_))
    obtain rfl | rfl : item = .string text ∨ item = .array (pairs.map pairTree) := by
      simpa using hitem
    · exact .string _
    · exact hpairs

/-- A turn can be written in a reply, and so can a list of turns. -/
theorem exists_document (written : LegacyTurn) : ∃ d : Document, d.tree = written.toTree := by
  obtain ⟨d, -, htree⟩ := Tree.parse_eq_ok_iff.1 (Tree.parse_text (written.readable_toTree 123))
  exact ⟨d, htree.trans written.sorted_toTree⟩

theorem exists_documentOfAll (written : List LegacyTurn) :
    ∃ d : Document, d.tree = .array (written.map toTree) := by
  have hreadable : (Tree.array (written.map toTree)).Readable depthLimit :=
    .array (List.forall_mem_map.2 fun turn _ ↦ turn.readable_toTree 122)
  obtain ⟨d, -, htree⟩ := Tree.parse_eq_ok_iff.1 (Tree.parse_text hreadable)
  have hsorted : Tree.sorted ∘ toTree = toTree := funext sorted_toTree
  rw [Tree.sorted_array, List.map_map, hsorted] at htree
  exact ⟨d, htree⟩

/-! ### Decoding -/

theorem exact_pairs : (Decoder.pair .string .string).list.Exact fun pairs tree ↦
    tree = .array (pairs.map pairTree) := by
  intro tree pairs
  have hlist := LegacyPayload.exact_source.list_of_write (fun tree ↦ tree) pairTree tree pairs
  rw [hlist]
  constructor
  · rintro ⟨items, rfl, hitems⟩
    rw [← hitems, List.map_id']
  · rintro rfl
    exact ⟨_, rfl, List.map_id' _⟩

/-- The decoder accepts a tree as the turn that is written there, and no other trees. -/
theorem exact_decoder : decoder.Exact fun turn tree ↦ tree.sorted = turn.toTree := by
  intro tree turn
  constructor
  · intro hread
    obtain ⟨key, contents, a, htree, hknown, hcontents⟩ :=
      Decoder.ofTree_alternatives_eq_ok (by simp [Decoder.holding, Decoder.holdingTuple]) hread
    have hsorted : contents.sorted = contents := by
      have hsame := tree.sorted_sorted
      rw [htree, Tree.sorted_single] at hsame
      simpa using hsame
    rw [htree]
    rw [← hsorted] at hcontents
    obtain heq | hmem := List.mem_cons.1 hknown
    · cases heq
      obtain ⟨text, rfl, rfl⟩ := (Decoder.exact_string.map user contents turn).1 hcontents
      rfl
    · cases List.mem_singleton.1 hmem
      obtain ⟨items, ⟨text, pairs, ⟨⟩⟩, rfl, -, hlists, rfl⟩ :=
        (Decoder.exact_holdingTuple _ _ _ contents turn).1 hcontents
      obtain ⟨_, _, rfl, rfl, rfl⟩ :=
        (Decoder.exact_string.lists_iff exact_pairs rfl rfl _ _ items text pairs).1 hlists
      rfl
  · intro htree
    rw [htree]
    cases turn with
    | user text => rfl
    | assistant text pairs =>
      exact Turn.ofTree_decoderWith _ user assistant text
        (Decoder.ofItems_map _ fun pair _ ↦ ofTree_pair .whole pair)

/-- So it is with lists of turns. -/
theorem exact_transcript : decoder.list.Exact fun turns tree ↦
    tree.sorted = .array (turns.map toTree) := by
  intro tree turns
  have hlist := exact_decoder.list_of_write Tree.sorted toTree tree turns
  rw [hlist]
  constructor
  · rintro ⟨items, rfl, hitems⟩
    rw [Tree.sorted_array, hitems]
  · intro htree
    cases tree with
    | array items =>
      rw [Tree.sorted_array] at htree
      exact ⟨items, rfl, Tree.array.inj htree⟩
    | _ => simp [Tree.sorted] at htree

end LegacyTurn

/-! ### Replies -/

namespace Protocol

theorem decode_eq_ok_iff {α : Type} (decoder : Decoder α) (tree : Tree) (f : α → Reply)
    (reply : Reply) : decodeReply.decode decoder tree f = .ok reply ↔
      ∃ x, decoder.decode tree = .ok x ∧ f x = reply := by
  rw [decodeReply.decode]
  cases decoder.decode tree <;> simp [Except.map, Except.mapError]

/-- A legacy reply is a turn or a list of turns, as they are written. -/
theorem decodeReply_legacy_eq_ok_iff (earlier : Nat) (raw : String) (reply : Reply) :
    decodeReply .legacy earlier raw = .ok reply ↔ ∃ d : Document, raw = d.text ∧
      ((∃ written : LegacyTurn, d.tree = written.toTree ∧
          reply = .turn (written.upgrade earlier)) ∨
        ∃ written : List LegacyTurn, d.tree = .array (written.map LegacyTurn.toTree) ∧
          reply = .transcript (LegacyTurn.upgradeAll 0 written)) := by
  constructor
  · intro hreply
    cases hparse : Tree.parse raw with
    | error e => simp [decodeReply, hparse] at hreply
    | ok tree =>
      obtain ⟨d, rfl, rfl⟩ := Tree.parse_eq_ok_iff.1 hparse
      refine ⟨d, rfl, ?_⟩
      rw [decodeReply, hparse] at hreply
      cases htree : d.tree with
      | array items =>
        rw [htree] at hreply
        obtain ⟨written, hwritten, rfl⟩ := (decode_eq_ok_iff _ _ _ _).1 hreply
        rw [← htree] at hwritten ⊢
        exact .inr ⟨written, (LegacyTurn.exact_transcript d.value.tree written).1 hwritten, rfl⟩
      | object members =>
        rw [htree] at hreply
        obtain ⟨written, hwritten, rfl⟩ := (decode_eq_ok_iff _ _ _ _).1 hreply
        rw [← htree] at hwritten ⊢
        exact .inl ⟨written, (LegacyTurn.exact_decoder d.value.tree written).1 hwritten, rfl⟩
      | _ =>
        rw [htree] at hreply
        cases hreply
  · rintro ⟨d, rfl, ⟨written, htree, rfl⟩ | ⟨written, htree, rfl⟩⟩
    · have hdecode : LegacyTurn.decoder.decode d.tree = .ok written :=
        (LegacyTurn.exact_decoder d.value.tree written).2 htree
      obtain ⟨members, hobject⟩ : ∃ members, d.tree = .object members := by
        rw [htree]
        cases written <;> exact ⟨_, rfl⟩
      rw [decodeReply, d.parse_text]
      rw [hobject] at hdecode ⊢
      exact (decode_eq_ok_iff _ _ _ _).2 ⟨_, hdecode, rfl⟩
    · have hdecode : LegacyTurn.decoder.list.decode d.tree = .ok written :=
        (LegacyTurn.exact_transcript d.value.tree written).2 htree
      rw [decodeReply, d.parse_text]
      rw [htree] at hdecode ⊢
      exact (decode_eq_ok_iff _ _ _ _).2 ⟨_, hdecode, rfl⟩

end Protocol

end CitedChat
