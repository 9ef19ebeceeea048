import Mathlib.Data.List.DropRight
import CitedChat.Text.Characters

/-!
What trimming leaves of a text. A text is what is left of it between white space
(`exists_trimList`), and whatever has white space at neither end is left if white space is put
around it (`trimList_append`).
-/

set_option autoImplicit false

namespace CitedChat.Text

theorem trimEndList_eq (cs : List Char) : trimEndList cs = cs.rdropWhile isBlank := rfl

/-- What is trimmed begins with no white space. -/
theorem trimStartList_trimList (cs : List Char) : trimStartList (trimList cs) = trimList cs := by
  have hpart : trimList cs <+: trimStartList cs := by
    rw [trimList, trimEndList_eq]
    exact List.rdropWhile_prefix isBlank _
  rw [trimStartList, List.dropWhile_eq_self_iff]
  intro hlength
  rw [hpart.getElem hlength]
  exact List.dropWhile_get_zero_not isBlank cs (hlength.trans_le hpart.length_le)

/-- Trimming twice is trimming once. -/
theorem trimList_trimList (cs : List Char) : trimList (trimList cs) = trimList cs := by
  rw [trimList, trimStartList_trimList, trimList, trimEndList_eq, trimEndList_eq,
    List.rdropWhile_idempotent]

theorem exists_trimList (cs : List Char) :
    ∃ before after, (∀ c ∈ before, isBlank c = true) ∧ (∀ c ∈ after, isBlank c = true) ∧
      cs = before ++ (trimList cs ++ after) := by
  refine ⟨cs.takeWhile isBlank, (trimStartList cs).rtakeWhile isBlank,
    fun c hc ↦ List.mem_takeWhile_imp hc, fun c hc ↦ List.mem_rtakeWhile_imp hc, ?_⟩
  rw [trimList, trimEndList_eq, List.rdropWhile_append_rtakeWhile, trimStartList,
    List.takeWhile_append_dropWhile]

theorem trimEndList_append {cs after : List Char} (hafter : ∀ c ∈ after, isBlank c = true) :
    trimEndList (cs ++ after) = trimEndList cs := by
  rw [trimEndList, trimEndList, List.reverse_append,
    List.dropWhile_append_of_pos fun c hc ↦ hafter c (List.mem_reverse.1 hc)]

theorem trimList_append {before inner after : List Char} (hinner : trimList inner = inner)
    (hsome : inner ≠ []) (hbefore : ∀ c ∈ before, isBlank c = true)
    (hafter : ∀ c ∈ after, isBlank c = true) :
    trimList (before ++ (inner ++ after)) = inner := by
  have hstart : inner.dropWhile isBlank = inner := by
    have htrim := trimStartList_trimList inner
    rwa [hinner] at htrim
  have hfirst : trimStartList (before ++ (inner ++ after)) = inner ++ after := by
    rw [trimStartList, List.dropWhile_append_of_pos hbefore, List.dropWhile_append, hstart,
      if_neg (by simpa using hsome)]
  have hend : trimEndList inner = inner := by
    rwa [trimList, trimStartList, hstart] at hinner
  rw [trimList, hfirst, trimEndList_append hafter, hend]

end CitedChat.Text
