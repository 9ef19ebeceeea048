import CitedChat.Proofs.Chat.Submission

/-!
Who holds the session. A gate is used by any number of people at once: they try to enter, abort, and
give back the permits they hold, one after the other and in any order. The `Register` of a gate says
which permits are held and what was done. Each use keeps it sound (`Register.Sound.use`): at most
one permit is held, the gate is busy exactly then, the generation counts the entries and the aborts,
and the permit that is held is stale, and is cancelled, exactly if somebody aborted since it was
given.
-/

set_option autoImplicit false

namespace CitedChat

/-- In a new gate nothing is cancelled. -/
theorem Gate.nothing_cancelled : ∀ t ∈ ([] : List Nat), t ≤ 0 :=
  fun _ hmem ↦ absurd hmem List.not_mem_nil

/-- What people do at a gate. -/
inductive Gate.Use where
  | enter
  | abort
  /-- A permit is given back, by its place among those that are held. -/
  | leave (place : Nat)

/-- What was done at a gate. -/
inductive Gate.Record where
  | entered (permit : Permit)
  /-- Somebody found the gate busy. -/
  | refused
  | aborted
  | left (permit : Permit)
  deriving DecidableEq

/-- The permit that was given. -/
def Gate.Record.permit? : Gate.Record → Option Permit
  | .entered permit => some permit
  | _ => none

/-- A gate with its permits that are held and what was done at it, first things first. -/
structure Register where
  gate : Gate := { cancelled_le := Gate.nothing_cancelled }
  held : List Permit := []
  log : List Gate.Record := []

namespace Register

/-- All permits that were given. -/
def permits (r : Register) : List Permit :=
  r.log.filterMap Gate.Record.permit?

def use (r : Register) : Gate.Use → Register
  | .enter =>
    match r.gate.enter with
    | some (permit, gate) => ⟨gate, r.held ++ [permit], r.log ++ [.entered permit]⟩
    | none => { r with log := r.log ++ [.refused] }
  | .abort => { r with gate := r.gate.abort, log := r.log ++ [.aborted] }
  | .leave place =>
    match r.held[place]? with
    | some permit => ⟨r.gate.leave, r.held.eraseIdx place, r.log ++ [.left permit]⟩
    | none => r

def useAll (r : Register) (uses : List Gate.Use) : Register :=
  uses.foldl use r

variable {r : Register} {permit : Permit}

theorem use_enter_idle (hidle : r.gate.busy = false) :
    r.use .enter = ⟨r.gate.taken, r.held ++ [r.gate.nextPermit],
      r.log ++ [.entered r.gate.nextPermit]⟩ := by
  simp [use, Gate.enter, hidle]

theorem use_enter_busy (hbusy : r.gate.busy = true) :
    r.use .enter = { r with log := r.log ++ [.refused] } := by
  simp [use, Gate.enter, hbusy]

/-- The one who holds the session: the permit is the newest, and since it was given somebody aborted
exactly if it is stale, and exactly if it is cancelled. -/
structure HeldBy (r : Register) (permit : Permit) : Prop where
  busy : r.gate.busy = true
  held : r.held = [permit]
  token : permit.token = r.gate.token
  since : ∃ before after, r.log = before ++ .entered permit :: after ∧
    (r.gate.isStale permit = true ↔ .aborted ∈ after) ∧
    (r.gate.isCancelled permit = true ↔ .aborted ∈ after)

structure Sound (r : Register) : Prop where
  generation : r.gate.generation = r.permits.length + r.log.count .aborted
  le_generation : ∀ permit ∈ r.permits, permit.generation ≤ r.gate.generation
  increasing : (r.permits.map Permit.generation).Pairwise (· < ·)
  holder : r.gate.busy = false ∧ r.held = [] ∨ ∃ permit, r.HeldBy permit

theorem sound_new : Sound {} where
  generation := rfl
  le_generation := nofun
  increasing := .nil
  holder := .inl ⟨rfl, rfl⟩

/-! ### Each use -/

/-- What adds no permit and no abort to the log keeps its counts. -/
theorem Sound.of_log (h : r.Sound) {record : Gate.Record} (hpermit : record.permit? = none)
    (hother : record ≠ .aborted) {gate : Gate} (hgate : gate.generation = r.gate.generation)
    {held : List Permit}
    (hholder : gate.busy = false ∧ held = [] ∨
      ∃ permit, HeldBy ⟨gate, held, r.log ++ [record]⟩ permit) :
    Sound ⟨gate, held, r.log ++ [record]⟩ := by
  have hpermits : permits ⟨gate, held, r.log ++ [record]⟩ = r.permits := by
    simp [permits, hpermit]
  have haborts : (r.log ++ [record]).count .aborted = r.log.count .aborted := by
    simp [List.count_append, hother]
  refine ⟨?_, ?_, ?_, hholder⟩
  · rw [hpermits, haborts, hgate]
    exact h.generation
  · intro permit hmem
    rw [hpermits] at hmem
    rw [hgate]
    exact h.le_generation permit hmem
  · rw [hpermits]
    exact h.increasing

/-- A record that is no abort leaves it as it was whether somebody aborted. -/
theorem HeldBy.of_log (h : r.HeldBy permit) {record : Gate.Record} (hother : record ≠ .aborted) :
    HeldBy { r with log := r.log ++ [record] } permit := by
  obtain ⟨before, after, hlog, hstale, hcancelled⟩ := h.since
  have hsame : .aborted ∈ after ++ [record] ↔ .aborted ∈ after := by
    simp [hother.symm]
  refine ⟨h.busy, h.held, h.token, before, after ++ [record], ?_, ?_, ?_⟩
  · simp [hlog]
  · exact hstale.trans hsame.symm
  · exact hcancelled.trans hsame.symm

theorem Sound.enter (h : r.Sound) : (r.use .enter).Sound := by
  obtain ⟨hidle, hheld⟩ | ⟨permit, hpermit⟩ := h.holder
  · have hpermits : permits ⟨r.gate.taken, r.held ++ [r.gate.nextPermit],
        r.log ++ [.entered r.gate.nextPermit]⟩ = r.permits ++ [r.gate.nextPermit] := by
      simp [permits, Gate.Record.permit?]
    have hgeneration : r.gate.taken.generation = r.gate.generation + 1 := rfl
    rw [use_enter_idle hidle]
    refine ⟨?_, ?_, ?_, .inr ⟨r.gate.nextPermit, rfl, ?_, rfl, r.log, [], rfl, ?_, ?_⟩⟩
    · rw [hpermits, List.length_append, List.length_singleton, hgeneration, h.generation]
      simp only [List.count_append, List.count_singleton, beq_iff_eq, reduceCtorEq, if_false]
      omega
    · intro permit hmem
      rw [hpermits, List.mem_append, List.mem_singleton] at hmem
      obtain hmem | rfl := hmem
      · exact Nat.le_succ_of_le (h.le_generation permit hmem)
      · exact Nat.le_refl _
    · rw [hpermits, List.map_append, List.pairwise_append]
      refine ⟨h.increasing, List.pairwise_singleton _ _, ?_⟩
      intro earlier hearlier later hlater
      obtain ⟨permit, hmem, rfl⟩ := List.mem_map.1 hearlier
      obtain rfl : later = r.gate.generation + 1 := List.mem_singleton.1 hlater
      exact Nat.lt_succ_of_le (h.le_generation permit hmem)
    · rw [hheld]
      rfl
    · simp [r.gate.isStale_taken]
    · simp [r.gate.isCancelled_taken]
  · rw [use_enter_busy hpermit.busy]
    have hother : Gate.Record.refused ≠ .aborted := fun h ↦ by cases h
    exact h.of_log rfl hother rfl (.inr ⟨permit, hpermit.of_log hother⟩)

/-- An abort makes the permit that is held stale, and cancels it. -/
theorem HeldBy.abort (h : r.HeldBy permit) (hle : permit.generation ≤ r.gate.generation) :
    (r.use .abort).HeldBy permit := by
  obtain ⟨before, after, hlog, -, -⟩ := h.since
  have hmem : .aborted ∈ after ++ [Gate.Record.aborted] := by simp
  have hstale : r.gate.abort.isStale permit = true := by
    simp only [Gate.isStale, Gate.isCurrent, Gate.generation_abort, Bool.not_eq_true',
      beq_eq_false_iff_ne]
    omega
  have hcancelled : r.gate.abort.isCancelled permit = true := by
    simp [Gate.isCancelled, Gate.abort, h.token]
  refine ⟨h.busy, h.held, h.token, before, after ++ [.aborted], ?_, ?_, ?_⟩
  · simp [use, hlog]
  · exact iff_of_true hstale hmem
  · exact iff_of_true hcancelled hmem

theorem HeldBy.mem_permits (h : r.HeldBy permit) : permit ∈ r.permits := by
  obtain ⟨before, after, hlog, -, -⟩ := h.since
  rw [permits, hlog]
  simp [Gate.Record.permit?]

theorem Sound.abort (h : r.Sound) : (r.use .abort).Sound := by
  have hpermits : (r.use .abort).permits = r.permits := by
    simp [use, permits, Gate.Record.permit?]
  have hgeneration : (r.use .abort).gate.generation = r.gate.generation + 1 := rfl
  refine ⟨?_, ?_, ?_, ?_⟩
  · rw [hpermits, hgeneration, h.generation]
    simp only [use, List.count_append, List.count_singleton_self]
    omega
  · intro permit hmem
    rw [hpermits] at hmem
    exact Nat.le_succ_of_le (h.le_generation permit hmem)
  · rw [hpermits]
    exact h.increasing
  · obtain ⟨hidle, hheld⟩ | ⟨permit, hpermit⟩ := h.holder
    · exact .inl ⟨hidle, hheld⟩
    · exact .inr ⟨permit, hpermit.abort (h.le_generation permit hpermit.mem_permits)⟩

/-- Nobody holds the session once a permit is given back. -/
theorem Sound.held_leave (h : r.Sound) {place : Nat} (hplace : place < r.held.length) :
    (r.use (.leave place)).held = [] := by
  obtain ⟨-, hheld⟩ | ⟨permit, hpermit⟩ := h.holder
  · simp [hheld] at hplace
  · have hzero : place = 0 := by
      rw [hpermit.held, List.length_singleton] at hplace
      omega
    simp [use, hpermit.held, hzero]

theorem Sound.leave (h : r.Sound) (place : Nat) : (r.use (.leave place)).Sound := by
  cases hplace : r.held[place]? with
  | none =>
    simp only [use, hplace]
    exact h
  | some permit =>
    have hother : Gate.Record.left permit ≠ .aborted := fun h ↦ by cases h
    have hlast := h.held_leave (List.getElem?_eq_some_iff.1 hplace).1
    simp only [use, hplace] at hlast ⊢
    exact h.of_log rfl hother r.gate.generation_leave (.inl ⟨r.gate.busy_leave, hlast⟩)

theorem Sound.use (h : r.Sound) (use : Gate.Use) : (r.use use).Sound := by
  cases use with
  | enter => exact h.enter
  | abort => exact h.abort
  | leave place => exact h.leave place

theorem Sound.useAll (h : r.Sound) (uses : List Gate.Use) : (r.useAll uses).Sound := by
  induction uses generalizing r with
  | nil => exact h
  | cons use rest ih => exact ih (h.use use)

/-! ### What a sound register says -/

theorem Sound.length_held_le_one (h : r.Sound) : r.held.length ≤ 1 := by
  obtain ⟨-, hheld⟩ | ⟨permit, hpermit⟩ := h.holder
  · simp [hheld]
  · simp [hpermit.held]

theorem Sound.busy_iff (h : r.Sound) : r.gate.busy = true ↔ r.held.length = 1 := by
  obtain ⟨hidle, hheld⟩ | ⟨permit, hpermit⟩ := h.holder
  · simp [hidle, hheld]
  · simp [hpermit.busy, hpermit.held]

theorem Sound.heldBy (h : r.Sound) (hmem : permit ∈ r.held) : r.HeldBy permit := by
  obtain ⟨-, hheld⟩ | ⟨holder, hholder⟩ := h.holder
  · rw [hheld] at hmem
    cases hmem
  · rw [hholder.held, List.mem_singleton] at hmem
    rw [hmem]
    exact hholder

end Register

/-- A question that is not blank is refused because of another one exactly while the gate is
busy. -/
theorem World.submit_eq_busy_iff (w : World) {text : String} (htext : Text.isBlankText text = false)
    (mode : Mode) (transport : Transport) (limit abortAfter : Option Nat) :
    w.submit mode text transport limit abortAfter = .error .busy ↔ w.session.gate.busy = true := by
  cases hbusy : w.session.gate.busy with
  | false =>
    rw [submit_eq w mode htext hbusy]
    simp
  | true => simp [submit_of_error (w.beginTurn_of_busy htext hbusy limit abortAfter)]

namespace Register

/-- Only one submission holds the session. After every sequence of uses of a new gate at most one
permit is held, and the gate is busy exactly if one is. An entry is refused exactly then, as is a
question to a session behind the gate, and it changes neither the gate nor who holds it. The
generation is the number of entries and aborts so far, so that the generations given increase and
none is given twice. Since the permit that is held was given, somebody aborted exactly if it is
stale and exactly if its token is cancelled, whatever was aborted before. -/
theorem one_holder (uses : List Gate.Use) :
    let r := ({} : Register).useAll uses
    r.held.length ≤ 1 ∧
      (r.gate.busy = true ↔ r.held.length = 1) ∧
      (r.gate.enter = none ↔ r.held.length = 1) ∧
      (∀ w : World, w.session.gate = r.gate → ∀ text, Text.isBlankText text = false →
        ∀ mode transport limit abortAfter,
          w.submit mode text transport limit abortAfter = .error .busy ↔ r.held.length = 1) ∧
      (r.held.length = 1 → (r.use .enter).gate = r.gate ∧ (r.use .enter).held = r.held) ∧
      r.gate.generation = r.permits.length + r.log.count .aborted ∧
      (r.permits.map Permit.generation).Pairwise (· < ·) ∧
      ∀ permit ∈ r.held, ∃ before after, r.log = before ++ .entered permit :: after ∧
        (r.gate.isStale permit = true ↔ .aborted ∈ after) ∧
        (r.gate.isCancelled permit = true ↔ .aborted ∈ after) := by
  intro r
  have h : r.Sound := sound_new.useAll uses
  refine ⟨h.length_held_le_one, h.busy_iff, ?_, ?_, ?_, h.generation, h.increasing, ?_⟩
  · rw [r.gate.enter_eq_none_iff]
    exact h.busy_iff
  · intro w hgate text htext mode transport limit abortAfter
    rw [w.submit_eq_busy_iff htext, hgate]
    exact h.busy_iff
  · intro hheld
    rw [use_enter_busy (h.busy_iff.2 hheld)]
    exact ⟨rfl, rfl⟩
  · intro permit hmem
    exact (h.heldBy hmem).since

/-- The session is entered a second time, after an abort for nobody and one for the first holder. -/
theorem one_holder_entered_again :
    let r := ({} : Register).useAll [.abort, .enter, .enter, .abort, .leave 0, .enter]
    r.held = [⟨4, 2⟩] ∧ r.gate.enter = none ∧ r.gate.generation = 4 ∧
      r.permits = [⟨2, 1⟩, ⟨4, 2⟩] ∧
      ∃ before after, r.log = before ++ .entered ⟨4, 2⟩ :: after ∧
        (r.gate.isStale ⟨4, 2⟩ = true ↔ .aborted ∈ after) := by
  intro r
  obtain ⟨-, -, hrefused, -, -, hgeneration, -, hsince⟩ :=
    one_holder [.abort, .enter, .enter, .abort, .leave 0, .enter]
  obtain ⟨before, after, hlog, hstale, -⟩ := hsince ⟨4, 2⟩ List.mem_cons_self
  exact ⟨rfl, hrefused.2 rfl, hgeneration, rfl, before, after, hlog, hstale⟩

end Register

end CitedChat
