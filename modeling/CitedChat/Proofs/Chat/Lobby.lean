import CitedChat.Proofs.Chat.Register

/-!
Waiting until the session is idle. A wait goes step by step: it makes a notification, looks whether
the gate is busy, and either returns or parks until it is notified; a bounded wait looks once before
and may expire while it is parked. Whoever leaves the session clears the gate and then notifies all
notifications made so far. Between any two of these steps anybody else may move (`Lobby.move`), but
nobody enters while somebody is half gone.

What keeps a wait from being lost is that the notification is made before the look: a wait that has
found the gate busy and has not been notified is there only while the session is held
(`Lobby.Sound`). So nobody is left waiting once it is not (`Lobby.Sound.returns`), whoever learns
that the session is idle learns it at a moment when it is (`Lobby.Sound.exists_idle`), and a wait
that expires has seen nobody leave (`Lobby.Sound.held_of_expired`).
-/

set_option autoImplicit false

namespace CitedChat

/-- How far a wait for idleness has got. -/
inductive Wait where
  /-- A bounded wait has not looked at the gate yet. -/
  | called
  | begun
  /-- The notification is made. -/
  | listening (notified : Bool)
  /-- The gate was found busy. -/
  | looked (notified : Bool)
  | parked (notified : Bool)
  | returned
  /-- The time of a bounded wait was over. -/
  | expired
  deriving DecidableEq

namespace Wait

/-- The next step of a wait, which may depend on whether the gate is busy. -/
def next (busy : Bool) : Wait → Wait
  | .called => if busy then .begun else .returned
  | .begun => .listening false
  | .listening notified => if busy then .looked notified else .returned
  | .looked notified => .parked notified
  | .parked notified => if notified then .returned else .parked false
  | .returned => .returned
  | .expired => .expired

/-- A notification reaches a wait once it is made, whether anybody looks at it or not. -/
def notify : Wait → Wait
  | .listening _ => .listening true
  | .looked _ => .looked true
  | .parked _ => .parked true
  | wait => wait

/-- A wait is notified, or it has returned. -/
def Knows : Wait → Prop
  | .listening notified | .looked notified | .parked notified => notified = true
  | .returned => True
  | _ => False

/-- A notification is made and has not been notified. -/
def Listens : Wait → Prop
  | .listening notified | .looked notified | .parked notified => notified = false
  | _ => False

/-- The gate was found busy. -/
def FoundBusy : Wait → Prop
  | .looked _ | .parked _ => True
  | _ => False

/-- Nobody finds the gate busy but while it is. -/
theorem busy_or_foundBusy {busy : Bool} {wait : Wait} (hfound : (wait.next busy).FoundBusy)
    (hlistens : (wait.next busy).Listens) : busy = true ∨ wait.FoundBusy ∧ wait.Listens := by
  cases wait with
  | called => cases busy <;> exact hfound.elim
  | begun => exact hfound.elim
  | listening notified =>
    cases busy with
    | true => exact .inl rfl
    | false => exact hfound.elim
  | looked notified => exact .inr ⟨trivial, hlistens⟩
  | parked notified =>
    cases notified with
    | true => exact hfound.elim
    | false => exact .inr ⟨trivial, rfl⟩
  | returned => exact hfound.elim
  | expired => exact hfound.elim

theorem not_listens_notify (wait : Wait) : ¬ wait.notify.Listens := by
  cases wait <;> simp [notify, Listens]

/-- A step lets a wait know that the session is idle only while it is. -/
theorem idle_of_knows {busy : Bool} {wait : Wait} (hnot : ¬ wait.Knows)
    (hknows : (wait.next busy).Knows) : busy = false := by
  cases busy with
  | false => rfl
  | true =>
    cases wait with
    | parked notified =>
      cases notified with
      | true => exact absurd rfl hnot
      | false => exact absurd hknows Bool.false_ne_true
    | called => exact hknows.elim
    | begun => exact absurd hknows Bool.false_ne_true
    | _ => exact absurd hknows hnot

/-- While nobody can be found at the gate, a wait is over after two steps, unless it found the gate
busy before and has not been notified. -/
theorem next_next {wait : Wait} (hheard : wait.FoundBusy → ¬ wait.Listens)
    (htime : wait ≠ .expired) : (wait.next false).next false = .returned := by
  cases wait with
  | looked notified =>
    cases notified with
    | true => rfl
    | false => exact absurd rfl (hheard trivial)
  | parked notified =>
    cases notified with
    | true => rfl
    | false => exact absurd rfl (hheard trivial)
  | expired => exact absurd rfl htime
  | _ => rfl

/-- What is past stays past: a wait that knows does not listen any more. -/
theorem knows_next {busy : Bool} {wait : Wait} (hknows : wait.Knows) :
    (wait.next busy).Knows := by
  cases wait with
  | listening notified =>
    cases busy with
    | true => exact hknows
    | false => trivial
  | parked notified =>
    cases notified with
    | true => trivial
    | false => exact hknows
  | looked notified => exact hknows
  | returned => trivial
  | called => exact hknows.elim
  | begun => exact hknows.elim
  | expired => exact hknows.elim

theorem knows_notify {wait : Wait} (h : wait.Listens ∨ wait.Knows) : wait.notify.Knows := by
  cases wait <;> simp_all [notify, Knows, Listens]

theorem listens_or_knows_next {busy : Bool} {wait : Wait} (hlistens : wait.Listens) :
    (wait.next busy).Listens ∨ (wait.next busy).Knows := by
  cases wait with
  | listening notified =>
    cases busy with
    | true => exact .inl hlistens
    | false => exact .inr trivial
  | looked notified => exact .inl hlistens
  | parked notified =>
    obtain rfl : notified = false := hlistens
    exact .inl rfl
  | _ => exact hlistens.elim

theorem not_knows_of_listens {wait : Wait} (hlistens : wait.Listens) : ¬ wait.Knows := by
  cases wait <;> simp_all [Knows, Listens]

/-- No step and no notification lets a wait expire. -/
theorem expired_of_next {busy : Bool} {wait : Wait} (hexpired : wait.next busy = .expired) :
    wait = .expired := by
  cases wait with
  | expired => rfl
  | parked notified => cases notified <;> cases hexpired
  | _ => cases busy <;> cases hexpired

theorem expired_of_notify {wait : Wait} (hexpired : wait.notify = .expired) : wait = .expired := by
  cases wait with
  | expired => rfl
  | _ => cases hexpired

end Wait

structure Waiter where
  bounded : Bool
  stage : Wait
  deriving DecidableEq

namespace Waiter

def go (busy : Bool) (x : Waiter) : Waiter :=
  { x with stage := x.stage.next busy }

def notify (x : Waiter) : Waiter :=
  { x with stage := x.stage.notify }

/-- Only a bounded wait that is parked and has not been notified expires. -/
def expire (x : Waiter) : Waiter :=
  if x.bounded = true ∧ x.stage = .parked false then { x with stage := .expired } else x

end Waiter

/-- A gate and those who wait until nobody holds it. -/
structure Lobby where
  register : Register := {}
  /-- Somebody has cleared the gate and has not notified yet. -/
  leaving : Bool := false
  /-- How many have left. -/
  releases : Nat := 0
  waiters : List Waiter := []

namespace Lobby

inductive Move where
  | enter
  | abort
  /-- The first half of leaving, by the place of the permit among those that are held. -/
  | clear (place : Nat)
  /-- The second half of leaving. -/
  | notify
  /-- Somebody comes to wait. -/
  | come (bounded : Bool)
  /-- One who waits takes a step. -/
  | go (place : Nat)
  /-- The time of one who waits is over. -/
  | expire (place : Nat)
  deriving DecidableEq

def busy (l : Lobby) : Bool :=
  l.register.gate.busy

/-- Somebody holds the session, or is half gone. -/
def IsHeld (l : Lobby) : Prop :=
  l.register.held ≠ [] ∨ l.leaving = true

/-- Makes a move; one that cannot be made now changes nothing. -/
def move (l : Lobby) : Move → Lobby
  | .enter => if l.leaving then l else { l with register := l.register.use .enter }
  | .abort => { l with register := l.register.use .abort }
  | .clear place =>
    if place < l.register.held.length then
      { l with register := l.register.use (.leave place), leaving := true }
    else l
  | .notify =>
    if l.leaving then
      { l with
        leaving := false, releases := l.releases + 1, waiters := l.waiters.map Waiter.notify }
    else l
  | .come bounded =>
    { l with waiters := l.waiters ++ [⟨bounded, if bounded then .called else .begun⟩] }
  | .go place => { l with waiters := l.waiters.modify place (Waiter.go l.busy) }
  | .expire place => { l with waiters := l.waiters.modify place Waiter.expire }

def moveAll (l : Lobby) (moves : List Move) : Lobby :=
  moves.foldl move l

/-- The lobby of a new session after moves. -/
def after (moves : List Move) : Lobby :=
  ({} : Lobby).moveAll moves

theorem moveAll_append (l : Lobby) (first second : List Move) :
    l.moveAll (first ++ second) = (l.moveAll first).moveAll second :=
  List.foldl_append

theorem after_append (first second : List Move) :
    after (first ++ second) = (after first).moveAll second :=
  moveAll_append _ _ _

/-! ### What a move does to the session -/

/-- What a move may come to, apart from what it does to those who wait. -/
inductive Comes (l : Lobby) : Lobby → Prop
  /-- Nothing happens, or somebody comes to wait or goes on waiting. -/
  | waits (waiters : List Waiter) : Comes l { l with waiters }
  | enters (hstays : l.leaving = false) : Comes l { l with register := l.register.use .enter }
  | aborts : Comes l { l with register := l.register.use .abort }
  | clears {place : Nat} (hplace : place < l.register.held.length) :
      Comes l { l with register := l.register.use (.leave place), leaving := true }
  | notifies (hleaving : l.leaving = true) :
      Comes l { l with
        leaving := false, releases := l.releases + 1, waiters := l.waiters.map Waiter.notify }

theorem comes_move (l : Lobby) (move : Move) : Comes l (l.move move) := by
  cases move with
  | enter =>
    rw [Lobby.move]
    split
    · exact .waits l.waiters
    · next hstays => exact .enters (Bool.eq_false_iff.2 hstays)
  | abort => exact .aborts
  | clear place =>
    rw [Lobby.move]
    split
    · next hplace => exact .clears hplace
    · exact .waits l.waiters
  | notify =>
    rw [Lobby.move]
    split
    · next hleaving => exact .notifies hleaving
    · exact .waits l.waiters
  | come bounded => exact .waits _
  | go place => exact .waits _
  | expire place => exact .waits _

/-! ### What a move does to one who waits -/

/-- What a move may come to for one who waits. -/
inductive Turns (l m : Lobby) (x : Waiter) : Waiter → Prop
  | stays (hreleases : m.releases = l.releases) : Turns l m x x
  | goes (hreleases : m.releases = l.releases) : Turns l m x (x.go l.busy)
  | notified (hleaving : l.leaving = true) : Turns l m x x.notify
  | expired (hreleases : m.releases = l.releases) (hbounded : x.bounded = true)
      (hparked : x.stage = .parked false) : Turns l m x { x with stage := .expired }

variable {l : Lobby} {x y z : Waiter} {place : Nat}

theorem turns_move (hx : l.waiters[place]? = some x) (move : Move) :
    ∃ y, (l.move move).waiters[place]? = some y ∧ Turns l (l.move move) x y := by
  cases move with
  | enter =>
    rw [Lobby.move]
    split
    · exact ⟨x, hx, .stays rfl⟩
    · exact ⟨x, hx, .stays rfl⟩
  | abort => exact ⟨x, hx, .stays rfl⟩
  | clear permit =>
    rw [Lobby.move]
    split
    · exact ⟨x, hx, .stays rfl⟩
    · exact ⟨x, hx, .stays rfl⟩
  | notify =>
    cases hleaving : l.leaving with
    | true =>
      refine ⟨x.notify, ?_, .notified hleaving⟩
      simp [Lobby.move, hleaving, hx]
    | false =>
      have hsame : l.move .notify = l := by simp [Lobby.move, hleaving]
      rw [hsame]
      exact ⟨x, hx, .stays rfl⟩
  | come bounded =>
    have hplace : place < l.waiters.length := (List.getElem?_eq_some_iff.1 hx).1
    exact ⟨x, (List.getElem?_append_left hplace).trans hx, .stays rfl⟩
  | go other =>
    by_cases hplace : other = place
    · exact ⟨x.go l.busy, by simp [Lobby.move, hplace, hx], .goes rfl⟩
    · exact ⟨x, by simp [Lobby.move, hplace, hx], .stays rfl⟩
  | expire other =>
    by_cases hplace : other = place
    · refine ⟨x.expire, by simp [Lobby.move, hplace, hx], ?_⟩
      by_cases hexpires : x.bounded = true ∧ x.stage = .parked false
      · rw [Waiter.expire, if_pos hexpires]
        exact .expired rfl hexpires.1 hexpires.2
      · rw [Waiter.expire, if_neg hexpires]
        exact .stays rfl
    · exact ⟨x, by simp [Lobby.move, hplace, hx], .stays rfl⟩

/-- How many a move brings. -/
def Move.newcomers : Move → Nat
  | .come _ => 1
  | _ => 0

theorem length_move (l : Lobby) (move : Move) :
    (l.move move).waiters.length = l.waiters.length + move.newcomers := by
  cases move with
  | enter => rw [Lobby.move]; split <;> rfl
  | abort => rfl
  | clear permit => rw [Lobby.move]; split <;> rfl
  | notify =>
    rw [Lobby.move]
    split
    · exact List.length_map _
    · rfl
  | come bounded => exact List.length_append
  | go other => exact List.length_modify _ _ _
  | expire other => exact List.length_modify _ _ _

/-- Nobody is there who has not come to begin a wait. -/
theorem of_move {move : Move} (hy : (l.move move).waiters[place]? = some y) :
    (∃ x, l.waiters[place]? = some x ∧ Turns l (l.move move) x y) ∨
      y.stage = .called ∨ y.stage = .begun := by
  cases hx : l.waiters[place]? with
  | some x =>
    obtain ⟨z, hz, hturns⟩ := turns_move hx move
    obtain rfl : z = y := Option.some.inj (hz.symm.trans hy)
    exact .inl ⟨x, rfl, hturns⟩
  | none =>
    have hlength : l.waiters.length ≤ place := List.getElem?_eq_none_iff.1 hx
    have hnew : place < (l.move move).waiters.length := (List.getElem?_eq_some_iff.1 hy).1
    rw [length_move] at hnew
    cases move with
    | come bounded =>
      obtain rfl : place = l.waiters.length := Nat.le_antisymm (Nat.le_of_lt_succ hnew) hlength
      have hcame : some ⟨bounded, if bounded then .called else .begun⟩ = some y :=
        List.getElem?_concat_length.symm.trans hy
      cases hcame
      cases bounded with
      | true => exact .inr (.inl rfl)
      | false => exact .inr (.inr rfl)
    | _ => exact absurd hnew (Nat.not_lt.2 hlength)

/-! ### What holds at any time -/

/-- Whoever has found the gate busy and has not been notified is there only while the session is
held, and nobody enters while somebody is half gone. -/
structure Sound (l : Lobby) : Prop where
  register : l.register.Sound
  leaving : l.leaving = true → l.register.held = []
  unheard : ∀ x ∈ l.waiters, x.stage.FoundBusy → x.stage.Listens → l.IsHeld

theorem sound_new : Sound {} where
  register := Register.sound_new
  leaving := nofun
  unheard := nofun

theorem Sound.busy_iff (h : l.Sound) : l.busy = true ↔ l.register.held ≠ [] := by
  rw [busy, h.register.busy_iff, ← List.length_pos_iff]
  have hle := h.register.length_held_le_one
  omega

/-- The session is held until somebody has left. -/
theorem Sound.held_move (h : l.Sound) (hheld : l.IsHeld) {move : Move}
    (hreleases : (l.move move).releases = l.releases) : (l.move move).IsHeld := by
  have hcomes := l.comes_move move
  generalize l.move move = m at hcomes hreleases ⊢
  cases hcomes with
  | waits waiters => exact hheld
  | enters hstays =>
    have hbusy : l.register.held ≠ [] := hheld.resolve_right (Bool.eq_false_iff.1 hstays)
    refine .inl ?_
    rw [Register.use_enter_busy (h.busy_iff.2 hbusy)]
    exact hbusy
  | aborts => exact hheld
  | clears hplace => exact .inr rfl
  | notifies hleaving => exact absurd hreleases (Nat.succ_ne_self l.releases)

theorem Sound.register_move (h : l.Sound) (move : Move) : (l.move move).register.Sound := by
  have hcomes := l.comes_move move
  generalize l.move move = m at hcomes ⊢
  cases hcomes with
  | waits waiters => exact h.register
  | enters hstays => exact h.register.enter
  | aborts => exact h.register.abort
  | @clears place hplace => exact h.register.leave place
  | notifies hleaving => exact h.register

theorem Sound.leaving_move (h : l.Sound) (move : Move) (hleaving : (l.move move).leaving = true) :
    (l.move move).register.held = [] := by
  have hcomes := l.comes_move move
  generalize l.move move = m at hcomes hleaving ⊢
  cases hcomes with
  | waits waiters => exact h.leaving hleaving
  | enters hstays => exact absurd hleaving (Bool.eq_false_iff.1 hstays)
  | aborts => exact h.leaving hleaving
  | clears hplace => exact h.register.held_leave hplace
  | notifies hhalf => cases hleaving

theorem Sound.move (h : l.Sound) (move : Move) : (l.move move).Sound where
  register := h.register_move move
  leaving := h.leaving_move move
  unheard := by
    intro y hmem hfound hlistens
    obtain ⟨place, hplace⟩ := List.mem_iff_getElem?.1 hmem
    obtain ⟨x, hx, hturns⟩ | hcalled | hbegun := of_move hplace
    · have hbefore : x.stage.FoundBusy → x.stage.Listens → l.IsHeld :=
        h.unheard x (List.mem_of_getElem? hx)
      cases hturns with
      | stays hreleases => exact h.held_move (hbefore hfound hlistens) hreleases
      | goes hreleases =>
        -- The gate was found busy in this step or before; the notification is made by then.
        refine h.held_move ?_ hreleases
        obtain hbusy | ⟨hfound, hlistens⟩ := Wait.busy_or_foundBusy hfound hlistens
        · exact .inl (h.busy_iff.1 hbusy)
        · exact hbefore hfound hlistens
      | notified hleaving => exact absurd hlistens (Wait.not_listens_notify _)
      | expired hreleases hbounded hparked => exact hlistens.elim
    · rw [hcalled] at hlistens
      exact hlistens.elim
    · rw [hbegun] at hlistens
      exact hlistens.elim

theorem Sound.moveAll (h : l.Sound) (moves : List Move) : (l.moveAll moves).Sound := by
  induction moves generalizing l with
  | nil => exact h
  | cons move rest ih => exact ih (h.move move)

theorem sound_after (moves : List Move) : (after moves).Sound :=
  sound_new.moveAll moves

/-- While nobody holds the session, nobody is left waiting for a notification. -/
theorem Sound.heard (h : l.Sound) (hfree : ¬ l.IsHeld) (hmem : x ∈ l.waiters) :
    x.stage.FoundBusy → ¬ x.stage.Listens :=
  fun hfound hlistens ↦ hfree (h.unheard x hmem hfound hlistens)

/-- While nobody holds the session, whoever waits returns in two steps. -/
theorem Sound.returns (h : l.Sound) (hfree : ¬ l.IsHeld) (hx : l.waiters[place]? = some x)
    (htime : x.stage ≠ .expired) :
    (l.moveAll [.go place, .go place]).waiters[place]? = some ⟨x.bounded, .returned⟩ := by
  have hidle : l.busy = false := by
    rw [← Bool.not_eq_true, h.busy_iff]
    exact fun hheld ↦ hfree (.inl hheld)
  have hnext := Wait.next_next (h.heard hfree (List.mem_of_getElem? hx)) htime
  have hgo : (l.moveAll [.go place, .go place]).waiters[place]? =
      some ((x.go l.busy).go l.busy) := by
    simp [Lobby.moveAll, Lobby.move, busy, hx]
  rw [hgo, hidle, Waiter.go, Waiter.go, hnext]

/-! ### What a wait sees of the session -/

theorem Sound.idle_of_leaving (h : l.Sound) (hleaving : l.leaving = true) : l.busy = false := by
  rw [← Bool.not_eq_true, h.busy_iff, h.leaving hleaving]
  exact fun hne ↦ hne rfl

/-- Whoever gets to know that the session is idle gets to know it while it is. -/
theorem Turns.idle {m : Lobby} (hturns : Turns l m x y) (h : l.Sound) (hnot : ¬ x.stage.Knows)
    (hknows : y.stage.Knows) : l.busy = false := by
  cases hturns with
  | stays hreleases => exact absurd hknows hnot
  | goes hreleases => exact Wait.idle_of_knows hnot hknows
  | notified hleaving => exact h.idle_of_leaving hleaving
  | expired hreleases hbounded hparked => exact hknows.elim

theorem Sound.exists_idle (h : l.Sound) (hx : l.waiters[place]? = some x)
    (hnot : ¬ x.stage.Knows) {moves : List Move}
    (hy : (l.moveAll moves).waiters[place]? = some y) (hknows : y.stage.Knows) :
    ∃ part, part <+: moves ∧ (l.moveAll part).busy = false := by
  induction moves generalizing l x with
  | nil =>
    obtain rfl : x = y := Option.some.inj (hx.symm.trans hy)
    exact absurd hknows hnot
  | cons move rest ih =>
    obtain ⟨z, hz, hturns⟩ := turns_move hx move
    by_cases hlearns : z.stage.Knows
    · exact ⟨[], List.nil_prefix, hturns.idle h hnot hlearns⟩
    · obtain ⟨part, hpart, hidle⟩ := ih (h.move move) hz hlearns hy
      exact ⟨move :: part, (List.prefix_cons_inj move).2 hpart, hidle⟩

/-- A wait that listens goes on listening, and nobody leaves meanwhile, or it is over. -/
theorem Turns.listens {m : Lobby} (hturns : Turns l m x y) (hlistens : x.stage.Listens) :
    y.stage.Listens ∧ m.releases = l.releases ∨ y.stage.Knows ∨ y.stage = .expired := by
  cases hturns with
  | stays hreleases => exact .inl ⟨hlistens, hreleases⟩
  | goes hreleases =>
    have hnext : (x.go l.busy).stage.Listens ∨ (x.go l.busy).stage.Knows :=
      Wait.listens_or_knows_next hlistens
    obtain hlistens | hknows := hnext
    · exact .inl ⟨hlistens, hreleases⟩
    · exact .inr (.inl hknows)
  | notified hleaving => exact .inr (.inl (Wait.knows_notify (.inl hlistens)))
  | expired hreleases hbounded hparked => exact .inr (.inr rfl)

/-- What is over stays over. -/
theorem Turns.over {m : Lobby} (hturns : Turns l m x y)
    (hover : x.stage.Knows ∨ x.stage = .expired) : y.stage.Knows ∨ y.stage = .expired := by
  cases hturns with
  | stays hreleases => exact hover
  | goes hreleases =>
    obtain hknows | hexpired := hover
    · exact .inl (Wait.knows_next hknows)
    · exact .inr (by rw [Waiter.go, hexpired]; rfl)
  | notified hleaving =>
    obtain hknows | hexpired := hover
    · exact .inl (Wait.knows_notify (.inr hknows))
    · exact .inr (by rw [Waiter.notify, hexpired]; rfl)
  | expired hreleases hbounded hparked => exact .inr rfl

theorem over_moveAll (hx : l.waiters[place]? = some x)
    (hover : x.stage.Knows ∨ x.stage = .expired) (moves : List Move)
    (hy : (l.moveAll moves).waiters[place]? = some y) : y.stage.Knows ∨ y.stage = .expired := by
  induction moves generalizing l x with
  | nil =>
    obtain rfl : x = y := Option.some.inj (hx.symm.trans hy)
    exact hover
  | cons move rest ih =>
    obtain ⟨z, hz, hturns⟩ := turns_move hx move
    exact ih hz (hturns.over hover) hy

/-- A wait that still listens has listened all the time, and nobody has left meanwhile. -/
theorem not_released (hx : l.waiters[place]? = some x) (hlistens : x.stage.Listens)
    {moves : List Move} (hy : (l.moveAll moves).waiters[place]? = some y)
    (hstill : y.stage.Listens) {part : List Move} (hpart : part <+: moves) :
    (l.moveAll part).releases = l.releases ∧
      ∃ z, (l.moveAll part).waiters[place]? = some z ∧ z.stage.Listens := by
  induction moves generalizing l x part with
  | nil =>
    obtain rfl : part = [] := List.prefix_nil.1 hpart
    exact ⟨rfl, x, hx, hlistens⟩
  | cons move rest ih =>
    cases part with
    | nil => exact ⟨rfl, x, hx, hlistens⟩
    | cons first more =>
      obtain ⟨rfl, hmore⟩ := List.cons_prefix_cons.1 hpart
      obtain ⟨z, hz, hturns⟩ := turns_move hx first
      obtain ⟨hgoes, hreleases⟩ | hover := hturns.listens hlistens
      · obtain ⟨hnone, hlater⟩ := ih hz hgoes hy hmore
        exact ⟨hnone.trans hreleases, hlater⟩
      · obtain hknows | hexpired := over_moveAll hz hover rest hy
        · exact absurd hknows (Wait.not_knows_of_listens hstill)
        · rw [hexpired] at hstill
          exact hstill.elim

theorem releases_le_move (l : Lobby) (move : Move) : l.releases ≤ (l.move move).releases := by
  have hcomes := l.comes_move move
  generalize l.move move = m at hcomes ⊢
  cases hcomes with
  | notifies hleaving => exact Nat.le_succ l.releases
  | _ => exact Nat.le_refl l.releases

theorem releases_le_moveAll (l : Lobby) (moves : List Move) :
    l.releases ≤ (l.moveAll moves).releases := by
  induction moves generalizing l with
  | nil => exact Nat.le_refl _
  | cons move rest ih => exact Nat.le_trans (l.releases_le_move move) (ih (l.move move))

theorem Sound.held_moveAll (h : l.Sound) (hheld : l.IsHeld) {moves : List Move}
    (hreleases : (l.moveAll moves).releases = l.releases) : (l.moveAll moves).IsHeld := by
  induction moves generalizing l with
  | nil => exact hheld
  | cons move rest ih =>
    have hrest := releases_le_moveAll (l.move move) rest
    have hfirst : (l.move move).releases = l.releases :=
      Nat.le_antisymm (Nat.le_trans hrest (Nat.le_of_eq hreleases)) (l.releases_le_move move)
    exact ih (h.move move) (h.held_move hheld hfirst) (hreleases.trans hfirst.symm)

/-- Only a bounded wait that is parked expires, and not while somebody leaves. -/
theorem Turns.parked {m : Lobby} (hturns : Turns l m x y) (hbefore : x.stage ≠ .expired)
    (hexpired : y.stage = .expired) : x.bounded = true ∧ x.stage = .parked false := by
  cases hturns with
  | stays hreleases => exact absurd hexpired hbefore
  | goes hreleases => exact absurd (Wait.expired_of_next hexpired) hbefore
  | notified hleaving => exact absurd (Wait.expired_of_notify hexpired) hbefore
  | expired hreleases hbounded hparked => exact ⟨hbounded, hparked⟩

/-- A wait that expires has seen nobody leave since its notification was made, and since it found
the gate busy the session was held. -/
theorem Sound.held_of_expired (h : l.Sound) (hx : l.waiters[place]? = some x)
    (hlistens : x.stage.Listens) {moves : List Move} {move : Move}
    (hy : (l.moveAll moves).waiters[place]? = some y) (htime : y.stage ≠ .expired)
    (hz : ((l.moveAll moves).move move).waiters[place]? = some z) (hexpired : z.stage = .expired) :
    y.bounded = true ∧ y.stage = .parked false ∧ ∀ part, part <+: moves →
      (l.moveAll part).releases = l.releases ∧
      ∃ met, (l.moveAll part).waiters[place]? = some met ∧
        (met.stage.FoundBusy ∨ l.IsHeld → (l.moveAll part).IsHeld) := by
  have hparked : y.bounded = true ∧ y.stage = .parked false := by
    obtain ⟨last, hlast, hturns⟩ := turns_move hy move
    obtain rfl : last = z := Option.some.inj (hlast.symm.trans hz)
    exact hturns.parked htime hexpired
  refine ⟨hparked.1, hparked.2, fun part hpart ↦ ?_⟩
  have hstill : y.stage.Listens := by
    rw [hparked.2]
    rfl
  obtain ⟨hreleases, met, hmet, hlistens⟩ := not_released hx hlistens hy hstill hpart
  refine ⟨hreleases, met, hmet, ?_⟩
  rintro (hfound | hheld)
  · exact (h.moveAll part).unheard met (List.mem_of_getElem? hmet) hfound hlistens
  · exact h.held_moveAll hheld hreleases

end Lobby

end CitedChat
