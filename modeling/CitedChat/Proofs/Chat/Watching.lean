import CitedChat.Proofs.Chat.Abort
import CitedChat.Proofs.Chat.Lobby
import CitedChat.Proofs.Chat.Operation
import CitedChat.Proofs.Library

/-!
No wait for idleness is lost. A session keeps count of the tasks that wait until it is idle, and
wakes them all at once when a submission leaves; the lobby says how they wait, step by step.
Whatever is done with the session, the people in the lobby can bring about (`World.Plays`): each act
of the transport, each step of a submission and each operation has moves that lead from a lobby with
the gate and the waiters of the world before to one with those of the world after it. So what holds
of the lobby after any moves holds of the tasks of every session (`World.no_wait_lost`).
-/

set_option autoImplicit false

namespace CitedChat

/-- An idle gate stays as it is when somebody leaves. -/
theorem Gate.leave_of_idle {gate : Gate} (hidle : gate.busy = false) : gate.leave = gate := by
  rw [leave, ← hidle]

namespace Lobby

/-! ### Moves one after the other -/

/-- One who came after some and before others takes a step. -/
theorem move_go_append (l : Lobby) (earlier : List Waiter) (x : Waiter) (later : List Waiter) :
    ({ l with waiters := earlier ++ x :: later } : Lobby).move (.go earlier.length) =
      { l with waiters := earlier ++ x.go l.busy :: later } := by
  rw [move, List.modify_length_append]
  rfl

/-- Somebody comes, finds the gate busy and parks. -/
theorem moveAll_park {l : Lobby} (hbusy : l.busy = true) :
    l.moveAll [.come false, .go l.waiters.length, .go l.waiters.length, .go l.waiters.length] =
      { l with waiters := l.waiters ++ [⟨false, .parked false⟩] } := by
  simp only [moveAll, List.foldl_cons, List.foldl_nil]
  rw [move, move_go_append, move_go_append, move_go_append, hbusy]
  rfl

/-- Somebody comes, finds the gate idle and returns. -/
theorem moveAll_pass {l : Lobby} (hidle : l.busy = false) :
    l.moveAll [.come false, .go l.waiters.length, .go l.waiters.length] =
      { l with waiters := l.waiters ++ [⟨false, .returned⟩] } := by
  simp only [moveAll, List.foldl_cons, List.foldl_nil]
  rw [move, move_go_append, move_go_append, hidle]
  rfl

/-- Somebody comes for a time only, parks and waits in vain. -/
theorem moveAll_expire {l : Lobby} (hbusy : l.busy = true) :
    l.moveAll [.come true, .go l.waiters.length, .go l.waiters.length, .go l.waiters.length,
        .go l.waiters.length, .expire l.waiters.length] =
      { l with waiters := l.waiters ++ [⟨true, .expired⟩] } := by
  simp only [moveAll, List.foldl_cons, List.foldl_nil]
  rw [move, move_go_append, move_go_append, move_go_append, move_go_append, move,
    List.modify_length_append, hbusy]
  rfl

/-- The first so many take a step, one after the other. -/
theorem moveAll_goes_take (l : Lobby) {n : Nat} (hn : n ≤ l.waiters.length) :
    l.moveAll ((List.range n).map .go) =
      { l with waiters := (l.waiters.take n).map (Waiter.go l.busy) ++ l.waiters.drop n } := by
  induction n with
  | zero => rfl
  | succ n ih =>
    have hplace : n < l.waiters.length := hn
    have hlength : ((l.waiters.take n).map (Waiter.go l.busy)).length = n := by
      rw [List.length_map, List.length_take, Nat.min_eq_left (Nat.le_of_lt hplace)]
    have hstep := l.move_go_append ((l.waiters.take n).map (Waiter.go l.busy)) l.waiters[n]
      (l.waiters.drop (n + 1))
    rw [hlength] at hstep
    rw [List.range_succ, List.map_append, moveAll_append, ih (Nat.le_of_lt hplace),
      List.drop_eq_getElem_cons hplace]
    refine hstep.trans ?_
    rw [List.take_succ_eq_append_getElem hplace, List.map_append, List.append_assoc]
    rfl

/-- Everybody takes a step. -/
theorem moveAll_goes (l : Lobby) :
    l.moveAll ((List.range l.waiters.length).map .go) =
      { l with waiters := l.waiters.map (Waiter.go l.busy) } := by
  have hall := l.moveAll_goes_take (Nat.le_refl l.waiters.length)
  rw [List.take_length, List.drop_length, List.append_nil] at hall
  exact hall

/-- Whoever leaves lets everybody go who is parked. -/
theorem moveAll_leave {l : Lobby} (h : l.Sound) (hbusy : l.busy = true) :
    ∃ moves, (l.moveAll moves).register.gate = l.register.gate.leave ∧
      (l.moveAll moves).leaving = false ∧
      (l.moveAll moves).waiters = l.waiters.map fun x ↦ x.notify.go false := by
  obtain ⟨hidle, -⟩ | ⟨permit, hpermit⟩ := h.register.holder
  · rw [busy, hidle] at hbusy
    cases hbusy
  · have hgone : l.moveAll [.clear 0, .notify] =
        { l with
          register := ⟨l.register.gate.leave, [], l.register.log ++ [.left permit]⟩
          leaving := false, releases := l.releases + 1
          waiters := l.waiters.map Waiter.notify } := by
      simp [moveAll, move, Register.use, hpermit.held]
    refine ⟨[.clear 0, .notify] ++ (List.range (l.waiters.map Waiter.notify).length).map .go, ?_⟩
    rw [moveAll_append, hgone, moveAll_goes]
    exact ⟨rfl, rfl, List.map_map⟩

end Lobby

namespace World

/-- How many tasks were started that wait for idleness. -/
def watchers (w : World) : Nat :=
  w.parked + w.woken

/-- Those who wait: the tasks, and the bounded waits by their answers. -/
def crowd (w : World) : List Waiter :=
  .replicate w.parked ⟨false, .parked false⟩ ++
    (.replicate w.woken ⟨false, .returned⟩ ++
      w.idleAnswers.toList.map fun idle ↦ ⟨true, if idle then .returned else .expired⟩)

end World

/-- The lobby of a world: its gate is that of the session, nobody is half gone, and the crowd
waits there. -/
structure Lobby.Mirrors (l : Lobby) (w : World) : Prop where
  sound : l.Sound
  gate : l.register.gate = w.session.gate
  leaving : l.leaving = false
  waiters : l.waiters.Perm w.crowd

namespace Lobby

variable {l : Lobby} {w v : World}

theorem Mirrors.busy (h : l.Mirrors w) : l.busy = w.session.gate.busy :=
  congrArg Gate.busy h.gate

/-- Nobody is parked while the session is idle. -/
theorem Mirrors.parked_eq_zero (h : l.Mirrors w) (hidle : w.session.gate.busy = false) :
    w.parked = 0 := by
  have hfree : ¬ l.IsHeld := by
    rintro (hheld | hleaving)
    · rw [← h.sound.busy_iff, h.busy, hidle] at hheld
      cases hheld
    · rw [h.leaving] at hleaving
      cases hleaving
  refine Nat.eq_zero_of_not_pos fun hsome ↦ ?_
  have hmem : ⟨false, .parked false⟩ ∈ l.waiters := by
    rw [h.waiters.mem_iff, World.crowd, List.mem_append, List.mem_replicate]
    exact .inl ⟨Nat.ne_of_gt hsome, rfl⟩
  exact h.sound.heard hfree hmem trivial rfl

/-- Moves that bring one more to the waiters lead to a lobby of the world with one more. -/
theorem Mirrors.joined (h : l.Mirrors w) {moves : List Move} {x : Waiter}
    (hmoves : l.moveAll moves = { l with waiters := l.waiters ++ [x] })
    (hgate : v.session.gate = w.session.gate) (hcrowd : v.crowd.Perm (x :: w.crowd)) :
    (l.moveAll moves).Mirrors v where
  sound := h.sound.moveAll moves
  gate := by
    rw [hmoves, hgate]
    exact h.gate
  leaving := by
    rw [hmoves]
    exact h.leaving
  waiters := by
    rw [hmoves]
    have hlast : (l.waiters ++ [x]).Perm (x :: l.waiters) := List.perm_append_comm
    exact (hlast.trans (h.waiters.cons x)).trans hcrowd.symm

end Lobby

namespace World

variable {u v w : World}

/-! ### Moves that bring a world about -/

/-- Tasks only come, and from any lobby of the one world moves lead to one of the other. -/
structure Plays (w v : World) : Prop where
  watchers : w.watchers ≤ v.watchers
  moves : ∀ l : Lobby, l.Mirrors w → ∃ moves, (l.moveAll moves).Mirrors v

theorem Plays.trans (hfirst : Plays u v) (hsecond : Plays v w) : Plays u w where
  watchers := Nat.le_trans hfirst.watchers hsecond.watchers
  moves := by
    intro l hmirrors
    obtain ⟨first, hthere⟩ := hfirst.moves l hmirrors
    obtain ⟨second, hthere⟩ := hsecond.moves _ hthere
    refine ⟨first ++ second, ?_⟩
    rw [Lobby.moveAll_append]
    exact hthere

theorem Still.plays (h : Still w v) : Plays w v where
  watchers := by
    have hsame : v.watchers = w.watchers := by rw [watchers, watchers, h.parked, h.woken]
    exact Nat.le_of_eq hsame.symm
  moves := by
    intro l hmirrors
    refine ⟨[], hmirrors.sound, hmirrors.gate.trans h.gate.symm, hmirrors.leaving, ?_⟩
    rw [crowd, h.parked, h.woken, h.answers]
    exact hmirrors.waiters

theorem Plays.refl (w : World) : Plays w w :=
  Still.plays ⟨rfl, rfl, rfl, rfl⟩

theorem plays_abort (w : World) : Plays w w.abort where
  watchers := Nat.le_refl _
  moves := by
    intro l hmirrors
    exact ⟨[.abort], hmirrors.sound.move .abort, congrArg Gate.abort hmirrors.gate,
      hmirrors.leaving, hmirrors.waiters⟩

/-! ### Those who come to wait, and those who leave -/

/-- A task that is started while the session is busy parks. -/
theorem plays_watch (hbusy : w.session.gate.busy = true) : Plays w w.watch where
  watchers := by
    simp only [watchers, watch]
    omega
  moves := by
    intro l hmirrors
    have hmoves := Lobby.moveAll_park (hmirrors.busy.trans hbusy)
    exact ⟨_, hmirrors.joined hmoves rfl (.refl _)⟩

/-- A bounded wait that is in vain expires. -/
theorem plays_answer (hbusy : w.session.gate.busy = true) :
    Plays w { w with idleAnswers := w.idleAnswers.push false } where
  watchers := Nat.le_refl _
  moves := by
    intro l hmirrors
    have hmoves := Lobby.moveAll_expire (hmirrors.busy.trans hbusy)
    refine ⟨_, hmirrors.joined hmoves rfl ?_⟩
    have hlast : crowd { w with idleAnswers := w.idleAnswers.push false } =
        w.crowd ++ [⟨true, .expired⟩] := by
      simp [crowd]
    rw [hlast]
    exact List.perm_append_comm

/-- A task that is started while the session is idle goes on at once. -/
theorem plays_watch_wake (w : World) : Plays w w.watch.wake := by
  cases hbusy : w.session.gate.busy with
  | true =>
    have hwake : w.watch.wake = w.watch := if_pos hbusy
    rw [hwake]
    exact plays_watch hbusy
  | false =>
    have hwake : w.watch.wake =
        { w with parked := 0, woken := w.woken + (w.parked + 1) } :=
      if_neg (Bool.eq_false_iff.1 hbusy)
    rw [hwake]
    refine ⟨?_, fun l hmirrors ↦ ?_⟩
    · simp only [watchers]
      omega
    · have hmoves := Lobby.moveAll_pass (hmirrors.busy.trans hbusy)
      refine ⟨_, hmirrors.joined hmoves rfl ?_⟩
      rw [crowd, crowd, hmirrors.parked_eq_zero hbusy]
      exact .refl _

/-- Whoever leaves wakes all tasks that wait. -/
theorem leave_eq (w : World) :
    w.leave = { w.setGate w.session.gate.leave with
      parked := 0, woken := w.woken + w.parked } :=
  rfl

/-- Notified and let go, whoever is parked returns, and nobody else moves. -/
theorem crowd_leave (w : World) :
    w.crowd.map (fun x ↦ x.notify.go false) = w.leave.crowd := by
  have hanswers : w.idleAnswers.toList.map
      ((fun x : Waiter ↦ x.notify.go false) ∘
        fun idle ↦ ⟨true, if idle then .returned else .expired⟩) =
      w.idleAnswers.toList.map fun idle ↦ ⟨true, if idle then .returned else .expired⟩ := by
    refine List.map_congr_left fun idle _ ↦ ?_
    cases idle <;> rfl
  have hreturned : List.replicate (w.woken + w.parked) (⟨false, .returned⟩ : Waiter) =
      .replicate w.parked ⟨false, .returned⟩ ++ .replicate w.woken ⟨false, .returned⟩ := by
    rw [Nat.add_comm, List.replicate_append_replicate]
  rw [leave_eq, crowd, crowd, List.map_append, List.map_append, List.map_map, hanswers,
    List.map_replicate, List.map_replicate, hreturned, List.append_assoc]
  rfl

theorem plays_leave (w : World) : Plays w w.leave where
  watchers := by
    simp only [leave_eq, watchers]
    omega
  moves := by
    intro l hmirrors
    cases hbusy : w.session.gate.busy with
    | true =>
      obtain ⟨moves, hgate, hleaving, hwaiters⟩ :=
        Lobby.moveAll_leave hmirrors.sound (hmirrors.busy.trans hbusy)
      refine ⟨moves, hmirrors.sound.moveAll moves, ?_, hleaving, ?_⟩
      · rw [hgate, hmirrors.gate]
        rfl
      · rw [hwaiters, ← crowd_leave]
        exact hmirrors.waiters.map _
    | false =>
      -- There is nobody to notify.
      have hparked := hmirrors.parked_eq_zero hbusy
      have hstill : Still w w.leave := by
        refine ⟨Gate.leave_of_idle hbusy, hparked.symm, ?_, rfl⟩
        simp only [leave_eq, hparked, Nat.add_zero]
      exact hstill.plays.moves l hmirrors

/-! ### What a submission brings about -/

/-- A wait may end by an abort, and is over then. -/
theorem plays_suspend (w : World) (f : Flight) (until_ : Option Nat) :
    Plays w (w.suspend f until_).1 := by
  have hwait : Still w { w with now := (w.wakening f until_).instant } := ⟨rfl, rfl, rfl, rfl⟩
  simp only [suspend]
  split
  · exact hwait.plays.trans (plays_abort _)
  · exact hwait.plays

theorem busy_suspend (w : World) (f : Flight) (until_ : Option Nat) :
    (w.suspend f until_).1.session.gate.busy = w.session.gate.busy := by
  obtain hgate | hgate := gate_suspend w f until_
  · rw [hgate]
  · rw [hgate, Gate.busy_abort]

theorem plays_perform (hbusy : w.session.gate.busy = true) (f : Flight) (act : Act) :
    Plays w (w.perform f act).1 := by
  cases act with
  | wait ms => exact plays_suspend w f _
  | hang => exact plays_suspend w f _
  | abort => exact plays_abort w
  | awaitIdle ms =>
    have hwait := plays_suspend w f (some (w.now + ms))
    have hstays := busy_suspend w f (some (w.now + ms))
    rw [perform]
    rcases hsuspend : w.suspend f (some (w.now + ms)) with ⟨v, _ | i⟩
    all_goals rw [hsuspend] at hwait hstays
    · exact hwait.trans (plays_answer (hstays.trans hbusy))
    · exact hwait
  | watch => exact plays_watch hbusy

theorem plays_of_perform {f : Flight} {act : Act} {i : Option Interrupt}
    (hbusy : w.session.gate.busy = true) (hperform : w.perform f act = (v, i)) : Plays w v := by
  have hact := plays_perform hbusy f act
  rw [hperform] at hact
  exact hact

end World

open World

namespace Submission

variable {s : Submission} {w : World} {d : Stage × World}

theorem Moves.plays (hmoves : s.Moves w d) (hbusy : w.session.gate.busy = true) :
    Plays w d.2 := by
  cases hmoves with
  | interrupted hinterrupt => exact (still_interrupted w s.flight _).plays
  | called hopen => exact Still.plays ⟨rfl, rfl, rfl, rfl⟩
  | opened hopen => exact .refl w
  | acted hopen hperform => exact plays_of_perform hbusy hperform
  | cut hperform =>
    exact (plays_of_perform hbusy hperform).trans (still_interrupted _ s.flight _).plays
  | failed error => exact (still_emit w _).plays
  | closed => exact (still_emit w _).plays
  | stale hstale => exact .refl w
  | folded hfresh hfold hopen => exact (still_of_fold hfold).plays
  | finished hfresh hfold => exact (still_of_fold hfold).plays
  | halted hfresh hfold => exact ((still_of_fold hfold).trans (still_emit _ _)).plays
  | refused hfresh hfold => exact (still_of_fold hfold).plays
  | replied reply hfresh => exact (still_adopt w s.flight reply).plays

theorem plays_step (s : Submission) {c : Stage × World} (hbusy : c.2.session.gate.busy = true) :
    Plays c.2 (s.step c).2 := by
  by_cases hdone : c.1.IsDone
  · rw [s.step_of_isDone hdone]
    exact .refl c.2
  · exact (s.moves_step hdone).plays hbusy

theorem plays_run (s : Submission) (n : Nat) {c : Stage × World}
    (hbusy : c.2.session.gate.busy = true) : Plays c.2 (s.run n c).2 := by
  induction n generalizing c with
  | zero => exact .refl c.2
  | succ n ih => exact (s.plays_step hbusy).trans (ih ((s.busy_step c).trans hbusy))

end Submission

namespace World

variable {w : World}

/-- Whoever puts a question enters. -/
theorem plays_asked (hidle : w.session.gate.busy = false) (text : String) :
    Plays w (w.asked text) where
  watchers := Nat.le_refl _
  moves := by
    intro l hmirrors
    have hentered : l.moveAll [.enter] = { l with register := l.register.use .enter } := by
      simp [Lobby.moveAll, Lobby.move, hmirrors.leaving]
    refine ⟨[.enter], hmirrors.sound.moveAll [.enter], ?_, ?_, ?_⟩
    · rw [hentered, Register.use_enter_idle (hmirrors.busy.trans hidle), hmirrors.gate]
      rfl
    · rw [hentered]
      exact hmirrors.leaving
    · rw [hentered]
      exact hmirrors.waiters

theorem plays_conclude (w : World) (f : Flight) (ending : Ending) :
    Plays w (w.conclude f ending) := by
  cases ending with
  | outcome outcome => exact (still_emit w _).plays.trans (plays_leave _)
  | broken error => exact (still_emit w _).plays.trans (plays_leave _)
  | suspended => exact .refl w

section Submit

variable {mode : Mode} {text : String} {transport : Transport} {limit abortAfter : Option Nat}
  {ended : World × Ending}

/-- A submission that is accepted is brought about up to every point of its course, and from there
to its end. -/
theorem plays_course (hsubmit : w.submit mode text transport limit abortAfter = .ok ended)
    (n : Nat) :
    Plays w (w.course mode text transport limit abortAfter n).2 ∧
      Plays (w.course mode text transport limit abortAfter n).2 ended.1 := by
  obtain ⟨htext, hidle⟩ := accepted_of_submit hsubmit
  obtain ⟨last, v, hran, hended⟩ := run_of_submit hsubmit
  let s := w.submission mode text transport limit abortAfter
  let start : Stage × World := (.ready, w.asked text)
  have hbusy : (s.run n start).2.session.gate.busy = true := s.busy_run n start
  have hlast : s.run last (s.run n start) = (.done ended.2, v) := by
    rw [← s.run_add, Nat.add_comm, s.run_add, hran]
    exact s.run_close n (v, ended.2)
  have hcourse : Plays start.2 (s.run n start).2 := s.plays_run n rfl
  have hrest : Plays (s.run n start).2 v := by
    have hrun := s.plays_run last hbusy
    rw [hlast] at hrun
    exact hrun
  refine ⟨(plays_asked hidle text).trans hcourse, hrest.trans ?_⟩
  rw [hended]
  exact plays_conclude v _ ended.2

end Submit

theorem plays_operate (w : World) (operation : Operation) : Plays w (w.operate operation) := by
  cases operation with
  | submit mode text transport limit abortAfter =>
    rw [operate]
    have hput := w.attempts (mode.getD w.session.mode) text transport limit abortAfter
    generalize w.attempt (mode.getD w.session.mode) text transport limit abortAfter = result
      at hput ⊢
    cases hput with
    | refused hsubmit => exact .refl w
    | submitted hsubmit =>
      obtain ⟨hfirst, hrest⟩ := plays_course hsubmit 0
      exact hfirst.trans hrest
    | brokenOff hbeyond htext hidle =>
      exact (plays_asked hidle text).trans (plays_leave (w.asked text))
  | giveUp => exact plays_leave w
  | abort => exact plays_abort w
  | clear =>
    rw [operate, Session.clear, Session.setConversation]
    cases w.session.gate.busy <;> exact Still.plays ⟨rfl, rfl, rfl, rfl⟩
  | setConversation conversation =>
    rw [operate, Session.setConversation]
    cases w.session.gate.busy <;> exact Still.plays ⟨rfl, rfl, rfl, rfl⟩
  | setMode mode => exact Still.plays ⟨rfl, rfl, rfl, rfl⟩
  | setTimeout timeout => exact Still.plays ⟨rfl, rfl, rfl, rfl⟩
  | awaitIdle ms =>
    rw [operate, awaitIdle]
    cases w.session.gate.busy <;> exact Still.plays ⟨rfl, rfl, rfl, rfl⟩
  | watch => exact plays_watch_wake w

theorem plays_operateAll (w : World) (operations : List Operation) :
    Plays w (w.operateAll operations) := by
  induction operations generalizing w with
  | nil => exact .refl w
  | cons operation rest ih => exact (plays_operate w operation).trans (ih (w.operate operation))

/-- Nobody has used the session yet, nor waited for it. -/
structure IsNew (w : World) : Prop where
  gate : w.session.gate = { cancelled_le := Gate.nothing_cancelled }
  parked : w.parked = 0
  woken : w.woken = 0
  answers : w.idleAnswers = #[]

theorem IsNew.mirrors (h : w.IsNew) : Lobby.Mirrors {} w where
  sound := Lobby.sound_new
  gate := h.gate.symm
  leaving := rfl
  waiters := by
    rw [crowd, h.parked, h.woken, h.answers]
    exact .refl _

/-- A submission that is not suspended lets all tasks go that were started by any point of it. -/
theorem woken_of_submit {w : World} {mode : Mode} {text : String} {transport : Transport}
    {limit abortAfter : Option Nat} {ended : World × Ending}
    (hsubmit : w.submit mode text transport limit abortAfter = .ok ended)
    (hended : ended.2 ≠ .suspended) (n : Nat) :
    ended.1.parked = 0 ∧
      (w.course mode text transport limit abortAfter n).2.watchers ≤ ended.1.woken := by
  have hparked : ended.1.parked = 0 := by
    obtain ⟨-, v, -, hconclude⟩ := run_of_submit hsubmit
    rw [hconclude]
    cases hending : ended.2 with
    | outcome outcome => rfl
    | broken error => rfl
    | suspended => exact absurd hending hended
  have hle := (plays_course hsubmit n).2.watchers
  have hwatchers : ended.1.watchers = ended.1.woken := by
    rw [watchers, hparked, Nat.zero_add]
  rw [hwatchers] at hle
  exact ⟨hparked, hle⟩

/-- No wait for idleness is lost, however those who wait, enter, abort and leave take turns. While
nobody holds the session and nobody is half gone, nobody is left who has found the gate busy and is
not notified, and whoever has not expired returns with two steps more. Whoever is notified or has
returned, and was not before, got there past a moment when the gate was idle. A wait expires only if
it is a bounded one that is parked. Then nobody has left since its notification was made, and the
session was held until the time was over: from the making of the notification on if it was held by
then, and else from when the wait found the gate busy.

In a session, whatever is done with it, the tasks that wait stand as they do after some moves.
Once a submission is over, breaks off, or is suspended and dropped, no task is parked any more, and
all that were started by any point of it are woken. -/
theorem no_wait_lost :
    (∀ moves (place : Nat) (x : Waiter), (Lobby.after moves).waiters[place]? = some x →
      ¬ (Lobby.after moves).IsHeld →
        (x.stage.FoundBusy → ¬ x.stage.Listens) ∧
        (x.stage ≠ .expired →
          (Lobby.after (moves ++ [.go place, .go place])).waiters[place]? =
            some ⟨x.bounded, .returned⟩)) ∧
    (∀ before during (place : Nat) (x y : Waiter), (Lobby.after before).waiters[place]? = some x →
      ¬ x.stage.Knows → (Lobby.after (before ++ during)).waiters[place]? = some y →
      y.stage.Knows →
        ∃ part, part <+: during ∧ (Lobby.after (before ++ part)).busy = false) ∧
    (∀ before during move (place : Nat) (x y z : Waiter),
      (Lobby.after before).waiters[place]? = some x → x.stage.Listens →
      (Lobby.after (before ++ during)).waiters[place]? = some y → y.stage ≠ .expired →
      (Lobby.after (before ++ during ++ [move])).waiters[place]? = some z → z.stage = .expired →
        y.bounded = true ∧ y.stage = .parked false ∧ ∀ part, part <+: during →
          (Lobby.after (before ++ part)).releases = (Lobby.after before).releases ∧
          ∃ met, (Lobby.after (before ++ part)).waiters[place]? = some met ∧
            (met.stage.FoundBusy ∨ (Lobby.after before).IsHeld →
              (Lobby.after (before ++ part)).IsHeld)) ∧
    ∀ start : World, start.IsNew → ∀ operations,
      let w := start.operateAll operations
      ∃ moves, (Lobby.after moves).Mirrors w ∧
        (∀ mode text transport limit abortAfter ended,
          w.submit mode text transport limit abortAfter = .ok ended → ∀ n,
            let c := w.course mode text transport limit abortAfter n
            ∃ during rest, (Lobby.after (moves ++ during)).Mirrors c.2 ∧
              (Lobby.after (moves ++ during ++ rest)).Mirrors ended.1 ∧
              (ended.2 ≠ .suspended → ended.1.parked = 0 ∧ c.2.watchers ≤ ended.1.woken)) ∧
        (∀ mode text transport limit abortAfter v,
          w.attempt mode text transport limit abortAfter = .ok (v, none) →
            ∃ during, (Lobby.after (moves ++ during)).Mirrors v ∧
              v.parked = 0 ∧ w.watchers = v.woken) ∧
        ∃ rest, (Lobby.after (moves ++ rest)).Mirrors w.leave ∧
          w.leave.parked = 0 ∧ w.watchers = w.leave.woken := by
  refine ⟨?_, ?_, ?_, ?_⟩
  · intro moves place x hx hfree
    have hsound := Lobby.sound_after moves
    refine ⟨hsound.heard hfree (List.mem_of_getElem? hx), fun htime ↦ ?_⟩
    rw [Lobby.after_append]
    exact hsound.returns hfree hx htime
  · intro before during place x y hx hnot hy hknows
    rw [Lobby.after_append] at hy
    obtain ⟨part, hpart, hidle⟩ := (Lobby.sound_after before).exists_idle hx hnot hy hknows
    refine ⟨part, hpart, ?_⟩
    rw [Lobby.after_append]
    exact hidle
  · intro before during move place x y z hx hlistens hy htime hz hexpired
    simp only [Lobby.after_append] at hy hz ⊢
    exact (Lobby.sound_after before).held_of_expired hx hlistens hy htime hz hexpired
  · intro start hnew operations w
    obtain ⟨moves, hmirrors⟩ := (plays_operateAll start operations).moves _ hnew.mirrors
    refine ⟨moves, hmirrors, ?_, ?_, ?_⟩
    · intro mode text transport limit abortAfter ended hsubmit n c
      obtain ⟨hduring, hrest⟩ := plays_course hsubmit n
      obtain ⟨during, hduring⟩ := hduring.moves _ hmirrors
      obtain ⟨rest, hrest⟩ := hrest.moves _ hduring
      refine ⟨during, rest, ?_, ?_, fun hended ↦ woken_of_submit hsubmit hended n⟩
      · rw [Lobby.after_append]
        exact hduring
      · rw [Lobby.after_append, Lobby.after_append]
        exact hrest
    · intro mode text transport limit abortAfter v hattempt
      have hput := w.attempts mode text transport limit abortAfter
      rw [hattempt] at hput
      cases hput with
      | brokenOff hbeyond htext hidle =>
        have hplays := (plays_asked hidle text).trans (plays_leave (w.asked text))
        obtain ⟨during, hduring⟩ := hplays.moves _ hmirrors
        refine ⟨during, ?_, rfl, Nat.add_comm _ _⟩
        rw [Lobby.after_append]
        exact hduring
    · obtain ⟨rest, hrest⟩ := (plays_leave w).moves _ hmirrors
      refine ⟨rest, ?_, rfl, Nat.add_comm _ _⟩
      rw [Lobby.after_append]
      exact hrest

/-- One who waits returns while the session is held again, another one waits in vain, and a task is
started while a question is asked. -/
theorem no_wait_lost_held_again :
    (Lobby.after ([.enter, .come false, .go 0, .go 0, .go 0, .clear 0, .notify] ++
        [.go 0, .go 0])).waiters[0]? = some ⟨false, .returned⟩ ∧
      (∃ part, part <+: [.go 0, .go 0, .go 0, .clear 0, .notify, .enter, .go 0] ∧
        (Lobby.after ([.enter, .come false] ++ part)).busy = false) ∧
      (∀ part, part <+: [.go 0, .go 0] →
        (Lobby.after ([.enter, .come true, .go 0, .go 0] ++ part)).IsHeld) ∧
      ∃ ended, ({} : World).submit .batch "hi"
          { connect := [.watch], stream := fun _ ↦ .ok []
            exchange := fun _ ↦ .error (.http "closed") } = .ok ended ∧
        ended.1.parked = 0 ∧ 1 ≤ ended.1.woken := by
  obtain ⟨hreturns, hidle, hexpires, hscript⟩ := no_wait_lost
  refine ⟨?_, ?_, ?_, ?_⟩
  · refine (hreturns _ 0 ⟨false, .parked true⟩ rfl ?_).2 (fun h ↦ by cases h)
    rintro (hheld | hleaving)
    · exact hheld rfl
    · cases hleaving
  · exact hidle _ _ 0 ⟨false, .begun⟩ ⟨false, .returned⟩ rfl id rfl trivial
  · intro part hpart
    obtain ⟨-, -, hheld⟩ := hexpires [.enter, .come true, .go 0, .go 0] [.go 0, .go 0] (.expire 0) 0
      ⟨true, .listening false⟩ ⟨true, .parked false⟩ ⟨true, .expired⟩ rfl rfl rfl
      (fun h ↦ by cases h) rfl rfl
    obtain ⟨-, met, -, hmet⟩ := hheld part hpart
    exact hmet (.inr (.inl fun h ↦ by cases h))
  · obtain ⟨moves, -, hsubmission, -⟩ := hscript {} ⟨rfl, rfl, rfl, rfl⟩ []
    obtain ⟨during, rest, -, -, hwoken⟩ := hsubmission .batch "hi"
      { connect := [.watch], stream := fun _ ↦ .ok []
        exchange := fun _ ↦ .error (.http "closed") } none none _ rfl 2
    exact ⟨_, rfl, hwoken (fun h ↦ by cases h)⟩

/-- A wait may expire though the session was idle when its notification was made: somebody enters
before it looks at the gate. It may also expire while somebody is half gone, and the gate is not
busy any more. And a question that is refused is over while a task stays parked. -/
theorem expires_after_idle :
    let before : List Lobby.Move := [.enter, .come true, .go 0, .clear 0, .notify, .go 0]
    let during : List Lobby.Move := [.enter, .go 0, .go 0]
    let half : List Lobby.Move := [.enter, .come true, .go 0, .go 0, .go 0, .go 0, .clear 0]
    let hanging : Transport :=
      { connect := [.hang], stream := fun _ ↦ .ok [], exchange := fun _ ↦ .error (.http "closed") }
    let w := ({} : World).operateAll [.submit none "hi" hanging (some 5) none, .watch]
    ((Lobby.after before).waiters[0]? = some ⟨true, .listening false⟩ ∧
      (Lobby.after before).busy = false ∧ (Lobby.after before).leaving = false ∧
      (Lobby.after (before ++ during ++ [.expire 0])).waiters[0]? = some ⟨true, .expired⟩) ∧
    ((Lobby.after half).busy = false ∧
      (Lobby.after (half ++ [.expire 0])).waiters[0]? = some ⟨true, .expired⟩) ∧
    w.parked = 1 ∧ w.attempt .streaming "again" hanging = .error .busy ∧
      (w.operate (.submit none "again" hanging none none)).parked = 1 ∧
      (w.operate (.submit none "again" hanging none none)).woken = 0 := by
  intro before during half hanging w
  exact ⟨⟨rfl, rfl, rfl, rfl⟩, ⟨rfl, rfl⟩, rfl, rfl, rfl, rfl⟩

end World

end CitedChat
