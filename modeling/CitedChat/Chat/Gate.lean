/-!
The gate lets one submission at a time into a session. Whoever enters holds a permit with a
generation of its own and a fresh token; an abort moves the generation on and cancels the newest
token, so that the permit shows that it is stale.
-/

set_option autoImplicit false

namespace CitedChat

structure Gate where
  generation : Nat := 0
  busy : Bool := false
  /-- The newest token; tokens are numbered as they are made. -/
  token : Nat := 0
  cancelled : List Nat := []
  /-- No token is cancelled before it is made. -/
  cancelled_le : ∀ t ∈ cancelled, t ≤ token := by exact fun _ h => absurd h List.not_mem_nil
  deriving DecidableEq

structure Permit where
  generation : Nat
  token : Nat
  deriving DecidableEq

namespace Gate

/-- The permit for whoever enters next. -/
def nextPermit (gate : Gate) : Permit :=
  ⟨gate.generation + 1, gate.token + 1⟩

/-- The gate once its next permit is given. -/
def taken (gate : Gate) : Gate :=
  { gate with
    generation := gate.nextPermit.generation, busy := true, token := gate.nextPermit.token
    cancelled_le := fun t h => Nat.le_succ_of_le (gate.cancelled_le t h) }

/-- Enters an idle session. -/
def enter (gate : Gate) : Option (Permit × Gate) :=
  if gate.busy then none else some (gate.nextPermit, gate.taken)

theorem enter_eq_none_iff (gate : Gate) : gate.enter = none ↔ gate.busy = true := by
  cases h : gate.busy <;> simp [enter, h]

def abort (gate : Gate) : Gate :=
  { gate with
    generation := gate.generation + 1, cancelled := gate.token :: gate.cancelled
    cancelled_le := List.forall_mem_cons.2 ⟨Nat.le_refl _, gate.cancelled_le⟩ }

@[simp] theorem busy_abort (gate : Gate) : gate.abort.busy = gate.busy := rfl

@[simp] theorem generation_abort (gate : Gate) :
    gate.abort.generation = gate.generation + 1 := rfl

def leave (gate : Gate) : Gate :=
  { gate with busy := false }

@[simp] theorem busy_leave (gate : Gate) : gate.leave.busy = false := rfl

@[simp] theorem generation_leave (gate : Gate) : gate.leave.generation = gate.generation := rfl

def isCurrent (gate : Gate) (generation : Nat) : Bool :=
  gate.generation == generation

def isCancelled (gate : Gate) (permit : Permit) : Bool :=
  gate.cancelled.contains permit.token

/-- The generation moved on since the permit was given. -/
def isStale (gate : Gate) (permit : Permit) : Bool :=
  !gate.isCurrent permit.generation

/-- A permit is given fresh. -/
theorem isStale_taken (gate : Gate) : gate.taken.isStale gate.nextPermit = false := by
  simp [isStale, isCurrent, taken]

theorem isCancelled_taken (gate : Gate) : gate.taken.isCancelled gate.nextPermit = false := by
  have hfresh : gate.token + 1 ∉ gate.cancelled := fun h => by
    have := gate.cancelled_le _ h
    omega
  simpa [isCancelled, taken, nextPermit] using hfresh

end Gate

end CitedChat
