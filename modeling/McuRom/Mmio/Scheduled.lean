import McuRom.Mmio.Sticky

namespace McuRom
namespace Mmio

/-!
# Devices that move by themselves

Other agents act on a device between the accesses of a program.  A schedule
lists what happens before each access; quantifying over schedules quantifies
over every way in which the two can be interleaved.

`Device.writeOneToClear` is the register such an agent raises bits in: a write
clears the bits it contains.  Its state keeps a history, so that what was
raised can be compared with what was cleared.
-/

variable {A W σ α E : Type}

/-- A device and the events before each of the accesses to come. -/
structure Scheduled (E σ : Type) where
  events : Nat → E
  device : σ

namespace Device

variable (happens : σ → E → σ) (dev : Device A W σ)

/-- Before each access, the next event happens. -/
def scheduled : Device A W (Scheduled E σ) where
  read state addr :=
    ((dev.read (happens state.device (state.events 0)) addr).1,
      ⟨fun count => state.events (count + 1),
        (dev.read (happens state.device (state.events 0)) addr).2⟩)
  write state addr value :=
    ⟨fun count => state.events (count + 1),
      dev.write (happens state.device (state.events 0)) addr value⟩

variable {happens dev}

/-- What events and accesses preserve, a program preserves. -/
theorem scheduled_invariant (inv : σ → Prop)
    (events : ∀ state event, inv state → inv (happens state event))
    (reads : ∀ state addr, inv state → inv (dev.read state addr).2)
    (writes : ∀ state addr value, inv state → inv (dev.write state addr value))
    (program : Program A W α) {state : Scheduled E σ} (holds : inv state.device) :
    inv (program.run (scheduled happens dev) state).state.device :=
  Program.run_invariant (fun state : Scheduled E σ => inv state.device)
    (fun state addr held => reads _ addr (events state.device _ held))
    (fun state addr value held => writes _ addr value (events state.device _ held)) program holds

end Device

/-! ## Bits that are cleared by writing them -/

variable {w : Nat}

/-- The register, its history, and the rest of the device. -/
structure Notifications (w : Nat) (σ : Type) where
  pending : BitVec w
  /-- every bit that has been pending so far -/
  raised : BitVec w
  /-- every bit that a write has cleared so far -/
  cleared : BitVec w
  rest : σ

namespace Notifications

/-- Nothing has been cleared yet. -/
def start (pending : BitVec w) (rest : σ) : Notifications w σ := ⟨pending, pending, 0#w, rest⟩

def raise (state : Notifications w σ) (bits : BitVec w) : Notifications w σ :=
  { state with pending := state.pending ||| bits, raised := state.raised ||| bits }

def clear (state : Notifications w σ) (bits : BitVec w) : Notifications w σ :=
  { state with
    pending := state.pending &&& ~~~bits
    cleared := state.cleared ||| (state.pending &&& bits) }

/-- What was raised is either pending or cleared. -/
def Accounted (state : Notifications w σ) : Prop := state.raised = state.pending ||| state.cleared

theorem accounted_start (pending : BitVec w) (rest : σ) : (start pending rest).Accounted :=
  (BitVec.or_zero).symm

theorem Accounted.raise {state : Notifications w σ} (accounted : state.Accounted)
    (bits : BitVec w) : (state.raise bits).Accounted := by
  unfold Accounted at accounted ⊢
  change state.raised ||| bits = state.pending ||| bits ||| state.cleared
  rw [accounted, BitVec.or_assoc, BitVec.or_assoc, BitVec.or_comm bits]

theorem Accounted.clear {state : Notifications w σ} (accounted : state.Accounted)
    (bits : BitVec w) : (state.clear bits).Accounted := by
  unfold Accounted at accounted ⊢
  change state.raised = state.pending &&& ~~~bits ||| (state.cleared ||| state.pending &&& bits)
  rw [accounted]
  ext bit inside
  simp only [BitVec.getElem_or, BitVec.getElem_and, BitVec.getElem_not]
  cases state.pending[bit] <;> cases bits[bit] <;> cases state.cleared[bit] <;> rfl

/-- A bit outside of what was cleared is pending if it was ever raised. -/
theorem Accounted.kept {state : Notifications w σ} (accounted : state.Accounted)
    {mask : BitVec w} (inside : state.cleared &&& ~~~mask = 0#w) :
    state.pending &&& ~~~mask = state.raised &&& ~~~mask := by
  rw [accounted, BitVec.and_or_distrib_right, inside, BitVec.or_zero]

end Notifications

/-- A register whose bits are cleared by writing ones to them. -/
def Device.writeOneToClear [DecidableEq A] (register : A) (dev : Device A (BitVec w) σ) :
    Device A (BitVec w) (Notifications w σ) where
  read state addr :=
    if addr = register then (state.pending, state)
    else ((dev.read state.rest addr).1, { state with rest := (dev.read state.rest addr).2 })
  write state addr value :=
    if addr = register then state.clear value
    else { state with rest := dev.write state.rest addr value }

section WriteOneToClear

variable [DecidableEq A] {register addr : A} {dev : Device A (BitVec w) σ}

theorem Device.writeOneToClear_read (state : Notifications w σ) :
    (writeOneToClear register dev).read state register = (state.pending, state) :=
  if_pos rfl

theorem Device.writeOneToClear_write (state : Notifications w σ) (value : BitVec w) :
    (writeOneToClear register dev).write state register value = state.clear value :=
  if_pos rfl

theorem Device.writeOneToClear_read_of_ne (different : addr ≠ register)
    (state : Notifications w σ) :
    (writeOneToClear register dev).read state addr =
      ((dev.read state.rest addr).1, { state with rest := (dev.read state.rest addr).2 }) :=
  if_neg different

theorem Device.writeOneToClear_write_of_ne (different : addr ≠ register)
    (state : Notifications w σ) (value : BitVec w) :
    (writeOneToClear register dev).write state addr value =
      { state with rest := dev.write state.rest addr value } :=
  if_neg different

/-- Whatever a program does, no bit is pending or cleared that was not raised,
and none vanishes. -/
theorem Program.run_accounted (program : Program A (BitVec w) α)
    {state : Scheduled (BitVec w) (Notifications w σ)} (accounted : state.device.Accounted) :
    (program.run (Device.scheduled Notifications.raise (Device.writeOneToClear register dev))
      state).state.device.Accounted := by
  apply Device.scheduled_invariant Notifications.Accounted
  · intro state bits held
    exact held.raise bits
  · intro state addr held
    by_cases same : addr = register
    · rw [same, Device.writeOneToClear_read]
      exact held
    · rw [Device.writeOneToClear_read_of_ne same]
      exact held
  · intro state addr value held
    by_cases same : addr = register
    · rw [same, Device.writeOneToClear_write]
      exact held.clear value
    · rw [Device.writeOneToClear_write_of_ne same]
      exact held
  · exact accounted

end WriteOneToClear

end Mmio
end McuRom
