import McuRom.Romtime.SocManager

namespace McuRom

open Mmio

/-!
# The mailbox as a lockable device

The mailbox is an arbitrary device behind a hardware lock bit: a read of LOCK
returns the current bit and sets it, and a zero written to EXECUTE clears it.
What the other registers answer is left to an inner device.

Each driver function gets one lemma that gives its complete execution: the
accesses it makes, its result, and the state it leaves.  Everything proved
about requests and sessions later is read off these equations.
-/

namespace CaliptraSoC

variable {σ : Type} (soc : CaliptraSoC) (inner : Device Word Word σ)

/-- The mailbox of a SoC manager, with `inner` behind the lock bit. -/
def mailbox : Device Word Word (Device.Locked σ) :=
  Device.withLock (soc.socMboxReg mboxLock) (soc.socMboxReg mboxExecute) inner

/-- Distinct offsets are distinct registers, wherever the block is mapped. -/
theorem socMboxReg_inj {first second : Word} :
    soc.socMboxReg first = soc.socMboxReg second ↔ first = second :=
  BitVec.add_right_inj _

theorem socMboxReg_ne {first second : Word} (different : first ≠ second) :
    soc.socMboxReg first ≠ soc.socMboxReg second :=
  fun same => different (soc.socMboxReg_inj.mp same)

/-- The word a LOCK read returns. -/
def lockReply (state : Device.Locked σ) : Word :=
  Device.lockWord (inner.read state.rest (soc.socMboxReg mboxLock)).1 state.lock

/-- What the guards of the driver see of it. -/
theorem lockReply_and_one (state : Device.Locked σ) :
    soc.lockReply inner state &&& 0x01 = if state.lock then 0x01 else 0x00 :=
  Device.lockWord_and_one _ _

theorem mailbox_read_lock (state : Device.Locked σ) :
    (soc.mailbox inner).read state (soc.socMboxReg mboxLock) =
      (soc.lockReply inner state, { state with lock := true }) :=
  Device.withLock_read_lock _ _ inner state

theorem mailbox_read_of_ne (state : Device.Locked σ) {addr : Word}
    (different : addr ≠ soc.socMboxReg mboxLock) :
    (soc.mailbox inner).read state addr =
      ((inner.read state.rest addr).1, { state with rest := (inner.read state.rest addr).2 }) :=
  Device.withLock_read_of_ne _ _ inner state different

/-! ## Taking the lock -/

theorem run_lockMailbox (state : Device.Locked σ) :
    soc.lockMailbox.run (soc.mailbox inner) state =
      ⟨[.read (soc.socMboxReg mboxLock) (soc.lockReply inner state)],
        if state.lock then .error .mboxLockFailed else .ok (),
        { state with lock := true }⟩ := by
  have guard := soc.lockReply_and_one inner state
  simp only [lockMailbox, readSocMbox, Program.run_bind, Program.run_readReg, mailbox_read_lock,
    guard]
  cases state.lock <;> rfl

/-- The guarded writes of `set_command`, `write_data` and `execute_command`. -/
def mboxWrites (list : List (Word × Word)) : List (Word × Word) :=
  list.map fun entry => (soc.socMboxReg entry.1, entry.2)

/-- With the lock held, the guard passes and the registers are written. -/
theorem run_writeWhileLocked_held (list : List (Word × Word)) (state : Device.Locked σ)
    (held : state.lock = true) :
    (soc.writeWhileLocked list).run (soc.mailbox inner) state =
      ⟨.read (soc.socMboxReg mboxLock) (soc.lockReply inner state) ::
          Access.ofWrites (soc.mboxWrites list),
        .ok (), (soc.mailbox inner).writeAll state (soc.mboxWrites list)⟩ := by
  have guard := soc.lockReply_and_one inner state
  have same : { state with lock := true } = state := by rw [← held]
  simp only [writeWhileLocked, readSocMbox, Program.run_bind, Program.run_readReg,
    mailbox_read_lock, guard, held, same]
  simp [Program.run_writeAll, mboxWrites]

/-- With the lock free, the guard's own read takes it, and the call fails. -/
theorem run_writeWhileLocked_free (list : List (Word × Word)) (state : Device.Locked σ)
    (free : state.lock = false) :
    (soc.writeWhileLocked list).run (soc.mailbox inner) state =
      ⟨[.read (soc.socMboxReg mboxLock) (soc.lockReply inner state)],
        .error .mboxLockFailed, { state with lock := true }⟩ := by
  have guard := soc.lockReply_and_one inner state
  simp only [writeWhileLocked, readSocMbox, Program.run_bind, Program.run_readReg,
    mailbox_read_lock, guard, free]
  simp

end CaliptraSoC

end McuRom
