import McuRom.Mmio.Scheduled
import McuRom.Romtime.Mci

namespace McuRom

open Mmio

/-!
# The MCI interrupt handler

Notifications are raised by other agents at any moment and are cleared by
writing ones.  The handler clears the reset request with a read-modify-write,
which writes back every bit it finds, so that it also clears notifications it
does not handle.
-/

namespace Mci

variable (mci : Mci)

/-- The interrupt register in front of the other registers, with
notifications arriving before every access. -/
def interruptDevice : Device Word Word (Scheduled Word (Notifications 32 (Word → Word))) :=
  Device.scheduled Notifications.raise
    (Device.writeOneToClear (mci.reg regNotif0InternalIntrR) Device.storage)

variable (pending : Word) (file : Word → Word) (arrivals : Nat → Word)

/-- What the handler leaves behind. -/
def handled : Notifications 32 (Word → Word) :=
  (mci.handleInterrupt.run mci.interruptDevice ⟨arrivals, .start pending file⟩).state.device

/-- The reset request is pending when the handler first looks. -/
def ResetRequested : Prop := (pending ||| arrivals 0) &&& notifCptraMcuResetReqStsMask ≠ 0

instance : Decidable (ResetRequested pending arrivals) := inferInstanceAs (Decidable (_ ≠ _))

/-- No other notification is pending, or arrives until the handler has read
the register for the second time. -/
def NothingElse : Prop :=
  (pending ||| arrivals 0 ||| arrivals 1) &&& ~~~notifCptraMcuResetReqStsMask = 0

/-- The handler clears the reset request and nothing else, and only if it was
pending; then it sets the request bit and preserves the other bits. -/
structure HandlesExactly : Prop where
  cleared : (mci.handled pending file arrivals).cleared =
    if ResetRequested pending arrivals then notifCptraMcuResetReqStsMask else 0
  kept : (mci.handled pending file arrivals).pending &&& ~~~notifCptraMcuResetReqStsMask =
    (mci.handled pending file arrivals).raised &&& ~~~notifCptraMcuResetReqStsMask
  requests : (mci.handled pending file arrivals).rest =
    if ResetRequested pending arrivals then
      Function.update file (mci.reg regResetRequest)
        (file (mci.reg regResetRequest) ||| resetRequestMcuReq)
    else file

/-! ## The two kinds of execution -/

theorem resetRequest_ne : mci.reg regResetRequest ≠ mci.reg regNotif0InternalIntrR :=
  offset_ne _ (by decide)

variable (state : Scheduled Word (Notifications 32 (Word → Word)))

/-- A read-modify-write of the interrupt register clears what it read there. -/
theorem modifyReg_intr (mask value : Word) :
    ((mci.modifyReg regNotif0InternalIntrR mask value).run mci.interruptDevice state).state =
      ⟨fun count => state.events (count + 2),
        ((state.device.raise (state.events 0)).raise (state.events 1)).clear
          (((state.device.pending ||| state.events 0) &&& ~~~mask) ||| (value &&& mask))⟩ := by
  simp only [modifyReg, readReg, writeReg, Program.run_bind, Program.run_readReg,
    Program.run_writeReg, Run.after_state, interruptDevice, Device.scheduled,
    Device.writeOneToClear_read, Device.writeOneToClear_write]
  rfl

theorem modifyReg_rest {offset : Word}
    (different : mci.reg offset ≠ mci.reg regNotif0InternalIntrR) (mask value : Word) :
    ((mci.modifyReg offset mask value).run mci.interruptDevice state).state =
      ⟨fun count => state.events (count + 2),
        { (state.device.raise (state.events 0)).raise (state.events 1) with
          rest := Function.update state.device.rest (mci.reg offset)
            ((state.device.rest (mci.reg offset) &&& ~~~mask) ||| (value &&& mask)) }⟩ := by
  simp only [modifyReg, readReg, writeReg, Program.run_bind, Program.run_readReg,
    Program.run_writeReg, Run.after_state, interruptDevice, Device.scheduled,
    Device.writeOneToClear_read_of_ne different, Device.writeOneToClear_write_of_ne different]
  rfl

/-- The handler's first look at the register. -/
theorem look_intr :
    mci.interruptDevice.read ⟨arrivals, .start pending file⟩ (mci.reg regNotif0InternalIntrR) =
      (pending ||| arrivals 0, ⟨fun count => arrivals (count + 1),
        (Notifications.start pending file).raise (arrivals 0)⟩) := by
  simp only [interruptDevice, Device.scheduled, Device.writeOneToClear_read]
  rfl

variable {pending arrivals}

theorem handled_idle (idle : ¬ ResetRequested pending arrivals) :
    mci.handled pending file arrivals =
      (Notifications.start pending file).raise (arrivals 0) := by
  unfold ResetRequested at idle
  simp only [handled, handleInterrupt, readReg, Program.run_bind, Program.run_readReg, look_intr,
    Run.after_state]
  rw [if_neg idle]
  rfl

/-- The registers after the two read-modify-writes. -/
theorem handled_reset (requested : ResetRequested pending arrivals) :
    mci.handled pending file arrivals =
      { ((((((Notifications.start pending file).raise (arrivals 0)).raise (arrivals 1)).raise
            (arrivals 2)).clear
              (((pending ||| arrivals 0 ||| arrivals 1) &&& ~~~notifCptraMcuResetReqStsMask) |||
                (notifCptraMcuResetReqStsMask &&& notifCptraMcuResetReqStsMask))).raise
          (arrivals 3)).raise (arrivals 4) with
        rest := Function.update file (mci.reg regResetRequest)
          ((file (mci.reg regResetRequest) &&& ~~~resetRequestMcuReq) |||
            (resetRequestMcuReq &&& resetRequestMcuReq)) } := by
  unfold ResetRequested at requested
  simp only [handled, handleInterrupt, readReg, Program.run_bind, Program.run_readReg, look_intr,
    Run.after_state]
  rw [if_pos requested, Program.run_bind, Run.after_state, modifyReg_intr,
    modifyReg_rest mci _ mci.resetRequest_ne]
  rfl

/-! ## What is cleared -/

/-- The reset request is a single bit. -/
theorem and_resetReq {status : Word} (requested : status &&& notifCptraMcuResetReqStsMask ≠ 0) :
    status &&& notifCptraMcuResetReqStsMask = notifCptraMcuResetReqStsMask := by
  have bit : notifCptraMcuResetReqStsMask = BitVec.twoPow 32 1 := rfl
  rw [bit, BitVec.and_twoPow] at requested ⊢
  split at requested
  · rename_i set
    rw [if_pos set]
  · exact absurd rfl requested

theorem or_and_mask {status mask : Word} (inside : status &&& mask = mask) (later : Word) :
    (status ||| later) &&& mask = mask := by
  ext bit bound
  have set := congrArg (fun word : Word => word[bit]) inside
  simp only [BitVec.getElem_or, BitVec.getElem_and] at set ⊢
  revert set
  cases status[bit] <;> cases mask[bit] <;> cases later[bit] <;> decide

/-- Writing back what was read clears all of it. -/
theorem written_back {status mask : Word} (inside : status &&& mask = mask) (later : Word) :
    (status ||| later) &&& ((status &&& ~~~mask) ||| (mask &&& mask)) =
      (status &&& ~~~mask) ||| mask := by
  ext bit bound
  have set := congrArg (fun word : Word => word[bit]) inside
  simp only [BitVec.getElem_or, BitVec.getElem_and, BitVec.getElem_not] at set ⊢
  revert set
  cases status[bit] <;> cases mask[bit] <;> cases later[bit] <;> decide

theorem or_eq_mask_iff (status mask : Word) :
    (status &&& ~~~mask) ||| mask = mask ↔ status &&& ~~~mask = 0 := by
  constructor
  · intro absorbed
    have outside := congrArg (· &&& ~~~mask) absorbed
    rw [BitVec.and_or_distrib_right, BitVec.and_assoc, BitVec.and_self, BitVec.and_not_self]
      at outside
    exact (BitVec.or_zero).symm.trans outside
  · intro nothing
    rw [nothing]
    exact BitVec.zero_or

/-- Setting bits with a mask keeps the others. -/
theorem modified (value mask : Word) : (value &&& ~~~mask) ||| (mask &&& mask) = value ||| mask := by
  ext bit bound
  simp only [BitVec.getElem_or, BitVec.getElem_and, BitVec.getElem_not]
  cases value[bit] <;> cases mask[bit] <;> rfl

variable (pending arrivals)

theorem handled_accounted : (mci.handled pending file arrivals).Accounted :=
  Program.run_accounted _ (Notifications.accounted_start pending file)

variable {pending arrivals} in
/-- The handler clears whatever it read the second time. -/
theorem cleared_reset (requested : ResetRequested pending arrivals) :
    (mci.handled pending file arrivals).cleared =
      ((pending ||| arrivals 0 ||| arrivals 1) &&& ~~~notifCptraMcuResetReqStsMask) |||
        notifCptraMcuResetReqStsMask := by
  have inside := or_and_mask (and_resetReq requested) (arrivals 1)
  rw [handled_reset mci file requested]
  change 0#32 ||| _ &&& _ = _
  rw [BitVec.zero_or]
  exact written_back inside (arrivals 2)

/-- The handler loses no notification exactly if it finds none that it could
lose. -/
theorem handlesExactly_iff :
    HandlesExactly mci pending file arrivals ↔
      ¬ ResetRequested pending arrivals ∨ NothingElse pending arrivals := by
  by_cases requested : ResetRequested pending arrivals
  · have cleared := cleared_reset mci file requested
    constructor
    · intro exactly
      have same := exactly.cleared
      rw [cleared, if_pos requested, or_eq_mask_iff] at same
      exact Or.inr same
    · intro either
      have nothing := either.resolve_left (not_not_intro requested)
      rw [(or_eq_mask_iff _ _).mpr nothing] at cleared
      refine ⟨?_, ?_, ?_⟩
      · rw [cleared, if_pos requested]
      · apply (handled_accounted mci pending file arrivals).kept
        rw [cleared]
        exact BitVec.and_not_self _
      · rw [if_pos requested, handled_reset mci file requested]
        exact congrArg (Function.update file _) (modified _ _)
  · have idle := handled_idle mci file requested
    refine iff_of_true ⟨?_, ?_, ?_⟩ (Or.inl requested)
    · rw [idle, if_neg requested]
      rfl
    · rw [idle]
      rfl
    · rw [idle, if_neg requested]
      rfl

/-- With a second notification pending, the handler leaves nothing pending. -/
theorem handleInterrupt_loses_notification :
    (Mci.handled ⟨0⟩ 0b110 (fun _ => 0) (fun _ => 0)).pending = 0 ∧
      ¬ HandlesExactly ⟨0⟩ 0b110 (fun _ => 0) (fun _ => 0) := by
  have requested : ResetRequested 0b110 (fun _ => 0) := by decide
  constructor
  · rw [handled_reset _ _ requested]
    rfl
  · intro exactly
    have same := exactly.cleared
    rw [cleared_reset _ _ requested, if_pos requested] at same
    exact absurd same (by decide)

end Mci

end McuRom
