import McuRom.Romtime.FlowHistory

namespace McuRom

open Mmio

/-!
# Four register arrays and the registers around them

The users and the locks of both mailboxes are arrays in the middle of the MCI
register file.  A call that writes to one of them addresses the register by
its index, and checks the index.  Whatever calls are made, each register then
behaves as a cell of its own.
-/

namespace Mci

/-- The register arrays of the mailboxes. -/
inductive SlotArray where
  | mbox0User
  | mbox0Lock
  | mbox1User
  | mbox1Lock
deriving DecidableEq, Repr

namespace SlotArray

def base : SlotArray → Word
  | mbox0User => regMbox0ValidAxiUserBase
  | mbox0Lock => regMbox0AxiUserLockBase
  | mbox1User => regMbox1ValidAxiUserBase
  | mbox1Lock => regMbox1AxiUserLockBase

/-- The offset of one register of an array. -/
def slot (array : SlotArray) (index : SizeT) : Word := array.base + index * 4

/-- What a read of one register returns: the user, or the lock bit. -/
abbrev Content : SlotArray → Type
  | mbox0User | mbox1User => Word
  | mbox0Lock | mbox1Lock => Bool

/-- The part of the register that a read returns. -/
def content : (array : SlotArray) → Word → array.Content
  | mbox0User, value => value
  | mbox0Lock, value => value &&& mboxAxiUserLockBit != 0
  | mbox1User, value => value
  | mbox1Lock, value => value &&& mboxAxiUserLockBit != 0

/-- The driver's read of an array. -/
def read (mci : Mci) : (array : SlotArray) → SizeT → Driver (Option array.Content)
  | mbox0User, index => mci.readMbox0ValidAxiUser index
  | mbox0Lock, index => mci.readMbox0AxiUserLock index
  | mbox1User, index => mci.readMbox1ValidAxiUser index
  | mbox1Lock, index => mci.readMbox1AxiUserLock index

end SlotArray

/-- The calls that write to the arrays, and those that update the flow status
in front of them. -/
inductive RegisterCall where
  | writeMbox0ValidAxiUser (index : SizeT) (value : Word)
  | lockMbox0AxiUser (index : SizeT)
  | writeMbox1ValidAxiUser (index : SizeT) (value : Word)
  | lockMbox1AxiUser (index : SizeT)
  | flow (update : FlowUpdate)
deriving DecidableEq, Repr

/-- A write to a register of an array. -/
structure SlotWrite where
  array : SlotArray
  index : SizeT
  value : Word
deriving DecidableEq, Repr

namespace RegisterCall

/-- What a call writes, unless it is about the flow status. -/
def slotWrite? : RegisterCall → Option SlotWrite
  | writeMbox0ValidAxiUser index value => some ⟨.mbox0User, index, value⟩
  | lockMbox0AxiUser index => some ⟨.mbox0Lock, index, mboxAxiUserLockBit⟩
  | writeMbox1ValidAxiUser index value => some ⟨.mbox1User, index, value⟩
  | lockMbox1AxiUser index => some ⟨.mbox1Lock, index, mboxAxiUserLockBit⟩
  | flow _ => none

/-- The value a call writes to a given register of an array. -/
def valueFor (array : SlotArray) (index : SizeT) (call : RegisterCall) : Option Word :=
  call.slotWrite?.bind fun write =>
    if write.array = array ∧ write.index = index then some write.value else none

/-- The values that calls write to a given register of an array, in order. -/
def valuesFor (array : SlotArray) (index : SizeT) (calls : List RegisterCall) : List Word :=
  calls.filterMap (valueFor array index)

variable (mci : Mci)

/-- A call, with the result of those that have one. -/
def perform : RegisterCall → Driver (Option Bool)
  | writeMbox0ValidAxiUser index value => some <$> mci.writeMbox0ValidAxiUser index value
  | lockMbox0AxiUser index => some <$> mci.lockMbox0AxiUser index
  | writeMbox1ValidAxiUser index value => some <$> mci.writeMbox1ValidAxiUser index value
  | lockMbox1AxiUser index => some <$> mci.lockMbox1AxiUser index
  | flow update => (fun () => none) <$> update.perform mci

/-- Calls one after the other. -/
def performAll : List RegisterCall → Driver Unit
  | [] => pure ()
  | call :: rest => do
    let _ ← call.perform mci
    performAll rest

/-- The registers after calls. -/
def after (calls : List RegisterCall) (file : Word → Word) : Word → Word :=
  ((performAll mci calls).run Device.storage file).state

end RegisterCall

/-- The registers of the driver that the calls are not about. -/
def otherRegisters : List Word :=
  [regSecurityState, regCptraBootGo, regFwErrorFatal, regHwFlowStatus, regMcuNmiVector,
    regWdtTimer1TimeoutPeriod0, regWdtTimer1TimeoutPeriod1, regWdtTimer2TimeoutPeriod0,
    regWdtTimer2TimeoutPeriod1, regWdtTimer1Ctrl, regWdtTimer1En, regResetReason,
    regResetRequest, regSsConfigDoneSticky, regSsConfigDone] ++
  regArray regProdDebugUnlockPkHashBase pkHashRegCount ++
  [regNotif0IntrTrigR, regNotif0InternalIntrR]

/-- After any calls, a read of a slot returns what the calls have written to
exactly that slot last, or else what has been in it before.  An index outside
the array is refused without an access.  No other register changes. -/
structure SlotsIndependent (mci : Mci) (file : Word → Word) (calls : List RegisterCall) : Prop where
  reads : ∀ (array : SlotArray) (index : SizeT), index < sizeT mboxAxiUserCount →
    ((array.read mci index).run Device.storage (RegisterCall.after mci calls file)).result =
      some (array.content ((RegisterCall.valuesFor array index calls).getLastD
        (file (mci.reg (array.slot index)))))
  refusesRead : ∀ (array : SlotArray) (index : SizeT), ¬ index < sizeT mboxAxiUserCount →
    (array.read mci index).run Device.storage (RegisterCall.after mci calls file) =
      ⟨[], none, RegisterCall.after mci calls file⟩
  refusesWrite : ∀ (call : RegisterCall), ∀ write ∈ call.slotWrite?,
    ¬ write.index < sizeT mboxAxiUserCount →
    (call.perform mci).run Device.storage (RegisterCall.after mci calls file) =
      ⟨[], some false, RegisterCall.after mci calls file⟩
  unchanged : ∀ offset ∈ otherRegisters,
    RegisterCall.after mci calls file (mci.reg offset) = file (mci.reg offset)

/-! ## The addresses -/

namespace SlotArray

/-- The arrays lie one behind the other. -/
theorem slot_toNat (array : SlotArray) {index : SizeT} (inside : index < sizeT mboxAxiUserCount) :
    (array.slot index).toNat = array.base.toNat + 4 * index.toNat := by
  have bound : index.toNat < 8 := inside
  have small : array.base.toNat < 2 ^ 8 := by cases array <;> decide
  have four : (4 : Word).toNat = 4 := rfl
  rw [slot, BitVec.toNat_add, BitVec.toNat_mul, four]
  omega

theorem base_apart {array other : SlotArray} (different : array ≠ other) :
    array.base.toNat + 32 ≤ other.base.toNat ∨ other.base.toNat + 32 ≤ array.base.toNat := by
  revert different
  cases array <;> cases other <;> decide

theorem slot_inj {array other : SlotArray} {index otherIndex : SizeT}
    (inside : index < sizeT mboxAxiUserCount) (otherInside : otherIndex < sizeT mboxAxiUserCount)
    (same : array.slot index = other.slot otherIndex) : array = other ∧ index = otherIndex := by
  have numbers := congrArg BitVec.toNat same
  rw [slot_toNat array inside, slot_toNat other otherInside] at numbers
  have bound : index.toNat < 8 := inside
  have otherBound : otherIndex.toNat < 8 := otherInside
  by_cases array_eq : array = other
  · subst array_eq
    exact ⟨rfl, BitVec.eq_of_toNat_eq (by omega)⟩
  · have apart := base_apart array_eq
    omega

/-- The driver's other registers lie in front of the arrays or behind them. -/
theorem slot_ne_of_outside {array : SlotArray} {index : SizeT}
    (inside : index < sizeT mboxAxiUserCount) {offset : Word}
    (outside : offset.toNat < 0x80 ∨ 0x100 ≤ offset.toNat) : offset ≠ array.slot index := by
  rintro rfl
  have bound : index.toNat < 8 := inside
  have base : 0x80 ≤ array.base.toNat ∧ array.base.toNat ≤ 0xE0 := by cases array <;> decide
  rw [slot_toNat array inside] at outside
  omega

end SlotArray

theorem otherRegisters_outside {offset : Word} (other : offset ∈ otherRegisters) :
    (offset.toNat < 0x80 ∨ 0x100 ≤ offset.toNat) ∧ offset ≠ regFwFlowStatus := by
  have all : otherRegisters.all (fun offset =>
      decide ((offset.toNat < 0x80 ∨ 0x100 ≤ offset.toNat) ∧ offset ≠ regFwFlowStatus)) := rfl
  exact of_decide_eq_true (List.all_eq_true.mp all offset other)

theorem reg_ne (mci : Mci) {first second : Word} (different : first ≠ second) :
    mci.reg first ≠ mci.reg second :=
  offset_ne mci.baseAddr different

/-! ## One call -/

namespace RegisterCall

variable (mci : Mci) (file : Word → Word)

theorem perform_eq_writeArray {call : RegisterCall} {write : SlotWrite}
    (writes : call.slotWrite? = some write) :
    call.perform mci =
      some <$> mci.writeArray write.array.base mboxAxiUserCount write.index write.value := by
  cases call <;> cases writes <;> rfl

theorem run_perform_inside {call : RegisterCall} {write : SlotWrite}
    (writes : call.slotWrite? = some write) (inside : write.index < sizeT mboxAxiUserCount) :
    ((call.perform mci).run Device.storage file).state =
      Function.update file (mci.reg (write.array.slot write.index)) write.value := by
  rw [perform_eq_writeArray mci writes, writeArray, if_neg (BitVec.not_le.mpr inside)]
  rfl

theorem run_perform_outside {call : RegisterCall} {write : SlotWrite}
    (writes : call.slotWrite? = some write) (outside : ¬ write.index < sizeT mboxAxiUserCount) :
    (call.perform mci).run Device.storage file = ⟨[], some false, file⟩ := by
  rw [perform_eq_writeArray mci writes, writeArray, if_pos (BitVec.not_lt.mp outside)]
  rfl

/-- A register that is neither the slot nor the flow status keeps its content. -/
theorem run_perform_of_ne (call : RegisterCall) {offset : Word} (notFlow : offset ≠ regFwFlowStatus)
    (notSlot : ∀ write ∈ call.slotWrite?, write.index < sizeT mboxAxiUserCount →
      offset ≠ write.array.slot write.index) :
    ((call.perform mci).run Device.storage file).state (mci.reg offset) = file (mci.reg offset) := by
  cases writes : call.slotWrite? with
  | none =>
      cases call with
      | flow update =>
          have updated := FlowUpdate.run_perform mci update file
          change ((update.perform mci >>= fun () => pure none).run Device.storage file).state _ = _
          rw [Program.run_bind, Run.after_state, Program.pure_eq, Program.run_ret, updated,
            Function.update_of_ne (reg_ne mci notFlow)]
      | writeMbox0ValidAxiUser index value => cases writes
      | lockMbox0AxiUser index => cases writes
      | writeMbox1ValidAxiUser index value => cases writes
      | lockMbox1AxiUser index => cases writes
  | some write =>
      by_cases inside : write.index < sizeT mboxAxiUserCount
      · have apart := notSlot write writes inside
        rw [run_perform_inside mci file writes inside, Function.update_of_ne (reg_ne mci apart)]
      · rw [run_perform_outside mci file writes inside]

/-- A slot has what the call writes to it, or what it had. -/
theorem run_perform_slot (call : RegisterCall) (array : SlotArray) {index : SizeT}
    (inside : index < sizeT mboxAxiUserCount) :
    ((call.perform mci).run Device.storage file).state (mci.reg (array.slot index)) =
      (call.valueFor array index).getD (file (mci.reg (array.slot index))) := by
  have notFlow : array.slot index ≠ regFwFlowStatus :=
    (SlotArray.slot_ne_of_outside inside (by decide)).symm
  cases writes : call.slotWrite? with
  | none =>
      rw [run_perform_of_ne mci file call notFlow (by rw [writes]; rintro _ ⟨⟩), valueFor, writes]
      rfl
  | some write =>
      rw [valueFor, writes, Option.bind_some]
      by_cases same : write.array = array ∧ write.index = index
      · rcases same with ⟨rfl, rfl⟩
        rw [run_perform_inside mci file writes inside, Function.update_self, if_pos ⟨rfl, rfl⟩]
        rfl
      · rw [if_neg same, Option.getD_none]
        refine run_perform_of_ne mci file call notFlow fun found isFound foundInside equal => ?_
        rw [writes] at isFound
        cases isFound
        have twice := SlotArray.slot_inj inside foundInside equal
        exact same ⟨twice.1.symm, twice.2.symm⟩

/-! ## All calls -/

theorem after_cons (call : RegisterCall) (rest : List RegisterCall) :
    after mci (call :: rest) file =
      after mci rest ((call.perform mci).run Device.storage file).state := by
  rw [after, performAll, Program.run_bind]
  rfl

theorem after_slot (calls : List RegisterCall) (array : SlotArray) {index : SizeT}
    (inside : index < sizeT mboxAxiUserCount) :
    after mci calls file (mci.reg (array.slot index)) =
      (valuesFor array index calls).getLastD (file (mci.reg (array.slot index))) := by
  induction calls generalizing file with
  | nil => rfl
  | cons call rest ih =>
      rw [after_cons, ih, run_perform_slot mci file call array inside, valuesFor, valuesFor,
        List.filterMap_cons]
      cases call.valueFor array index with
      | none => rfl
      | some value => rw [List.getLastD_cons, Option.getD_some]

theorem after_other (calls : List RegisterCall) {offset : Word} (other : offset ∈ otherRegisters) :
    after mci calls file (mci.reg offset) = file (mci.reg offset) := by
  rcases otherRegisters_outside other with ⟨outside, notFlow⟩
  induction calls generalizing file with
  | nil => rfl
  | cons call rest ih =>
      rw [after_cons, ih, run_perform_of_ne mci file call notFlow]
      intro write _ inside
      exact SlotArray.slot_ne_of_outside inside outside

end RegisterCall

theorem SlotArray.run_read_inside (array : SlotArray) (mci : Mci) (file : Word → Word)
    {index : SizeT} (inside : index < sizeT mboxAxiUserCount) :
    ((array.read mci index).run Device.storage file).result =
      some (array.content (file (mci.reg (array.slot index)))) := by
  have checked : ¬ sizeT mboxAxiUserCount ≤ index := BitVec.not_le.mpr inside
  cases array <;>
    simp only [read, readMbox0ValidAxiUser, readMbox0AxiUserLock, readMbox1ValidAxiUser,
      readMbox1AxiUserLock, readArray, readLockArray, if_neg checked] <;> rfl

theorem SlotArray.run_read_outside (array : SlotArray) (mci : Mci) (file : Word → Word)
    {index : SizeT} (outside : ¬ index < sizeT mboxAxiUserCount) :
    (array.read mci index).run Device.storage file = ⟨[], none, file⟩ := by
  have checked : sizeT mboxAxiUserCount ≤ index := BitVec.not_lt.mp outside
  cases array <;>
    simp only [read, readMbox0ValidAxiUser, readMbox0AxiUserLock, readMbox1ValidAxiUser,
      readMbox1AxiUserLock, readArray, readLockArray, if_pos checked] <;> rfl

/-- The slot registers are independent of each other and of the registers
around them. -/
theorem slots_independent (mci : Mci) (file : Word → Word) (calls : List RegisterCall) :
    SlotsIndependent mci file calls := by
  constructor
  · intro array index inside
    rw [array.run_read_inside mci _ inside, RegisterCall.after_slot mci file calls array inside]
  · intro array index outside
    exact array.run_read_outside mci _ outside
  · intro call write writes outside
    exact RegisterCall.run_perform_outside mci _ writes outside
  · intro offset other
    exact RegisterCall.after_other mci file calls other

end Mci

end McuRom
