import McuRom.Mmio.Acknowledge
import McuRom.Mmio.Bits
import McuRom.Mmio.Objects
import McuRom.Rom.I3c

namespace McuRom

open Mmio

/-!
# Sessions with the I3C driver

The functions around the transfers share a control register, whose bits are
changed one at a time, and an interrupt status register, in which the bus
raises bits at any moment.  To its callers the controller is a record: it is
enabled or not, its FIFOs are held in reset or not, and it has an address.

The interrupt handler writes back what it has read.  An interrupt that was not
shown stays pending whenever it arrives, and one that is raised while it is
pending is the same interrupt, so that over a session none is lost.
-/

namespace I3c

def regStatus : Word := 0x04
def regDynamicAddr : Word := 0x08
def regIntrStatus : Word := 0x20

def statusTransferPending : Word := 0x01

variable (i3c : I3c)

/-- Check if controller is enabled -/
def isEnabled : Driver Bool := do
  let ctrl ← i3c.readReg regCtrl
  pure (ctrl &&& ctrlEnable != 0)

/-- Disable controller -/
def disable : Driver Unit := i3c.modifyReg regCtrl ctrlEnable 0

/-- Set dynamic address -/
def setDynamicAddress (addr : Byte) : Driver Unit := i3c.writeReg regDynamicAddr (addr.setWidth 32)

/-- Get dynamic address -/
def dynamicAddress : Driver Byte := do
  let value ← i3c.readReg regDynamicAddr
  pure ((value &&& 0x7F).setWidth 8)

/-- Check if transfer is pending -/
def isTransferPending : Driver Bool := do
  let status ← i3c.readReg regStatus
  pure (status &&& statusTransferPending != 0)

/-- Handle interrupt -/
def handleInterrupt : Driver Unit := do
  let intrStatus ← i3c.readReg regIntrStatus
  -- Clear handled interrupts
  i3c.writeReg regIntrStatus intrStatus

/-! ## Calls -/

/-- The calls of the driver, apart from the transfers. -/
inductive Call where
  | init
  | isEnabled
  | enable
  | disable
  | setDynamicAddress (addr : Byte)
  | dynamicAddress
  | isTransferPending
  | txFifoLevel
  | rxFifoLevel
  | clearTxFifo
  | clearRxFifo
  | handleInterrupt

/-- What a call returns. -/
inductive Reply where
  | unit
  | bool (value : Bool)
  | byte (value : Byte)
  | word (value : Word)
  | result (value : McuResult Unit)

/-- The reply of a function that returns nothing. -/
def Reply.ofUnit (_ : Unit) : Reply := unit

/-- A call, as the driver performs it. -/
def perform : Call → Driver Reply
  | .init => Reply.result <$> i3c.init
  | .isEnabled => Reply.bool <$> i3c.isEnabled
  | .enable => Reply.ofUnit <$> i3c.enable
  | .disable => Reply.ofUnit <$> i3c.disable
  | .setDynamicAddress addr => Reply.ofUnit <$> i3c.setDynamicAddress addr
  | .dynamicAddress => Reply.byte <$> i3c.dynamicAddress
  | .isTransferPending => Reply.bool <$> i3c.isTransferPending
  | .txFifoLevel => Reply.word <$> i3c.txFifoLevel
  | .rxFifoLevel => Reply.word <$> i3c.rxFifoLevel
  | .clearTxFifo => Reply.ofUnit <$> i3c.clearTxFifo
  | .clearRxFifo => Reply.ofUnit <$> i3c.clearRxFifo
  | .handleInterrupt => Reply.ofUnit <$> i3c.handleInterrupt

/-! ## The record -/

/-- The controller as its callers see it. -/
structure Controller where
  enabled : Bool
  /-- the FIFOs that are held in reset -/
  txReset : Bool
  rxReset : Bool
  /-- the bits of the control register that the driver has no name for -/
  reserved : Nat → Bool
  status : Word
  address : Word
  txLevel : Nat
  rxLevel : Nat

namespace Controller

/-- The controller that registers represent, by their offsets. -/
def ofCells (cells : Word → Word) : Controller where
  enabled := (cells regCtrl).getLsbD 0
  txReset := (cells regCtrl).getLsbD 1
  rxReset := (cells regCtrl).getLsbD 2
  reserved bit := (cells regCtrl).getLsbD (bit + 3)
  status := cells regStatus
  address := cells regDynamicAddr
  txLevel := (cells regTxFifoStatus).toNat % 32
  rxLevel := (cells regRxFifoStatus).toNat % 32

def reply (controller : Controller) : Call → Reply
  | .init => .result (.ok ())
  | .isEnabled => .bool controller.enabled
  | .dynamicAddress => .byte (BitVec.ofNat 8 (controller.address.toNat % 128))
  | .isTransferPending => .bool (controller.status.getLsbD 0)
  | .txFifoLevel => .word (BitVec.ofNat 32 controller.txLevel)
  | .rxFifoLevel => .word (BitVec.ofNat 32 controller.rxLevel)
  | _ => .unit

def update (controller : Controller) : Call → Controller
  | .init => { controller with enabled := true, txReset := false, rxReset := false }
  | .enable => { controller with enabled := true }
  | .disable => { controller with enabled := false }
  | .setDynamicAddress addr => { controller with address := addr.setWidth 32 }
  | .clearTxFifo => { controller with txReset := false }
  | .clearRxFifo => { controller with rxReset := false }
  | _ => controller

/-- The controller as an object. -/
def object : Object Call Reply Controller := ⟨reply, update⟩

end Controller

/-- The interrupt status in front of the other registers, with interrupts
arriving before every access. -/
def busDevice : Device Word Word (Scheduled Word (Notifications 32 (Word → Word))) :=
  Device.scheduled Notifications.raise
    (Device.writeOneToClear (i3c.reg regIntrStatus) Device.storage)

/-- The controller that the registers represent. -/
def controller (state : Scheduled Word (Notifications 32 (Word → Word))) : Controller :=
  Controller.ofCells fun offset => state.device.rest (i3c.reg offset)

/-! ## One register -/

variable {i3c}

theorem reg_ne {first second : Word} (different : first ≠ second) :
    i3c.reg first ≠ i3c.reg second :=
  offset_ne i3c.baseAddr different

/-- A function of the driver returns and leaves what two functions of the
controller say. -/
abbrev ActsOn (i3c : I3c) {α : Type} (program : Driver α) (result : Controller → α)
    (update : Controller → Controller) : Prop :=
  Program.Acts i3c.busDevice i3c.controller program result update

/-- A read of which the caller uses what the controller has. -/
theorem acts_readPart {α : Type} {offset : Word} (part : Word → α) {content : Controller → α}
    (notIntr : offset ≠ regIntrStatus)
    (shown : ∀ cells, part (cells offset) = content (Controller.ofCells cells)) :
    i3c.ActsOn (i3c.readReg offset >>= fun value => pure (part value)) content id := by
  constructor
  · intro state
    simp only [Program.run_bind, readReg, Program.run_readReg, busDevice, Device.scheduled,
      Device.writeOneToClear_read_of_ne (reg_ne notIntr)]
    exact shown fun offset => state.device.rest (i3c.reg offset)
  · intro state
    simp only [Program.run_bind, readReg, Program.run_readReg, busDevice, Device.scheduled,
      Device.writeOneToClear_read_of_ne (reg_ne notIntr)]
    rfl

/-- The cells after a write. -/
theorem cells_write {offset : Word} (notIntr : offset ≠ regIntrStatus) (value : Word)
    (state : Scheduled Word (Notifications 32 (Word → Word))) :
    (fun other => (i3c.busDevice.write state (i3c.reg offset) value).device.rest (i3c.reg other)) =
      Function.update (fun other => state.device.rest (i3c.reg other)) offset value := by
  simp only [busDevice, Device.scheduled, Device.writeOneToClear_write_of_ne (reg_ne notIntr)]
  funext other
  change Function.update state.device.rest (i3c.reg offset) value (i3c.reg other) = _
  by_cases same : other = offset
  · rw [same, Function.update_self, Function.update_self]
  · rw [Function.update_of_ne same, Function.update_of_ne (reg_ne same)]

theorem acts_writeReg {offset value : Word} {update : Controller → Controller}
    (notIntr : offset ≠ regIntrStatus)
    (stored : ∀ cells, Controller.ofCells (Function.update cells offset value) =
      update (Controller.ofCells cells)) :
    i3c.ActsOn (i3c.writeReg offset value) (fun _ => ()) update :=
  Program.acts_writeReg fun state =>
    (congrArg Controller.ofCells (cells_write notIntr value state)).trans (stored _)

/-! ## The control register -/

/-- Change some bits of the control register. -/
def Controller.modify (controller : Controller) (mask value : Word) : Controller :=
  { controller with
    enabled := if mask.getLsbD 0 then value.getLsbD 0 else controller.enabled
    txReset := if mask.getLsbD 1 then value.getLsbD 1 else controller.txReset
    rxReset := if mask.getLsbD 2 then value.getLsbD 2 else controller.rxReset
    reserved := fun bit =>
      if mask.getLsbD (bit + 3) then value.getLsbD (bit + 3) else controller.reserved bit }

theorem ofCells_ctrl (cells : Word → Word) (mask value : Word) :
    Controller.ofCells (Function.update cells regCtrl
        ((cells regCtrl &&& ~~~mask) ||| (value &&& mask))) =
      (Controller.ofCells cells).modify mask value := by
  unfold Controller.ofCells Controller.modify
  simp (disch := decide) only [Function.update_self, Function.update_of_ne, getLsbD_modified]

theorem acts_modifyCtrl (mask value : Word) :
    i3c.ActsOn (i3c.modifyReg regCtrl mask value) (fun _ => ())
      fun controller => controller.modify mask value := by
  refine ⟨fun _ => rfl, fun state => ?_⟩
  have notIntr : regCtrl ≠ regIntrStatus := by decide
  have stored := ofCells_ctrl (fun offset => state.device.rest (i3c.reg offset)) mask value
  refine Eq.trans ?_ stored
  unfold controller modifyReg
  rw [Program.run_bind, Run.after_state, readReg, Program.run_readReg, writeReg,
    Program.run_writeReg, cells_write notIntr]
  simp only [busDevice, Device.scheduled, Device.writeOneToClear_read_of_ne (reg_ne notIntr)]
  rfl

/-- The driver names the three lowest bits only. -/
theorem getLsbD_named {mask : Word} (named : mask.toNat < 8) (bit : Nat) :
    mask.getLsbD (bit + 3) = false := by
  apply Nat.testBit_lt_two_pow
  have power : 2 ^ 3 ≤ 2 ^ (bit + 3) := Nat.pow_le_pow_right (by decide) (Nat.le_add_left 3 bit)
  exact Nat.lt_of_lt_of_le named power

theorem reserved_kept {mask : Word} (named : mask.toNat < 8) (value : Word)
    (controller : Controller) : (controller.modify mask value).reserved = controller.reserved := by
  funext bit
  unfold Controller.modify
  simp only [getLsbD_named named, Bool.false_eq_true, if_false]

theorem acts_enable :
    i3c.ActsOn i3c.enable (fun _ => ()) fun controller => controller.update .enable :=
  (acts_modifyCtrl ctrlEnable ctrlEnable).congr (fun _ => rfl) fun controller =>
    congrArg (fun reserved => { controller with enabled := true, reserved := reserved })
      (reserved_kept (by decide) ctrlEnable controller)

theorem acts_disable :
    i3c.ActsOn i3c.disable (fun _ => ()) fun controller => controller.update .disable :=
  (acts_modifyCtrl ctrlEnable 0).congr (fun _ => rfl) fun controller =>
    congrArg (fun reserved => { controller with enabled := false, reserved := reserved })
      (reserved_kept (by decide) 0 controller)

/-- The reset bit of a FIFO is set and cleared again. -/
theorem acts_clearTxFifo :
    i3c.ActsOn i3c.clearTxFifo (fun _ => ()) fun controller => controller.update .clearTxFifo := by
  have acts := (@acts_modifyCtrl i3c ctrlTxFifoRst ctrlTxFifoRst).bind fun _ =>
    acts_modifyCtrl ctrlTxFifoRst 0
  have named : ctrlTxFifoRst.toNat < 8 := by decide
  refine acts.congr (fun _ => rfl) fun controller => ?_
  exact congrArg (fun reserved => { controller with txReset := false, reserved := reserved })
    ((reserved_kept named 0 _).trans (reserved_kept named ctrlTxFifoRst controller))

theorem acts_clearRxFifo :
    i3c.ActsOn i3c.clearRxFifo (fun _ => ()) fun controller => controller.update .clearRxFifo := by
  have acts := (@acts_modifyCtrl i3c ctrlRxFifoRst ctrlRxFifoRst).bind fun _ =>
    acts_modifyCtrl ctrlRxFifoRst 0
  have named : ctrlRxFifoRst.toNat < 8 := by decide
  refine acts.congr (fun _ => rfl) fun controller => ?_
  exact congrArg (fun reserved => { controller with rxReset := false, reserved := reserved })
    ((reserved_kept named 0 _).trans (reserved_kept named ctrlRxFifoRst controller))

theorem acts_init :
    i3c.ActsOn i3c.init (fun _ => .ok ()) fun controller => controller.update .init := by
  have returned : i3c.ActsOn (pure (.ok ())) (fun _ => (.ok () : McuResult Unit)) id :=
    Program.acts_pure _
  exact acts_clearTxFifo.bind fun _ => acts_clearRxFifo.bind fun _ => acts_enable.bind fun _ =>
    returned

/-! ## The other functions -/

theorem acts_dynamicAddress :
    i3c.ActsOn i3c.dynamicAddress
      (fun controller => BitVec.ofNat 8 (controller.address.toNat % 128)) id := by
  refine acts_readPart _ (by decide) fun cells => ?_
  have masked : cells regDynamicAddr &&& 0x7F =
      BitVec.ofNat 32 ((cells regDynamicAddr).toNat % 128) :=
    and_mask (cells regDynamicAddr) 7 (by decide)
  rw [masked]
  apply BitVec.eq_of_toNat_eq
  rw [BitVec.toNat_setWidth, BitVec.toNat_ofNat, BitVec.toNat_ofNat]
  exact Nat.mod_mod_of_dvd _ (by decide)

theorem acts_handleInterrupt : i3c.ActsOn i3c.handleInterrupt (fun _ => ()) id := by
  refine ⟨fun _ => rfl, fun state => ?_⟩
  simp only [handleInterrupt, readReg, writeReg, Program.run_bind, Program.run_readReg,
    Program.run_writeReg, Run.after_state, busDevice, Device.scheduled,
    Device.writeOneToClear_read, Device.writeOneToClear_write]
  rfl

/-- Every call acts on the controller, whatever interrupts arrive. -/
theorem implements :
    Program.Implements i3c.busDevice i3c.controller i3c.perform Controller.object := by
  intro call
  cases call with
  | init => exact acts_init.map Reply.result
  | isEnabled =>
      exact (acts_readPart _ (by decide) fun cells => and_one_ne_zero (cells regCtrl)).map
        Reply.bool
  | enable => exact acts_enable.map Reply.ofUnit
  | disable => exact acts_disable.map Reply.ofUnit
  | setDynamicAddress addr =>
      have stored (cells : Word → Word) :
          Controller.ofCells (Function.update cells regDynamicAddr (addr.setWidth 32)) =
            (Controller.ofCells cells).update (.setDynamicAddress addr) := by
        unfold Controller.ofCells Controller.update
        simp (disch := decide) only [Function.update_self, Function.update_of_ne]
      exact (acts_writeReg (by decide) stored).map Reply.ofUnit
  | dynamicAddress => exact acts_dynamicAddress.map Reply.byte
  | isTransferPending =>
      exact (acts_readPart _ (by decide) fun cells => and_one_ne_zero (cells regStatus)).map
        Reply.bool
  | txFifoLevel =>
      exact (acts_readPart _ (by decide) fun cells =>
        and_mask (cells regTxFifoStatus) 5 (by decide)).map Reply.word
  | rxFifoLevel =>
      exact (acts_readPart _ (by decide) fun cells =>
        and_mask (cells regRxFifoStatus) 5 (by decide)).map Reply.word
  | clearTxFifo => exact acts_clearTxFifo.map Reply.ofUnit
  | clearRxFifo => exact acts_clearRxFifo.map Reply.ofUnit
  | handleInterrupt => exact acts_handleInterrupt.map Reply.ofUnit

/-! ## Interrupts -/

theorem modifyReg_within {offset : Word} (notIntr : offset ≠ regIntrStatus) (mask value : Word) :
    (i3c.modifyReg offset mask value).Within fun addr => addr ≠ i3c.reg regIntrStatus :=
  ⟨reg_ne notIntr, fun _ => ⟨reg_ne notIntr, trivial⟩⟩

/-- No call clears an interrupt that it was not just shown. -/
theorem perform_acknowledges (call : Call) :
    (i3c.perform call).Acknowledges (i3c.reg regIntrStatus) i3c.busDevice := by
  have ctrl (mask value : Word) :=
    @modifyReg_within i3c regCtrl (by decide) mask value
  have clearTx : i3c.clearTxFifo.Within fun addr => addr ≠ i3c.reg regIntrStatus :=
    (ctrl ctrlTxFifoRst ctrlTxFifoRst).bind fun _ => ctrl ctrlTxFifoRst 0
  have clearRx : i3c.clearRxFifo.Within fun addr => addr ≠ i3c.reg regIntrStatus :=
    (ctrl ctrlRxFifoRst ctrlRxFifoRst).bind fun _ => ctrl ctrlRxFifoRst 0
  have init : i3c.init.Within fun addr => addr ≠ i3c.reg regIntrStatus :=
    clearTx.bind fun _ => clearRx.bind fun _ => (ctrl ctrlEnable ctrlEnable).bind fun _ => trivial
  cases call with
  | handleInterrupt =>
      exact Program.acknowledges_writeBack.bind fun _ => Program.acknowledges_pure Reply.unit
  | init => exact Program.acknowledges_of_within (init.bind fun _ => trivial)
  | isEnabled | isTransferPending | dynamicAddress | txFifoLevel | rxFifoLevel =>
      exact Program.acknowledges_of_within ⟨reg_ne (by decide), fun _ => trivial⟩
  | enable | disable =>
      exact Program.acknowledges_of_within ((ctrl _ _).bind fun _ => trivial)
  | setDynamicAddress addr =>
      exact Program.acknowledges_of_within ⟨reg_ne (by decide), trivial⟩
  | clearTxFifo => exact Program.acknowledges_of_within (clearTx.bind fun _ => trivial)
  | clearRxFifo => exact Program.acknowledges_of_within (clearRx.bind fun _ => trivial)

theorem session_acknowledges (calls : List Call) :
    (Program.session i3c.perform calls).Acknowledges (i3c.reg regIntrStatus) i3c.busDevice := by
  induction calls with
  | nil => exact Program.acknowledges_pure []
  | cons call rest ih =>
      exact (perform_acknowledges call).bind fun _ => ih.bind fun _ => Program.acknowledges_pure _

/-! ## Sessions -/

variable (i3c)

/-- A session from a start at which no interrupt has been cleared. -/
def sessionRun (pending : Word) (file : Word → Word) (arrivals : Nat → Word) (calls : List Call) :
    Run Word Word (Scheduled Word (Notifications 32 (Word → Word))) (List Reply) :=
  (Program.session i3c.perform calls).run i3c.busDevice ⟨arrivals, .start pending file⟩

/-- Whatever interrupts arrive, a session returns what the controller replies
and leaves it as the calls say, with no FIFO in reset that was not.  Every
write to the interrupt status clears only what the read directly before it
showed, so that an interrupt which is raised again after it was cleared waits
to be read again; and every interrupt that has been raised is still pending or
was shown and cleared in this way. -/
structure SessionOnController (pending : Word) (file : Word → Word) (arrivals : Nat → Word)
    (calls : List Call) : Prop where
  replies : (i3c.sessionRun pending file arrivals calls).result =
    Controller.object.replies (Controller.ofCells fun offset => file (i3c.reg offset)) calls
  record : i3c.controller (i3c.sessionRun pending file arrivals calls).state =
    Controller.object.after (Controller.ofCells fun offset => file (i3c.reg offset)) calls
  running : (file (i3c.reg regCtrl)).getLsbD 1 = false ∧ (file (i3c.reg regCtrl)).getLsbD 2 = false →
    (i3c.controller (i3c.sessionRun pending file arrivals calls).state).txReset = false ∧
      (i3c.controller (i3c.sessionRun pending file arrivals calls).state).rxReset = false
  clearsShown :
    ClearsShown (i3c.reg regIntrStatus) (i3c.sessionRun pending file arrivals calls).trace
  noneLost : ∀ bit,
    (i3c.sessionRun pending file arrivals calls).state.device.raised.getLsbD bit = true →
      (i3c.sessionRun pending file arrivals calls).state.device.pending.getLsbD bit = true ∨
        Acknowledged (i3c.reg regIntrStatus) bit
          (i3c.sessionRun pending file arrivals calls).trace

end I3c

end McuRom
