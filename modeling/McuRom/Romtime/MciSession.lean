import McuRom.Romtime.MciBlock

namespace McuRom

open Mmio

/-!
# Sessions with the MCI driver

Function by function, the driver acts on the record that the registers
represent.  So it does in every session, and what the record keeps over a
session the registers keep.
-/

namespace Mci

section Functions

variable (mci : Mci)

/-- A function of the driver returns and leaves what two functions of the record say. -/
abbrev ActsOn {α : Type} (program : Driver α) (result : Block → α) (update : Block → Block) : Prop :=
  Program.Acts mci.registerDevice mci.block program result update

theorem write_eq {offset : Word} (notIntr : offset ≠ regNotif0InternalIntrR)
    (state : Notifications 32 (Word → Word)) (value : Word) :
    mci.registerDevice.write state (mci.reg offset) value =
      { state with rest := Function.update state.rest (mci.reg offset) value } :=
  Device.writeOneToClear_write_of_ne (reg_ne mci notIntr) state value

theorem acts_setFlowStatus (status : Word) :
    mci.ActsOn (mci.setFlowStatus status) (fun _ => ())
      fun block => { block with flow := FlowCells.ofStatus status } :=
  acts_writeReg (by decide) fun cells pending => ofCells_flow cells pending status

theorem acts_flowStatus : mci.ActsOn mci.flowStatus (fun block => block.flow.status) id :=
  acts_readReg (by decide) fun cells _ =>
    (FlowCells.status_ofStatus (cells regFwFlowStatus)).symm

theorem acts_flowMilestone : mci.ActsOn mci.flowMilestone (fun block => block.flow.milestone) id :=
  (acts_flowStatus mci).bind (fun status => Program.acts_pure (milestoneOf status)) |>.congr
    (fun block => milestoneOf_flowWord block.flow.milestone block.flow.checkpoint) fun _ => rfl

theorem acts_flowCheckpoint :
    mci.ActsOn mci.flowCheckpoint (fun block => block.flow.checkpoint) id :=
  (acts_flowStatus mci).bind (fun status => Program.acts_pure (checkpointOf status)) |>.congr
    (fun block => checkpointOf_flowWord block.flow.milestone block.flow.checkpoint) fun _ => rfl

theorem acts_setFlowCheckpoint (checkpoint : HalfWord) :
    mci.ActsOn (mci.setFlowCheckpoint checkpoint) (fun _ => ())
      fun block => block.update (.setFlowCheckpoint checkpoint) := by
  have acts := (acts_flowMilestone mci).bind fun current =>
    acts_setFlowStatus mci (current.setWidth 32 <<< 16 ||| checkpoint.setWidth 32)
  refine acts.congr (fun _ => rfl) fun block => ?_
  exact congrArg (fun flow => { block with flow := flow })
    (FlowCells.ofStatus_status ⟨block.flow.milestone, checkpoint⟩)

theorem acts_setFlowMilestone (milestone : HalfWord) :
    mci.ActsOn (mci.setFlowMilestone milestone) (fun _ => ())
      fun block => block.update (.setFlowMilestone milestone) := by
  have acts := (acts_flowStatus mci).bind fun status =>
    acts_setFlowStatus mci (milestone.setWidth 32 <<< 16 ||| status)
  refine acts.congr (fun _ => rfl) fun block => ?_
  have word : milestone.setWidth 32 <<< 16 ||| block.flow.status =
      FlowCells.status ⟨block.flow.milestone ||| milestone, block.flow.checkpoint⟩ := by
    rw [milestone_or_eq, FlowCells.status, FlowCells.status, milestoneOf_flowWord,
      checkpointOf_flowWord, BitVec.or_comm]
  exact congrArg (fun flow => { block with flow := flow })
    ((congrArg FlowCells.ofStatus word).trans (FlowCells.ofStatus_status _))

/-- A period below 2^32 has an upper half of zero. -/
theorem zero_append (low : Word) : (0 : Word) ++ low = low.setWidth 64 := by
  apply BitVec.eq_of_toNat_eq
  have bound := low.isLt
  rw [BitVec.toNat_append, BitVec.toNat_setWidth]
  change 0 <<< 32 ||| low.toNat = _
  rw [Nat.zero_shiftLeft, Nat.zero_or, Nat.mod_eq_of_lt (by omega)]

theorem acts_configureWdt (wdt1 wdt2 : Word) :
    mci.ActsOn (mci.configureWdt wdt1 wdt2) (fun _ => ())
      fun block => block.update (.configureWdt wdt1 wdt2) := by
  refine ⟨fun _ => rfl, fun state => ?_⟩
  simp (disch := decide) only [configureWdt, writeReg, Program.run_bind, Program.run_writeReg,
    Run.after_state, write_eq, block, cells_update]
  rw [ofCells_configureWdt, zero_append, zero_append]
  rfl

/-- The switch over the lifecycle bits never takes its default. -/
theorem decode_lifecycle (word : Word) :
    (if word &&& 0x03 = 0 then DeviceLifecycleState.deviceUnprovisioned
      else if word &&& 0x03 = 1 then .deviceManufacturing
      else if word &&& 0x03 = 2 then .deviceProvisioned
      else if word &&& 0x03 = 3 then .deviceSecurityLocked
      else .deviceUnprovisioned) =
    match word.toNat % 4 with
      | 0 => .deviceUnprovisioned
      | 1 => .deviceManufacturing
      | 2 => .deviceProvisioned
      | _ => .deviceSecurityLocked := by
  have bits : (word &&& 0x03).toNat = word.toNat % 4 := by
    rw [BitVec.toNat_and]
    exact Nat.and_two_pow_sub_one_eq_mod word.toNat 2
  have bound : word.toNat % 4 < 4 := Nat.mod_lt _ (by decide)
  rw [← bits] at bound ⊢
  generalize word &&& 0x03 = state at bound ⊢
  have cases : state = 0 ∨ state = 1 ∨ state = 2 ∨ state = 3 := by
    simp only [← BitVec.toNat_inj]
    change state.toNat = 0 ∨ state.toNat = 1 ∨ state.toNat = 2 ∨ state.toNat = 3
    omega
  rcases cases with rfl | rfl | rfl | rfl <;> rfl

theorem acts_deviceLifecycleState :
    mci.ActsOn mci.deviceLifecycleState Block.lifecycle id := by
  have acts : mci.ActsOn (mci.readReg regSecurityState) (fun block => block.securityState) id :=
    acts_readReg (by decide) fun _ _ => rfl
  refine (acts.bind fun value => Program.acts_pure _).congr (fun block => ?_) fun _ => rfl
  exact decode_lifecycle block.securityState

theorem acts_resetReasonEnum :
    mci.ActsOn mci.resetReasonEnum (fun block => decodeResetReason block.resetReason) id :=
  (show mci.ActsOn mci.resetReason (fun block => block.resetReason) id from
    acts_readReg (by decide) fun _ _ => rfl).bind fun reason =>
      Program.acts_pure (decodeResetReason reason)

theorem acts_isReason (reason : McuResetReason) :
    mci.ActsOn (mci.resetReasonEnum >>= fun current => pure (current == reason))
      (fun block => block.isReason reason) id :=
  (acts_resetReasonEnum mci).bind fun current => Program.acts_pure (current == reason)

/-- The notification register, on which a read does nothing. -/
theorem acts_readIntr :
    mci.ActsOn (mci.readReg regNotif0InternalIntrR) (fun block => block.notif0) id := by
  apply Program.acts_readReg
  · intro state
    rw [registerDevice, Device.writeOneToClear_read]
    rfl
  · intro state
    rw [registerDevice, Device.writeOneToClear_read]

theorem acts_writeIntr (value : Word) :
    mci.ActsOn (mci.writeReg regNotif0InternalIntrR value) (fun _ => ())
      fun block => { block with notif0 := block.notif0 &&& ~~~value } := by
  apply Program.acts_writeReg
  intro state
  rw [registerDevice, Device.writeOneToClear_write]
  rfl

/-- Writing back what was read leaves nothing pending. -/
theorem nothing_left {pending mask : Word} (inside : pending &&& mask = mask) :
    pending &&& ~~~((pending &&& ~~~mask) ||| (mask &&& mask)) = 0 := by
  ext bit bound
  have set := congrArg (fun word : Word => word[bit]) inside
  simp only [BitVec.getElem_or, BitVec.getElem_and, BitVec.getElem_not] at set ⊢
  revert set
  cases pending[bit] <;> cases mask[bit] <;> simp

theorem acts_clear (mask : Word) :
    mci.ActsOn (mci.modifyReg regNotif0InternalIntrR mask mask) (fun _ => ()) fun block =>
      { block with
        notif0 := block.notif0 &&& ~~~((block.notif0 &&& ~~~mask) ||| (mask &&& mask)) } :=
  (acts_readIntr mci).bind fun current =>
    acts_writeIntr mci ((current &&& ~~~mask) ||| (mask &&& mask))

theorem acts_setResetRequest (value : Word) :
    mci.ActsOn (mci.writeReg regResetRequest value) (fun _ => ())
      fun block => { block with resetRequest := value } :=
  acts_writeReg (by decide) fun cells pending => ofCells_resetRequest cells pending value

theorem acts_request (mask : Word) :
    mci.ActsOn (mci.modifyReg regResetRequest mask mask) (fun _ => ()) fun block =>
      { block with resetRequest := (block.resetRequest &&& ~~~mask) ||| (mask &&& mask) } := by
  have read : mci.ActsOn (mci.readReg regResetRequest) (fun block => block.resetRequest) id :=
    acts_readReg (by decide) fun _ _ => rfl
  exact read.bind fun current =>
    acts_setResetRequest mci ((current &&& ~~~mask) ||| (mask &&& mask))

theorem acts_handleInterrupt :
    mci.ActsOn mci.handleInterrupt (fun _ => ()) fun block => block.update .handleInterrupt := by
  have acts := (acts_readIntr mci).bind fun status =>
    @Program.Acts.ite _ _ _ _ _ _ _ _ (status &&& notifCptraMcuResetReqStsMask ≠ 0) _ _ _ _ _ _
      (fun _ => (acts_clear mci notifCptraMcuResetReqStsMask).bind fun _ =>
        acts_request mci resetRequestMcuReq)
      fun _ => Program.acts_pure ()
  refine acts.congr (fun block => ite_self _) fun block => ?_
  by_cases pending : block.notif0 &&& notifCptraMcuResetReqStsMask ≠ 0
  · have left := congrArg₂ (fun notif0 resetRequest =>
        { block with notif0 := notif0, resetRequest := resetRequest })
      (nothing_left (and_resetReq pending)) (modified block.resetRequest resetRequestMcuReq)
    exact (if_pos pending).trans (left.trans (if_pos pending).symm)
  · exact (if_neg pending).trans (if_neg pending).symm

/-- A read from an array checks the index; the record may have a part of each
register only. -/
theorem acts_readEntry {α : Type} {base : Word} {count : Nat} (part : Word → α)
    {content : Block → Fin count → α}
    (inFront : base.toNat + 4 * count ≤ regNotif0InternalIntrR.toNat)
    (shown : ∀ cells pending, (fun i => part (entries cells base count i)) =
      content (Block.ofCells cells pending)) (index : SizeT) :
    mci.ActsOn
      (if sizeT count ≤ index then pure none
        else do
          let value ← mci.readReg (base + index * 4)
          pure (some (part value)))
      (fun block => entryAt (content block) index) id := by
  have intr : regNotif0InternalIntrR.toNat = 0x104 := rfl
  have size : (sizeT count).toNat = count := Nat.mod_eq_of_lt (by omega)
  unfold entryAt
  by_cases inside : index.toNat < count
  · have below : ¬ sizeT count ≤ index := by
      rw [BitVec.le_def, size]
      omega
    have slot := slot_index base index
    have notIntr : base + index * 4 ≠ regNotif0InternalIntrR := by
      intro same
      have numbers := congrArg BitVec.toNat same
      rw [← slot, slot_toNat (by omega) inside] at numbers
      omega
    simp only [if_neg below, dif_pos inside]
    refine acts_readPart (fun value => some (part value)) notIntr fun cells pending => ?_
    rw [← congrFun (shown cells pending) ⟨index.toNat, inside⟩, ← slot]
    rfl
  · have beyond : sizeT count ≤ index := by
      rw [BitVec.le_def, size]
      omega
    simp only [if_pos beyond, dif_neg inside]
    exact Program.acts_pure none

theorem acts_writeArray {base value : Word} {index : SizeT} {update : Block → Block}
    (inFront : base.toNat + 4 * mboxAxiUserCount ≤ regNotif0InternalIntrR.toNat)
    (stored : index.toNat < mboxAxiUserCount → ∀ cells pending,
      Block.ofCells (Function.update cells (base + index * 4) value) pending =
        update (Block.ofCells cells pending))
    (refused : ¬ index.toNat < mboxAxiUserCount → ∀ block, update block = block) :
    mci.ActsOn (mci.writeArray base mboxAxiUserCount index value)
      (fun _ => decide (index.toNat < mboxAxiUserCount)) update := by
  have intr : regNotif0InternalIntrR.toNat = 0x104 := rfl
  unfold writeArray
  by_cases inside : index.toNat < mboxAxiUserCount
  · have below : ¬ sizeT mboxAxiUserCount ≤ index := Nat.not_le.mpr inside
    have notIntr : base + index * 4 ≠ regNotif0InternalIntrR := by
      intro same
      have numbers := congrArg BitVec.toNat same
      rw [user_toNat inside (by omega)] at numbers
      omega
    simp only [if_neg below, decide_eq_true inside]
    exact (acts_writeReg notIntr (stored inside)).bind fun _ => Program.acts_pure true
  · have beyond : sizeT mboxAxiUserCount ≤ index := Nat.not_lt.mp inside
    simp only [if_pos beyond, decide_eq_false inside]
    exact (Program.acts_pure false).congr (fun _ => rfl) fun block => (refused inside block).symm

theorem acts_genericInputWires (index : SizeT) :
    mci.ActsOn (mci.genericInputWires index)
      (fun block => (entryAt block.inputWires index).getD 0) id := by
  unfold genericInputWires entryAt
  by_cases inside : index.toNat < 2
  · have below : ¬ (2 : SizeT) ≤ index := Nat.not_le.mpr inside
    have slot := slot_index 0x400 index
    have notIntr : (0x400 : Word) + index * 4 ≠ regNotif0InternalIntrR := by
      intro same
      have numbers := congrArg BitVec.toNat same
      rw [← slot, slot_toNat (by decide) (by omega : index.toNat < 2)] at numbers
      have intr : regNotif0InternalIntrR.toNat = 0x104 := rfl
      have base : (0x400 : Word).toNat = 0x400 := rfl
      omega
    simp only [if_neg below, dif_pos inside, Option.getD_some]
    exact acts_readReg notIntr fun cells pending => congrArg cells slot.symm
  · have beyond : (2 : SizeT) ≤ index := Nat.not_lt.mp inside
    simp only [if_pos beyond, dif_neg inside, Option.getD_none]
    exact Program.acts_pure 0

/-! ## The driver -/

/-- Every call acts on the record. -/
theorem implements :
    Program.Implements mci.registerDevice mci.block mci.perform Block.object := by
  have word {offset : Word} {content : Block → Word} (notIntr : offset ≠ regNotif0InternalIntrR)
      (shown : ∀ cells pending, cells offset = content (Block.ofCells cells pending)) :
      mci.ActsOn (Reply.word <$> mci.readReg offset) (fun block => Reply.word (content block)) id :=
    (acts_readReg notIntr shown).map Reply.word
  intro call
  cases call with
  | deviceLifecycleState => exact (acts_deviceLifecycleState mci).map Reply.lifecycle
  | securityState => exact word (by decide) fun _ _ => rfl
  | caliptraBootGo =>
      exact (acts_writeReg (by decide) fun cells pending => ofCells_bootGo cells pending 1).map
        Reply.ofUnit
  | setFlowStatus status => exact (acts_setFlowStatus mci status).map Reply.ofUnit
  | flowStatus => exact (acts_flowStatus mci).map Reply.word
  | setFlowCheckpoint checkpoint => exact (acts_setFlowCheckpoint mci checkpoint).map Reply.ofUnit
  | flowCheckpoint => exact (acts_flowCheckpoint mci).map Reply.half
  | setFwFatalError code =>
      exact (acts_writeReg (by decide) fun cells pending =>
        ofCells_fwErrorFatal cells pending code).map Reply.ofUnit
  | setFlowMilestone milestone => exact (acts_setFlowMilestone mci milestone).map Reply.ofUnit
  | flowMilestone => exact (acts_flowMilestone mci).map Reply.half
  | hwFlowStatus => exact word (by decide) fun _ _ => rfl
  | setNmiVector nmiVector =>
      exact (acts_writeReg (by decide) fun cells pending =>
        ofCells_nmiVector cells pending nmiVector).map Reply.ofUnit
  | configureWdt wdt1 wdt2 => exact (acts_configureWdt mci wdt1 wdt2).map Reply.ofUnit
  | disableWdt =>
      exact (acts_writeReg (by decide) fun cells pending => ofCells_wdt1En cells pending 0).map
        Reply.ofUnit
  | genericInputWires index => exact (acts_genericInputWires mci index).map Reply.word
  | resetReason => exact word (by decide) fun _ _ => rfl
  | resetReasonEnum => exact (acts_resetReasonEnum mci).map Reply.reason
  | isColdReset => exact (acts_isReason mci .coldBoot).map Reply.bool
  | isWarmReset => exact (acts_isReason mci .warmReset).map Reply.bool
  | isFwBootUpdateReset => exact (acts_isReason mci .firmwareBootReset).map Reply.bool
  | isFwHitlessUpdateReset => exact (acts_isReason mci .firmwareHitlessUpdate).map Reply.bool
  | readNotif0IntrTrigR => exact word (by decide) fun _ _ => rfl
  | writeNotif0IntrTrigR value =>
      exact (acts_writeReg (by decide) fun cells pending =>
        ofCells_notif0Trig cells pending value).map Reply.ofUnit
  | readWdtTimer1En => exact word (by decide) fun _ _ => rfl
  | writeWdtTimer1En value =>
      exact (acts_writeReg (by decide) fun cells pending =>
        ofCells_wdt1En cells pending value).map Reply.ofUnit
  | handleInterrupt => exact (acts_handleInterrupt mci).map Reply.ofUnit
  | triggerWarmReset => exact (acts_setResetRequest mci 1).map Reply.ofUnit
  | setSsConfigDoneSticky =>
      exact (acts_writeReg (by decide) fun cells pending =>
        ofCells_ssConfigDoneSticky cells pending ssConfigDoneBit).map Reply.ofUnit
  | isSsConfigDoneSticky => exact (acts_readPart _ (by decide) fun _ _ => rfl).map Reply.bool
  | setSsConfigDone =>
      exact (acts_writeReg (by decide) fun cells pending =>
        ofCells_ssConfigDone cells pending ssConfigDoneBit).map Reply.ofUnit
  | isSsConfigDone => exact (acts_readPart _ (by decide) fun _ _ => rfl).map Reply.bool
  | readProdDebugUnlockPkHash index =>
      exact (acts_readEntry mci id (by decide) (fun _ _ => rfl) index).map Reply.word?
  | prodDebugUnlockPkHashLen => exact Program.acts_pure (Reply.size prodDebugUnlockPkHashLen)
  | readMbox0ValidAxiUser index =>
      exact (acts_readEntry mci id (by decide) (fun _ _ => rfl) index).map Reply.word?
  | readMbox0AxiUserLock index =>
      exact (acts_readEntry mci isLocked (by decide) (fun _ _ => rfl) index).map Reply.bool?
  | readMbox1ValidAxiUser index =>
      exact (acts_readEntry mci id (by decide) (fun _ _ => rfl) index).map Reply.word?
  | readMbox1AxiUserLock index =>
      exact (acts_readEntry mci isLocked (by decide) (fun _ _ => rfl) index).map Reply.bool?
  | mboxAxiUserLen => exact Program.acts_pure (Reply.size mboxAxiUserLen)
  | writeMbox0ValidAxiUser index value =>
      exact (acts_writeArray mci (by decide)
        (fun inside cells pending => ofCells_mbox0Users cells pending value inside)
        fun outside block => congrArg
          (fun users => { block with mbox0 := { block.mbox0 with users := users } })
          (setEntry_of_outside block.mbox0.users outside value)).map Reply.bool
  | lockMbox0AxiUser index =>
      exact (acts_writeArray mci (by decide)
        (fun inside cells pending => ofCells_mbox0Locked cells pending inside)
        fun outside block => congrArg
          (fun locked => { block with mbox0 := { block.mbox0 with locked := locked } })
          (setEntry_of_outside block.mbox0.locked outside true)).map Reply.bool
  | writeMbox1ValidAxiUser index value =>
      exact (acts_writeArray mci (by decide)
        (fun inside cells pending => ofCells_mbox1Users cells pending value inside)
        fun outside block => congrArg
          (fun users => { block with mbox1 := { block.mbox1 with users := users } })
          (setEntry_of_outside block.mbox1.users outside value)).map Reply.bool
  | lockMbox1AxiUser index =>
      exact (acts_writeArray mci (by decide)
        (fun inside cells pending => ofCells_mbox1Locked cells pending inside)
        fun outside block => congrArg
          (fun locked => { block with mbox1 := { block.mbox1 with locked := locked } })
          (setEntry_of_outside block.mbox1.locked outside true)).map Reply.bool

end Functions

/-! ## Sessions -/

/-- What no call takes back: locks and completed configuration.  What the
hardware determines is not changed at all, and notifications are not made
up. -/
structure Block.Keeps (before after : Block) : Prop where
  locked : ∀ i, (before.mbox0.locked i = true → after.mbox0.locked i = true) ∧
    (before.mbox1.locked i = true → after.mbox1.locked i = true)
  configDone : (before.ssConfigDoneSticky = true → after.ssConfigDoneSticky = true) ∧
    (before.ssConfigDone = true → after.ssConfigDone = true)
  hardware : after.securityState = before.securityState ∧
    after.hwFlowStatus = before.hwFlowStatus ∧ after.resetReason = before.resetReason ∧
    after.inputWires = before.inputWires ∧ after.pkHash = before.pkHash
  notified : after.notif0 = before.notif0 ∨ after.notif0 = 0

/-- A session with the driver returns what the record replies, and leaves
the registers of the record after the session.  The device keeps what is
written to a register, but for the notifications, which are cleared by writing
ones to them; nothing else acts on it meanwhile. -/
structure SessionOnRecord (mci : Mci) (state : Notifications 32 (Word → Word))
    (calls : List Call) : Prop where
  replies : ((Program.session mci.perform calls).run mci.registerDevice state).result =
    Block.object.replies (mci.block state) calls
  record : mci.block ((Program.session mci.perform calls).run mci.registerDevice state).state =
    Block.object.after (mci.block state) calls
  kept : (mci.block state).Keeps
    (mci.block ((Program.session mci.perform calls).run mci.registerDevice state).state)
  milestones : (∀ status, Call.setFlowStatus status ∉ calls) → ∀ bit,
    (mci.block state).flow.milestone.getLsbD bit = true →
      (mci.block ((Program.session mci.perform calls).run mci.registerDevice
        state).state).flow.milestone.getLsbD bit = true

namespace Block

theorem setEntry_true {count : Nat} {locked : Fin count → Bool} (index : SizeT) {i : Fin count}
    (set : locked i = true) : setEntry locked index true i = true := by
  unfold setEntry
  split
  · rfl
  · exact set

theorem update_handleInterrupt (block : Block) :
    block.update .handleInterrupt =
      if block.notif0 &&& notifCptraMcuResetReqStsMask ≠ 0 then
        { block with notif0 := 0, resetRequest := block.resetRequest ||| resetRequestMcuReq }
      else block := rfl

theorem Keeps.update {before block : Block} (keeps : before.Keeps block) (call : Call) :
    before.Keeps (block.update call) := by
  obtain ⟨locked, configDone, hardware, notified⟩ := keeps
  cases call with
  | setSsConfigDoneSticky => exact ⟨locked, ⟨fun _ => rfl, configDone.2⟩, hardware, notified⟩
  | setSsConfigDone => exact ⟨locked, ⟨configDone.1, fun _ => rfl⟩, hardware, notified⟩
  | lockMbox0AxiUser index =>
      exact ⟨fun i => ⟨fun set => setEntry_true index ((locked i).1 set), (locked i).2⟩,
        configDone, hardware, notified⟩
  | lockMbox1AxiUser index =>
      exact ⟨fun i => ⟨(locked i).1, fun set => setEntry_true index ((locked i).2 set)⟩,
        configDone, hardware, notified⟩
  | handleInterrupt =>
      rw [update_handleInterrupt]
      split
      · exact ⟨locked, configDone, hardware, Or.inr rfl⟩
      · exact ⟨locked, configDone, hardware, notified⟩
  | _ => exact ⟨locked, configDone, hardware, notified⟩

/-- Only `set_flow_status` takes milestones back. -/
theorem update_milestone {block : Block} {call : Call}
    (notStatus : ∀ status, call ≠ .setFlowStatus status) {bit : Nat}
    (set : block.flow.milestone.getLsbD bit = true) :
    (block.update call).flow.milestone.getLsbD bit = true := by
  cases call with
  | setFlowStatus status => exact absurd rfl (notStatus status)
  | setFlowMilestone milestone =>
      change (block.flow.milestone ||| milestone).getLsbD bit = true
      rw [BitVec.getLsbD_or, set, Bool.true_or]
  | handleInterrupt =>
      rw [update_handleInterrupt]
      split <;> exact set
  | _ => exact set

end Block

/-- On such a device every session is one with the record. -/
theorem mci_session_on_record (mci : Mci) (state : Notifications 32 (Word → Word))
    (calls : List Call) : SessionOnRecord mci state calls := by
  have acts := (implements mci).session calls
  have record := acts.leaves state
  refine ⟨acts.returns state, record, ?_, fun noStatus bit set => ?_⟩
  · rw [record]
    apply Block.object.after_invariant
    · exact fun call _ block keeps => keeps.update call
    · exact ⟨fun _ => ⟨id, id⟩, ⟨id, id⟩, ⟨rfl, rfl, rfl, rfl, rfl⟩, Or.inl rfl⟩
  · rw [record]
    apply @Object.after_invariant _ _ _ Block.object
      (fun block => block.flow.milestone.getLsbD bit = true)
    · intro call member block held
      exact Block.update_milestone (fun status same => noStatus status (same ▸ member)) held
    · exact set

end Mci

end McuRom
