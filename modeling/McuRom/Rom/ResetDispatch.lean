import McuRom.Rom.DroppedErrors

namespace McuRom

open Mmio Hardware

/-!
# Which reset reasons start a boot flow

Three bits of the reset reason register are defined, and at most one of them
may be set.  The decoder tests these three bits and no other, so that a reason
it does not know is taken for the flow its defined bits name, or for a cold
boot if it has none.
-/

/-- The flows that `rom_start` dispatches to. -/
inductive BootFlow where
  | coldBoot
  | warmBoot
  | fwBoot
  | fwHitlessUpdate
deriving DecidableEq, Repr

namespace BootFlow

def execute (gWriter : Option Writer) (env : RomEnv) : BootFlow → Driver (McuResult Unit)
  | coldBoot => ColdBoot.execute gWriter env
  | warmBoot => WarmBoot.execute gWriter env
  | fwBoot => FwBoot.execute gWriter env
  | fwHitlessUpdate => FwHitlessUpdate.execute gWriter env

/-- The checkpoint a flow begins with. -/
def started : BootFlow → McuRomBootStatus
  | coldBoot => .coldBootFlowStarted
  | warmBoot => .warmResetFlowStarted
  | fwBoot => .firmwareBootFlowStarted
  | fwHitlessUpdate => .hitlessUpdateFlowStarted

/-- The one value of the reset reason register that is defined for a flow. -/
def resetReason : BootFlow → Word
  | coldBoot => 0
  | warmBoot => Mci.resetReasonWarmReset
  | fwBoot => Mci.resetReasonFwBootUpdReset
  | fwHitlessUpdate => Mci.resetReasonFwHitlessUpdReset

/-- The flow of a decoded reset reason. -/
def ofReason : McuResetReason → Option BootFlow
  | .coldBoot => some coldBoot
  | .warmReset => some warmBoot
  | .firmwareBootReset => some fwBoot
  | .firmwareHitlessUpdate => some fwHitlessUpdate
  | .invalid => none

theorem bootFlow_eq_map (gWriter : Option Writer) (env : RomEnv) (reason : McuResetReason) :
    bootFlow gWriter env reason = (ofReason reason).map (execute gWriter env) := by
  cases reason <;> rfl

theorem started_code_injective {first second : BootFlow}
    (same : first.started.code = second.started.code) : first = second := by
  revert same
  cases first <;> cases second <;> decide

/-- What a flow does before anything else is report its first checkpoint. -/
theorem trace_execute (gWriter : Option Writer) (flow : BootFlow)
    (rest : McuResult Unit → Driver Halt) (state : HardwareState) :
    ∃ later, ((flow.execute gWriter romEnv >>= rest).run hardware state).trace =
      flowTrace (state.1 flowReg)
        (Mci.flowWord (Mci.milestoneOf (state.1 flowReg)) flow.started.code) ++ later := by
  have reports : ∃ program, flow.execute gWriter romEnv =
      (romEnv.checkpoint flow.started >>= fun () => program) := by
    cases flow <;> exact ⟨_, rfl⟩
  rcases reports with ⟨program, equal⟩
  rw [equal, Program.bind_assoc, Program.run_bind, Run.after_trace, RomEnv.checkpoint,
    run_setFlowCheckpoint]
  exact ⟨_, rfl⟩

end BootFlow

section Dispatch

variable (globals : Globals) (state : HardwareState)

/-- The run of `rom_start` is the run to the point where it dispatches, and
then the run of `program`. -/
def ContinuesWith (program : Driver Halt) : Prop :=
  (romStart globals).run hardware state =
    (program.run hardware ((flowEntry globals).run hardware state).state).after
      ((flowEntry globals).run hardware state).trace

/-- `rom_start` enters a flow, and settles in its own loop afterwards. -/
def EntersFlow (flow : BootFlow) : Prop :=
  ContinuesWith globals state (flow.execute globals.gWriter romEnv >>= fun _ => pure .romStart)

/-- `rom_start` calls `fatal_error(BOOT_INVALID_RESET_REASON)` in place of a
flow. -/
def RejectsReset : Prop :=
  ContinuesWith globals state (fatalError globals .bootInvalidResetReason)

/-- A flow is entered for its own reset reason only, and any reason that is
not one flow's own is rejected. -/
structure AdmitsOnlyDefined : Prop where
  ownReason : ∀ flow, EntersFlow globals state flow → state.1 resetReasonReg = flow.resetReason
  otherReason : (∀ flow : BootFlow, state.1 resetReasonReg ≠ flow.resetReason) →
    (∀ flow, ¬ EntersFlow globals state flow) ∧ RejectsReset globals state

/-! ## The dispatch -/

variable {globals state}

/-- The first access of a flow that writes shows which flow it is. -/
theorem EntersFlow.unique {first second : BootFlow} (enters : EntersFlow globals state first)
    (alsoEnters : EntersFlow globals state second) : first = second := by
  have same := congrArg Run.trace (Eq.trans (Eq.symm enters) alsoEnters)
  rcases first.trace_execute globals.gWriter (fun _ => pure .romStart)
    ((flowEntry globals).run hardware state).state with ⟨afterFirst, firstTrace⟩
  rcases second.trace_execute globals.gWriter (fun _ => pure .romStart)
    ((flowEntry globals).run hardware state).state with ⟨afterSecond, secondTrace⟩
  have flows := List.append_cancel_left same
  rw [firstTrace, secondTrace] at flows
  have written : Mci.flowWord _ first.started.code = Mci.flowWord _ second.started.code :=
    Access.write.inj (List.cons.inj (List.cons.inj flows).2).1 |>.2
  apply BootFlow.started_code_injective
  rw [← Mci.checkpointOf_flowWord _ first.started.code, written, Mci.checkpointOf_flowWord]

theorem EntersFlow.not_rejects {flow : BootFlow} (enters : EntersFlow globals state flow) :
    ¬ RejectsReset globals state := by
  intro rejects
  have same := congrArg Run.result (Eq.trans (Eq.symm enters) rejects)
  rw [Run.after_result, Run.after_result, fatalError_result, Program.run_bind] at same
  rcases globals with ⟨gWriter, handler⟩
  cases handler with
  | none => cases same
  | some installed =>
      cases installed
      cases same

/-- The decoded register decides what `rom_start` does. -/
theorem dispatches :
    (∀ flow, BootFlow.ofReason (Mci.decodeResetReason (state.1 resetReasonReg)) = some flow →
      EntersFlow globals state flow) ∧
    (BootFlow.ofReason (Mci.decodeResetReason (state.1 resetReasonReg)) = none →
      RejectsReset globals state) := by
  have entered := completes_flowEntry_self globals state
  have split : romStart globals = (flowEntry globals >>= fun reason =>
      (bootFlow globals.gWriter romEnv reason).elim (fatalError globals .bootInvalidResetReason)
        fun flow => flow >>= fun _ => pure .romStart) := by
    simp only [flowEntry, Program.bind_assoc]
    refine congrArg (romPrologue globals.gWriter romEnv >>= ·) (funext fun reason => ?_)
    refine congrArg (println globals.gWriter (bootMessage reason) >>= ·) (funext fun _ => ?_)
    change _ = Option.elim (bootFlow globals.gWriter romEnv reason) _ _
    cases bootFlow globals.gWriter romEnv reason <;> rfl
  have whole := Program.run_bind hardware (flowEntry globals) (fun reason =>
      (bootFlow globals.gWriter romEnv reason).elim (fatalError globals .bootInvalidResetReason)
        fun flow => flow >>= fun _ => pure .romStart) state
  rw [← split, entered.returns, BootFlow.bootFlow_eq_map] at whole
  constructor
  · intro flow selected
    rw [selected] at whole
    exact whole
  · intro selected
    rw [selected] at whole
    exact whole

theorem entersFlow_iff (flow : BootFlow) :
    EntersFlow globals state flow ↔
      BootFlow.ofReason (Mci.decodeResetReason (state.1 resetReasonReg)) = some flow := by
  constructor
  · intro enters
    cases selected : BootFlow.ofReason (Mci.decodeResetReason (state.1 resetReasonReg)) with
    | none => exact absurd (dispatches.2 selected) enters.not_rejects
    | some other => rw [(dispatches.1 other selected).unique enters]
  · exact dispatches.1 flow

end Dispatch

/-! ## The register values -/

namespace Mci

/-- The bits of the reset reason register the driver has a name for. -/
def definedResetReasons : Word :=
  resetReasonWarmReset ||| resetReasonFwBootUpdReset ||| resetReasonFwHitlessUpdReset

/-- Two of the three defined bits are set. -/
def SeveralReasons (reason : Word) : Prop :=
  ∃ high < 3, ∃ low < high, reason.getLsbD low = true ∧ reason.getLsbD high = true

instance (reason : Word) : Decidable (SeveralReasons reason) :=
  inferInstanceAs (Decidable (∃ high < 3, ∃ low < high, _))

/-- The decoder does not see the other bits. -/
theorem decodeResetReason_defined (reason : Word) :
    decodeResetReason (reason &&& definedResetReasons) = decodeResetReason reason := by
  have seen (mask : Word) (isDefined : definedResetReasons &&& mask = mask) :
      reason &&& definedResetReasons &&& mask = reason &&& mask := by
    rw [BitVec.and_assoc, isDefined]
  have warmReset := seen resetReasonWarmReset rfl
  have fwBootUpd := seen resetReasonFwBootUpdReset rfl
  have fwHitlessUpd := seen resetReasonFwHitlessUpdReset rfl
  simp only [decodeResetReason, warmReset, fwBootUpd, fwHitlessUpd]

theorem severalReasons_defined (reason : Word) :
    SeveralReasons (reason &&& definedResetReasons) ↔ SeveralReasons reason := by
  have seen {index : Nat} (bound : index < 3) :
      (reason &&& definedResetReasons).getLsbD index = reason.getLsbD index := by
    have named : ∀ index < 3, definedResetReasons.getLsbD index = true := by decide
    rw [BitVec.getLsbD_and, named index bound, Bool.and_true]
  constructor
  · rintro ⟨high, highBound, low, lowBound, lowSet, highSet⟩
    rw [seen highBound] at highSet
    rw [seen (Nat.lt_trans lowBound highBound)] at lowSet
    exact ⟨high, highBound, low, lowBound, lowSet, highSet⟩
  · rintro ⟨high, highBound, low, lowBound, lowSet, highSet⟩
    rw [← seen highBound] at highSet
    rw [← seen (Nat.lt_trans lowBound highBound)] at lowSet
    exact ⟨high, highBound, low, lowBound, lowSet, highSet⟩

/-- A reason without undefined bits is its defined bits. -/
theorem and_definedResetReasons {reason : Word} (named : reason &&& ~~~definedResetReasons = 0) :
    reason &&& definedResetReasons = reason := by
  ext index bound
  have clear : (reason[index] && !definedResetReasons[index]) = false := by
    rw [← BitVec.getElem_not, ← BitVec.getElem_and, named]
    exact @BitVec.getElem_zero index 32 bound
  rw [BitVec.getElem_and]
  revert clear
  cases reason[index] <;> cases definedResetReasons[index] <;> decide

theorem defined_lt (reason : Word) : (reason &&& definedResetReasons).toNat < 8 := by
  rw [BitVec.toNat_and]
  exact Nat.lt_of_le_of_lt Nat.and_le_right (by decide)

end Mci

/-- Among the defined bits, a flow's own value is what selects it. -/
theorem ofReason_defined_iff (reason : Word) (flow : BootFlow) :
    BootFlow.ofReason (Mci.decodeResetReason reason) = some flow ↔
      reason &&& Mci.definedResetReasons = flow.resetReason := by
  have small : ∀ value < 8, BootFlow.ofReason (Mci.decodeResetReason (BitVec.ofNat 32 value)) =
      some flow ↔ BitVec.ofNat 32 value = flow.resetReason := by
    cases flow <;> decide
  have selected := small _ (Mci.defined_lt reason)
  rw [BitVec.ofNat_toNat, BitVec.setWidth_eq, Mci.decodeResetReason_defined] at selected
  exact selected

theorem severalReasons_iff (reason : Word) :
    Mci.SeveralReasons reason ↔
      BootFlow.ofReason (Mci.decodeResetReason reason) = none := by
  have small : ∀ value < 8, Mci.SeveralReasons (BitVec.ofNat 32 value) ↔
      BootFlow.ofReason (Mci.decodeResetReason (BitVec.ofNat 32 value)) = none := by
    decide
  have several := small _ (Mci.defined_lt reason)
  rw [BitVec.ofNat_toNat, BitVec.setWidth_eq, Mci.decodeResetReason_defined,
    Mci.severalReasons_defined] at several
  exact several

/-- The reset reasons are told apart exactly if no undefined bit is set, or
if two of the defined bits are set in any case. -/
theorem admitsOnlyDefined_iff (globals : Globals) (state : HardwareState) :
    AdmitsOnlyDefined globals state ↔
      state.1 resetReasonReg &&& ~~~Mci.definedResetReasons = 0 ∨
        Mci.SeveralReasons (state.1 resetReasonReg) := by
  constructor
  · intro admits
    by_cases known : ∃ flow : BootFlow, state.1 resetReasonReg = flow.resetReason
    · rcases known with ⟨flow, reason⟩
      apply Or.inl
      rw [reason]
      cases flow <;> decide
    · refine Or.inr ((severalReasons_iff _).mpr ?_)
      have others := admits.otherReason fun flow reason => known ⟨flow, reason⟩
      cases selected : BootFlow.ofReason (Mci.decodeResetReason (state.1 resetReasonReg)) with
      | none => rfl
      | some flow => exact absurd ((entersFlow_iff flow).mpr selected) (others.1 flow)
  · rintro (named | several)
    · have onlyOwn (flow : BootFlow) (enters : EntersFlow globals state flow) :
          state.1 resetReasonReg = flow.resetReason := by
        rw [← Mci.and_definedResetReasons named]
        exact (ofReason_defined_iff _ flow).mp ((entersFlow_iff flow).mp enters)
      refine ⟨onlyOwn, fun unknown => ?_⟩
      have noFlow (flow : BootFlow) : ¬ EntersFlow globals state flow :=
        fun enters => unknown flow (onlyOwn flow enters)
      refine ⟨noFlow, dispatches.2 ?_⟩
      cases selected : BootFlow.ofReason (Mci.decodeResetReason (state.1 resetReasonReg)) with
      | none => rfl
      | some flow => exact absurd ((entersFlow_iff flow).mpr selected) (noFlow flow)
    · have none := (severalReasons_iff _).mp several
      have noFlow (flow : BootFlow) : ¬ EntersFlow globals state flow := by
        intro enters
        have selected := (entersFlow_iff flow).mp enters
        rw [none] at selected
        cases selected
      exact ⟨fun flow enters => absurd enters (noFlow flow), fun _ =>
        ⟨noFlow, dispatches.2 none⟩⟩

/-- A register file whose reset reason has one bit set that no flow is for. -/
def undefinedReset : HardwareState :=
  (fun addr => if addr = resetReasonReg then 8 else 0, fun _ _ => 0)

theorem undefinedReset_reason : undefinedReset.1 resetReasonReg = 8 := by
  simp only [undefinedReset, if_true]

/-- It starts a cold boot. -/
theorem undefinedReset_coldBoots :
    EntersFlow ⟨none, none⟩ undefinedReset .coldBoot ∧
      ¬ AdmitsOnlyDefined ⟨none, none⟩ undefinedReset := by
  constructor
  · rw [entersFlow_iff, undefinedReset_reason]
    rfl
  · rw [admitsOnlyDefined_iff, undefinedReset_reason]
    decide

end McuRom
