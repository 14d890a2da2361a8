import McuRom.Mmio.MonitoredRuns
import McuRom.Rom.Hardware

namespace McuRom

open Mmio Hardware

/-!
# What the ROM does to an arbitrary device

The results on boot flows assume hardware of a certain kind.  Here nothing is
assumed: the device may answer every read as it likes.  `BootWrite` says which
register writes a boot makes, given everything it has read and written before,
and a monitor with a few facts about the history enforces it.
-/

/-! ## The registers of a boot -/

/-- The I3C control register. -/
def i3cCtrlReg : Word := romEnv.i3c.reg I3c.regCtrl

/-- The OTP status register. -/
def otpStatusReg : Word := romEnv.otp.reg Otp.regStatus

/-- The status register of the Caliptra mailbox. -/
def mboxStatusReg : Word := romEnv.socManager.socMboxReg CaliptraSoC.mboxStatus

/-- The registers through which a boot acts on something other than the MCI:
the two controllers, the mailbox and the start of Caliptra. -/
def bootPeripherals : List Word := [i3cCtrlReg, otpStatusReg, mboxStatusReg, bootGoReg]

/-- The registers a boot may access once it has read the reset reason. -/
def flowRegisters : List Word :=
  [uartTx, flowReg, romEnv.mci.reg Mci.regFwErrorFatal, handlerMciFatal, emuExit] ++
    bootPeripherals

/-- The registers `rom_start` only reads, before it selects a flow. -/
def inputRegisters : List Word :=
  [romEnv.mci.reg Mci.regSecurityState, romEnv.mci.reg 0x400, romEnv.mci.reg 0x404,
    romEnv.mci.reg Mci.regResetReason]

/-- The registers `rom_start` may access. -/
def romRegisters : List Word := flowRegisters ++ inputRegisters

/-- The milestone flags the ROM sets. -/
def romMilestones : List HalfWord :=
  [BootMilestones.romStarted, BootMilestones.cptraBootGoAsserted,
    BootMilestones.cptraFusesWritten, BootMilestones.coldBootFlowComplete,
    BootMilestones.warmResetFlowComplete, BootMilestones.firmwareBootFlowComplete]

/-- The bits of the I3C control register that the driver changes. -/
def i3cCtrlBits : Word := I3c.ctrlEnable ||| I3c.ctrlTxFifoRst ||| I3c.ctrlRxFifoRst

/-- The report of an invalid reset reason. -/
def fatalWrites (globals : Globals) : List (Word × Word) :=
  match globals.gFatalErrorHandler with
  | some .romFatalErrorHandler =>
      [(handlerMciFatal, McuError.bootInvalidResetReason.code),
        (emuExit, McuError.bootInvalidResetReason.code)]
  | none => [(romEnv.mci.reg Mci.regFwErrorFatal, McuError.bootInvalidResetReason.code)]

/-! ## Rules for writes -/

/-- What a boot remembers of its own history. -/
@[ext] structure BootFacts where
  /-- the access just made -/
  last : Option (Access Word Word)
  /-- the OTP controller has been seen idle -/
  otpIdle : Prop
  /-- Caliptra has been started -/
  started : Prop
  /-- something other than the MCI and the console has been accessed -/
  reached : Prop
  /-- a fatal error has been reported -/
  failed : Prop

/-- The writes of a boot, given what it remembers. -/
inductive BootWrite (globals : Globals) (facts : BootFacts) : Word → Word → Prop
  /-- Console output. -/
  | console (value : Word) : BootWrite globals facts uartTx value
  /-- A checkpoint replaces the low half of the flow status just read. -/
  | checkpoint (old : Word) (status : McuRomBootStatus)
      (fresh : facts.last = some (.read flowReg old)) :
      BootWrite globals facts flowReg (Mci.flowWord (Mci.milestoneOf old) status.code)
  /-- A milestone is added to the high half of the flow status just read. -/
  | milestone (old : Word) (flag : HalfWord) (known : flag ∈ romMilestones)
      (fresh : facts.last = some (.read flowReg old)) :
      BootWrite globals facts flowReg
        (Mci.flowWord (flag ||| Mci.milestoneOf old) (Mci.checkpointOf old))
  /-- The driver's own bits of the I3C control word just read change. -/
  | control (old value : Word) (fresh : facts.last = some (.read i3cCtrlReg old))
      (others : value &&& ~~~i3cCtrlBits = old &&& ~~~i3cCtrlBits) :
      BootWrite globals facts i3cCtrlReg value
  /-- Caliptra is started once, after the OTP controller was seen idle. -/
  | bootGo (idle : facts.otpIdle) (first : ¬ facts.started) : BootWrite globals facts bootGoReg 1
  /-- A fatal error is reported before anything is started. -/
  | fatal {addr value : Word} (listed : (addr, value) ∈ fatalWrites globals)
      (calm : ¬ facts.reached) : BootWrite globals facts addr value

/-- What there is to remember of a history. -/
def BootFacts.of (globals : Globals) (history : List (Access Word Word)) : BootFacts where
  last := history.getLast?
  otpIdle := ∃ status, Access.read otpStatusReg status ∈ history ∧
    Otp.statusNotIdle status = false
  started := ∃ value, Access.write bootGoReg value ∈ history
  reached := ∃ access ∈ history, access.addr ∈ bootPeripherals
  failed := ∃ entry ∈ fatalWrites globals, Access.write entry.1 entry.2 ∈ history

/-- The trace of a boot: the registers it accesses, the rule its writes keep,
and what it leaves alone when it reports a fatal error. -/
structure Confined (globals : Globals) (trace : List (Access Word Word)) : Prop where
  registers : ∀ access ∈ trace, access.addr ∈ romRegisters
  writes : KeepsRule (fun before => BootWrite globals (.of globals before)) trace
  failure : (BootFacts.of globals trace).failed → ¬ (BootFacts.of globals trace).reached

/-! ## The monitor -/

namespace BootFacts

variable (globals : Globals) (facts : BootFacts) (access : Access Word Word)

/-- Remember one more access. -/
def observe : BootFacts where
  last := some access
  otpIdle := facts.otpIdle ∨ ∃ status, access = .read otpStatusReg status ∧
    Otp.statusNotIdle status = false
  started := facts.started ∨ ∃ value, access = .write bootGoReg value
  reached := facts.reached ∨ access.addr ∈ bootPeripherals
  failed := facts.failed ∨ ∃ entry ∈ fatalWrites globals, access = .write entry.1 entry.2

theorem of_snoc (history : List (Access Word Word)) :
    BootFacts.of globals (history ++ [access]) =
      (BootFacts.of globals history).observe globals access := by
  ext1
  · exact List.getLast?_concat
  · ext
    simp only [of, observe, List.mem_append, List.mem_singleton, or_and_right, exists_or, eq_comm]
  · ext
    simp only [of, observe, List.mem_append, List.mem_singleton, exists_or, eq_comm]
  · ext
    simp only [of, observe, List.mem_append, List.mem_singleton, or_and_right, exists_or,
      exists_eq_left]
  · ext
    simp only [of, observe, List.mem_append, List.mem_singleton, and_or_left, exists_or, eq_comm]

/-- An access of another register leaves only itself to remember. -/
theorem observe_quiet {facts : BootFacts} {access : Access Word Word}
    (apart : access.addr ∉ bootPeripherals)
    (unlisted : ∀ entry ∈ fatalWrites globals, entry.1 ≠ access.addr) :
    facts.observe globals access = { facts with last := some access } := by
  have elsewhere : ∀ reg ∈ bootPeripherals, access.addr ≠ reg := fun reg member same =>
    apart (same ▸ member)
  ext1
  · rfl
  · refine propext (or_iff_left ?_)
    rintro ⟨status, rfl, _⟩
    exact elsewhere otpStatusReg (by simp [bootPeripherals]) rfl
  · refine propext (or_iff_left ?_)
    rintro ⟨value, rfl⟩
    exact elsewhere bootGoReg (by simp [bootPeripherals]) rfl
  · exact propext (or_iff_left apart)
  · refine propext (or_iff_left ?_)
    rintro ⟨entry, listed, rfl⟩
    exact unlisted entry listed rfl

end BootFacts

open Classical in
/-- The monitor that enforces the rules for writes. -/
noncomputable def bootMonitor (globals : Globals) : Monitor Word Word BootFacts where
  onRead facts addr value := some (facts.observe globals (.read addr value))
  onWrite facts addr value :=
    if BootWrite globals facts addr value then some (facts.observe globals (.write addr value))
    else none

namespace BootMonitor

variable {globals : Globals} {registers : List Word} {α β : Type}

theorem reliesOnNothing : (bootMonitor globals).ReliesOnNothing :=
  fun facts addr value => ⟨facts.observe globals (.read addr value), rfl⟩

theorem permits {facts : BootFacts} {addr value : Word} (rule : BootWrite globals facts addr value) :
    (bootMonitor globals).onWrite facts addr value =
      some (facts.observe globals (.write addr value)) :=
  if_pos rule

/-- The monitor remembers its history, so it enforces the rules. -/
theorem enforces {trace : List (Access Word Word)} {final : BootFacts}
    (followed : (bootMonitor globals).follow (.of globals []) trace = some final) :
    KeepsRule (fun before => BootWrite globals (.of globals before)) trace ∧
      final = .of globals trace := by
  refine Monitor.keepsRule_of_follow (fun history facts => facts = .of globals history)
    ?_ ?_ rfl followed
  · rintro earlier facts access after rfl stepped
    rw [BootFacts.of_snoc]
    cases access with
    | read addr value => exact (Option.some.inj stepped).symm
    | write addr value =>
        by_cases rule : BootWrite globals (.of globals earlier) addr value
        · exact (Option.some.inj ((permits rule).symm.trans stepped)).symm
        · cases (if_neg rule).symm.trans stepped
  · rintro earlier facts addr value after rfl permitted
    by_contra broken
    cases (if_neg broken).symm.trans permitted

/-! ## Programs that keep a stage

A stage of the boot is a condition on what is remembered that does not mention
the last access. -/

/-- A condition the last access does not matter for. -/
def Stage (stage : BootFacts → Prop) : Prop :=
  ∀ facts last, stage facts → stage { facts with last := last }

/-- The program stays within the registers.  Run from facts that
satisfy the first condition it obeys the monitor, and its result and the facts
it ends with satisfy the second. -/
structure Triple (globals : Globals) (registers : List Word) (pre : BootFacts → Prop)
    (program : Driver α) (post : α → BootFacts → Prop) : Prop where
  within : program.Within fun addr => addr ∈ registers
  obeys : ∀ facts, pre facts → program.Obeys (bootMonitor globals) post facts

theorem Triple.bind {pre : BootFacts → Prop} {middle : α → BootFacts → Prop}
    {post : β → BootFacts → Prop} {program : Driver α} {rest : α → Driver β}
    (first : Triple globals registers pre program middle)
    (second : ∀ value, Triple globals registers (middle value) (rest value) post) :
    Triple globals registers pre (program >>= rest) post where
  within := first.within.bind fun value => (second value).within
  obeys facts start := (first.obeys facts start).bind fun value => (second value).obeys

/-- An early return keeps what is known of the failed call. -/
theorem Triple.andThen {pre : BootFacts → Prop} {middle : McuResult α → BootFacts → Prop}
    {post : McuResult β → BootFacts → Prop} {call : Driver (McuResult α)}
    {rest : α → Driver (McuResult β)} (first : Triple globals registers pre call middle)
    (early : ∀ e facts, middle (.error e) facts → post (.error e) facts)
    (second : ∀ value, Triple globals registers (middle (.ok value)) (rest value) post) :
    Triple globals registers pre (Driver.andThen call rest) post := by
  refine first.bind fun result => ?_
  cases result with
  | error e => exact ⟨trivial, early e⟩
  | ok value => exact second value

theorem Triple.mono {pre stronger : BootFacts → Prop} {post weaker : α → BootFacts → Prop}
    {program : Driver α} (triple : Triple globals registers pre program post)
    (before : ∀ facts, stronger facts → pre facts)
    (after : ∀ value facts, post value facts → weaker value facts) :
    Triple globals registers stronger program weaker where
  within := triple.within
  obeys facts start := (triple.obeys facts (before facts start)).mono after

/-- What stays within the registers of a flow stays within those of the ROM. -/
theorem Triple.widen {pre : BootFacts → Prop} {post : α → BootFacts → Prop} {program : Driver α}
    (triple : Triple globals flowRegisters pre program post) :
    Triple globals romRegisters pre program post where
  within := triple.within.mono fun _ member => List.mem_append_left _ member
  obeys := triple.obeys

/-- The program starts and ends in the stage. -/
def Keeps (globals : Globals) (registers : List Word) (stage : BootFacts → Prop)
    (program : Driver α) : Prop :=
  Triple globals registers stage program fun _ => stage

variable {stage : BootFacts → Prop}

theorem keeps_ret (value : α) : Keeps globals registers stage (.ret value : Driver α) :=
  ⟨trivial, fun _ start => start⟩

theorem Keeps.bind {program : Driver α} {rest : α → Driver β}
    (first : Keeps globals registers stage program)
    (second : ∀ value, Keeps globals registers stage (rest value)) :
    Keeps globals registers stage (program >>= rest) :=
  Triple.bind first second

theorem Keeps.andThen {call : Driver (McuResult α)} {rest : α → Driver (McuResult β)}
    (first : Keeps globals registers stage call)
    (second : ∀ value, Keeps globals registers stage (rest value)) :
    Keeps globals registers stage (Driver.andThen call rest) :=
  Triple.andThen first (fun _ _ kept => kept) second

/-! ## The primitives -/

/-- Registers that no fact but the last access is about. -/
def Ordinary (globals : Globals) (addr : Word) : Prop :=
  addr ∉ bootPeripherals ∧ ∀ entry ∈ fatalWrites globals, entry.1 ≠ addr

/-- Fatal errors are reported in three registers. -/
theorem not_fatal {addr : Word} (handled : addr ≠ handlerMciFatal) (exit : addr ≠ emuExit)
    (unhandled : addr ≠ romEnv.mci.reg Mci.regFwErrorFatal) :
    ∀ entry ∈ fatalWrites globals, entry.1 ≠ addr := by
  intro entry listed
  rcases globals with ⟨gWriter, _ | ⟨⟩⟩
  · cases List.mem_singleton.mp listed
    exact unhandled.symm
  · rcases List.mem_cons.mp listed with rfl | later
    · exact handled.symm
    · cases List.mem_singleton.mp later
      exact exit.symm

theorem ordinary_uartTx : Ordinary globals uartTx :=
  ⟨by decide, not_fatal (by decide) (by decide) (by decide)⟩

theorem ordinary_flowReg : Ordinary globals flowReg :=
  ⟨by decide, not_fatal (by decide) (by decide) (by decide)⟩

/-- An access of an ordinary register keeps every stage. -/
theorem Stage.ordinary (insensitive : Stage stage) {facts : BootFacts}
    {access : Access Word Word} (ordinary : Ordinary globals access.addr) (start : stage facts) :
    stage (facts.observe globals access) := by
  rw [BootFacts.observe_quiet globals ordinary.1 ordinary.2]
  exact insensitive facts (some access) start

theorem keeps_readReg (insensitive : Stage stage) {addr : Word} (known : addr ∈ registers)
    (ordinary : Ordinary globals addr) :
    Keeps globals registers stage (Program.readReg addr) := by
  refine ⟨⟨known, fun _ => trivial⟩, ?_⟩
  rintro facts start value after admitted
  cases admitted
  exact insensitive.ordinary ordinary start

theorem keeps_uartWrites (insensitive : Stage stage) (gWriter : Option Writer) (chars : List Char) :
    Keeps globals flowRegisters stage (Program.writeAll (uartWrites gWriter chars)) := by
  constructor
  · apply Program.within_writeAll
    intro entry member
    rw [addr_of_mem_uartWrites member]
    exact List.mem_append_left _ List.mem_cons_self
  intro facts start
  refine Program.obeys_writeAll ?_ start
  intro entry member facts start
  refine ⟨facts.observe globals (.write entry.1 entry.2), ?_, ?_⟩
  · rw [addr_of_mem_uartWrites member]
    exact permits (.console entry.2)
  · refine insensitive.ordinary ?_ start
    change Ordinary globals entry.1
    rw [addr_of_mem_uartWrites member]
    exact ordinary_uartTx

theorem keeps_print (insensitive : Stage stage) (gWriter : Option Writer) (str : String) :
    Keeps globals flowRegisters stage (print gWriter str) := by
  rw [print_eq]
  exact keeps_uartWrites insensitive gWriter _

theorem keeps_println (insensitive : Stage stage) (gWriter : Option Writer) (str : String) :
    Keeps globals flowRegisters stage (println gWriter str) := by
  rw [println_eq]
  exact keeps_uartWrites insensitive gWriter _

theorem keeps_hexWordPrintTo (insensitive : Stage stage) (value : Word) (gWriter : Option Writer) :
    Keeps globals flowRegisters stage (hexWordPrintTo value gWriter) := by
  rw [hexWordPrintTo_eq]
  exact keeps_uartWrites insensitive gWriter _

/-- A read-modify-write of the flow status, if the rule allows the new word
right after the read. -/
theorem keeps_flowUpdate (insensitive : Stage stage) {update : Word → Word}
    (allowed : ∀ facts old, facts.last = some (.read flowReg old) →
      BootWrite globals facts flowReg (update old)) :
    Keeps globals flowRegisters stage
      (Program.readReg flowReg >>= fun old => Program.writeReg flowReg (update old)) := by
  have known : flowReg ∈ flowRegisters := by decide
  refine ⟨⟨known, fun _ => ⟨known, trivial⟩⟩, ?_⟩
  rintro facts start old after admitted
  cases admitted
  refine ⟨_, permits (allowed _ old rfl), ?_⟩
  exact insensitive.ordinary ordinary_flowReg (insensitive.ordinary ordinary_flowReg start)

theorem keeps_checkpoint (insensitive : Stage stage) (status : McuRomBootStatus) :
    Keeps globals flowRegisters stage (romEnv.checkpoint status) :=
  keeps_flowUpdate insensitive fun _ old fresh => .checkpoint old status fresh

theorem keeps_milestone (insensitive : Stage stage) {flag : HalfWord}
    (known : flag ∈ romMilestones) :
    Keeps globals flowRegisters stage (romEnv.mci.setFlowMilestone flag) := by
  refine keeps_flowUpdate insensitive ?_
  intro facts old fresh
  rw [Mci.milestone_or_eq]
  exact .milestone old flag known fresh

/-! ## The stages of a boot -/

/-- Nothing but the MCI and the console has been accessed. -/
def Calm (facts : BootFacts) : Prop := ¬ facts.reached ∧ ¬ facts.started ∧ ¬ facts.failed

/-- Caliptra has not been started. -/
def Preparing (facts : BootFacts) : Prop := ¬ facts.started ∧ ¬ facts.failed

/-- Caliptra has not been started, and the OTP controller was seen idle. -/
def Ready (facts : BootFacts) : Prop := facts.otpIdle ∧ ¬ facts.started ∧ ¬ facts.failed

/-- No fatal error has been reported. -/
def Running (facts : BootFacts) : Prop := ¬ facts.failed

theorem stage_calm : Stage Calm := fun _ _ => id

theorem stage_preparing : Stage Preparing := fun _ _ => id

theorem stage_ready : Stage Ready := fun _ _ => id

theorem stage_running : Stage Running := fun _ _ => id

/-- Reads never report a failure or start anything. -/
theorem Preparing.read {facts : BootFacts} (start : Preparing facts) (addr value : Word) :
    Preparing (facts.observe globals (.read addr value)) := by
  constructor
  · rintro (started | ⟨_, impossible⟩)
    · exact start.1 started
    · cases impossible
  · rintro (failed | ⟨_, _, impossible⟩)
    · exact start.2 failed
    · cases impossible

theorem Running.read {facts : BootFacts} (start : Running facts) (addr value : Word) :
    Running (facts.observe globals (.read addr value)) := by
  rintro (failed | ⟨_, _, impossible⟩)
  · exact start failed
  · cases impossible

/-- A write to a register that fatal errors are not reported in. -/
theorem Running.write {facts : BootFacts} (start : Running facts) {addr : Word} (value : Word)
    (unlisted : ∀ entry ∈ fatalWrites globals, entry.1 ≠ addr) :
    Running (facts.observe globals (.write addr value)) := by
  rintro (failed | ⟨entry, listed, same⟩)
  · exact start failed
  · cases same
    exact unlisted entry listed rfl

theorem Preparing.write {facts : BootFacts} (start : Preparing facts) {addr : Word} (value : Word)
    (different : addr ≠ bootGoReg) (unlisted : ∀ entry ∈ fatalWrites globals, entry.1 ≠ addr) :
    Preparing (facts.observe globals (.write addr value)) := by
  refine ⟨?_, Running.write start.2 value unlisted⟩
  rintro (started | ⟨_, same⟩)
  · exact start.1 started
  · cases same
    exact different rfl

/-! ## Bringing up the peripherals -/

/-- The bits outside a mask survive a read-modify-write within the mask. -/
theorem modify_others {bits mask : Word} (inside : mask &&& ~~~bits = 0) (old value : Word) :
    (old &&& ~~~mask ||| value &&& mask) &&& ~~~bits = old &&& ~~~bits := by
  ext i hi
  have bit : (mask &&& ~~~bits)[i] = false := by
    rw [inside]
    exact BitVec.getElem_zero hi
  simp only [BitVec.getElem_and, BitVec.getElem_or, BitVec.getElem_not] at bit ⊢
  cases held : mask[i]
  · cases bits[i] <;> simp
  · rw [held, Bool.true_and] at bit
    rw [bit, Bool.and_false, Bool.and_false]

theorem not_fatal_i3cCtrl : ∀ entry ∈ fatalWrites globals, entry.1 ≠ i3cCtrlReg :=
  not_fatal (by decide) (by decide) (by decide)

theorem keeps_modifyCtrl {mask : Word} (inside : mask &&& ~~~i3cCtrlBits = 0) (value : Word) :
    Keeps globals flowRegisters Preparing (romEnv.i3c.modifyReg I3c.regCtrl mask value) := by
  have known : i3cCtrlReg ∈ flowRegisters := by decide
  refine ⟨⟨known, fun _ => ⟨known, trivial⟩⟩, ?_⟩
  rintro facts start old after admitted
  cases admitted
  refine ⟨_, permits (.control old _ rfl (modify_others inside old value)), ?_⟩
  exact (start.read i3cCtrlReg old).write _ (by decide) not_fatal_i3cCtrl

theorem keeps_i3cInit : Keeps globals flowRegisters Preparing romEnv.i3c.init := by
  have tx : I3c.ctrlTxFifoRst &&& ~~~i3cCtrlBits = 0 := by decide
  have rx : I3c.ctrlRxFifoRst &&& ~~~i3cCtrlBits = 0 := by decide
  have on : I3c.ctrlEnable &&& ~~~i3cCtrlBits = 0 := by decide
  refine Keeps.bind ?_ fun () => Keeps.bind ?_ fun () => ?_
  · exact (keeps_modifyCtrl tx _).bind fun () => keeps_modifyCtrl tx 0
  · exact (keeps_modifyCtrl rx _).bind fun () => keeps_modifyCtrl rx 0
  · exact (keeps_modifyCtrl on _).bind fun () => keeps_ret _

/-- Waiting for the OTP controller ends with `Ok` only if it was seen idle. -/
theorem triple_otpInit :
    Triple globals flowRegisters Preparing romEnv.otp.init
      fun result after => Preparing after ∧ (result = .ok () → Ready after) := by
  have polled : Triple globals flowRegisters Preparing
      (pollWhile otpStatusReg Otp.statusNotIdle Otp.defaultTimeoutCycles)
      fun idle after => Preparing after ∧ (idle = true → Ready after) := by
    refine ⟨Program.within_pollWhile (by decide) _ _, fun facts start => ?_⟩
    refine Program.obeys_pollWhile_of Preparing ?_ ?_ _ start
    · rintro facts value after known ⟨⟩ busy
      have kept : Preparing (facts.observe globals (.read otpStatusReg value)) :=
        known.read otpStatusReg value
      exact ⟨kept, kept, fun impossible => Bool.noConfusion impossible⟩
    · rintro facts value after known ⟨⟩ idle
      have kept : Preparing (facts.observe globals (.read otpStatusReg value)) :=
        known.read otpStatusReg value
      exact ⟨kept, fun _ => ⟨Or.inr ⟨value, rfl, idle⟩, kept⟩⟩
  refine polled.bind fun idle => ?_
  cases idle with
  | true => exact ⟨trivial, fun after known => ⟨known.1, fun _ => known.2 rfl⟩⟩
  | false => exact ⟨trivial, fun after known => ⟨known.1, fun impossible => by cases impossible⟩⟩

/-! ## Cold boot -/

theorem keeps_waitCaliptraReady :
    Keeps globals flowRegisters Running (ColdBoot.waitCaliptraReady romEnv) := by
  have polled : Keeps globals flowRegisters Running
      (pollWhile mboxStatusReg CaliptraSoC.statusBusy ColdBoot.readyTimeout) := by
    refine ⟨Program.within_pollWhile (by decide) _ _, fun facts start => ?_⟩
    refine Program.obeys_pollWhile_of Running ?_ ?_ _ start
    · rintro facts value after known ⟨⟩ _
      exact ⟨known.read _ value, known.read _ value⟩
    · rintro facts value after known ⟨⟩ _
      exact known.read _ value
  refine polled.bind fun ready => ?_
  cases ready with
  | true => exact keeps_ret _
  | false => exact keeps_ret _

/-- The only write of the boot go register is made when it is allowed. -/
theorem triple_configureCaliptra :
    Triple globals flowRegisters Ready (ColdBoot.configureCaliptra romEnv) fun _ => Running := by
  refine ⟨⟨show bootGoReg ∈ flowRegisters by decide, trivial⟩, fun facts start => ?_⟩
  refine ⟨_, permits (.bootGo start.1 start.2.1), ?_⟩
  exact Running.write start.2.2 1 (not_fatal (by decide) (by decide) (by decide))

theorem keeps_transferIfPending (state : OwnershipState) :
    Keeps globals flowRegisters Running (DeviceOwnershipTransfer.transferIfPending romEnv state) := by
  unfold DeviceOwnershipTransfer.transferIfPending
  split
  · refine Keeps.andThen (keeps_ret _) fun () => ?_
    refine Keeps.bind (keeps_checkpoint stage_running _) fun () => ?_
    refine Keeps.andThen (keeps_ret _) fun () => ?_
    exact Keeps.bind (keeps_checkpoint stage_running _) fun () => keeps_ret _
  · exact keeps_ret _

theorem keeps_deviceOwnershipTransfer (gWriter : Option Writer) :
    Keeps globals flowRegisters Running (ColdBoot.deviceOwnershipTransfer gWriter romEnv) := by
  refine Keeps.bind (keeps_checkpoint stage_running _) fun () => ?_
  refine Keeps.bind (keeps_println stage_running gWriter _) fun () => ?_
  refine Keeps.andThen (keeps_ret _) fun () => ?_
  refine Keeps.bind (keeps_checkpoint stage_running _) fun () => ?_
  refine Keeps.andThen (keeps_ret _) fun state => ?_
  refine Keeps.bind (keeps_checkpoint stage_running _) fun () => ?_
  refine Keeps.andThen (keeps_transferIfPending state) fun () => ?_
  refine Keeps.bind (keeps_checkpoint stage_running _) fun () => ?_
  exact Keeps.bind (keeps_println stage_running gWriter _) fun () => keeps_ret _

/-- Both controllers are brought up, or the flow ends before Caliptra starts. -/
theorem triple_initPeripherals :
    Triple globals flowRegisters Preparing (ColdBoot.initPeripherals romEnv)
      fun result after => Preparing after ∧ (result = .ok () → Ready after) := by
  refine Triple.andThen keeps_i3cInit ?_ fun () => triple_otpInit.andThen ?_ fun () => ?_
  · exact fun e after preparing => ⟨preparing, fun impossible => by cases impossible⟩
  · exact fun e after known => ⟨known.1, fun impossible => by cases impossible⟩
  · exact ⟨trivial, fun after known => known⟩

/-- A cold boot starts Caliptra only behind both controllers, and reports no
fatal error. -/
theorem triple_coldBoot (gWriter : Option Writer) :
    Triple globals flowRegisters Preparing (ColdBoot.execute gWriter romEnv) fun _ => Running := by
  refine Triple.bind (keeps_checkpoint stage_preparing _) fun () => ?_
  refine Triple.bind (keeps_milestone stage_preparing (by decide)) fun () => ?_
  refine Triple.bind (keeps_println stage_preparing gWriter _) fun () => ?_
  refine Triple.andThen (keeps_ret _) (fun _ _ known => known.2) fun () => ?_
  refine Triple.bind (keeps_checkpoint stage_preparing _) fun () => ?_
  refine Triple.andThen (keeps_ret _) (fun _ _ known => known.2) fun () => ?_
  refine Triple.bind (keeps_checkpoint stage_preparing _) fun () => ?_
  refine triple_initPeripherals.andThen (fun _ _ known => known.1.2) fun () => ?_
  refine Triple.mono ?_ (fun facts known => known.2 rfl) (fun _ _ running => running)
  refine Triple.bind (keeps_checkpoint stage_ready _) fun () => ?_
  refine triple_configureCaliptra.andThen (fun _ _ running => running) fun () => ?_
  -- from here on every access keeps the stage
  refine Keeps.bind (keeps_milestone stage_running (by decide)) fun () => ?_
  refine Keeps.bind (keeps_checkpoint stage_running _) fun () => ?_
  refine Keeps.andThen (keeps_ret _) fun () => ?_
  refine Keeps.bind (keeps_milestone stage_running (by decide)) fun () => ?_
  refine Keeps.bind (keeps_checkpoint stage_running _) fun () => ?_
  refine Keeps.andThen keeps_waitCaliptraReady fun () => ?_
  refine Keeps.bind (keeps_checkpoint stage_running _) fun () => ?_
  refine Keeps.andThen (keeps_deviceOwnershipTransfer gWriter) fun () => ?_
  refine Keeps.bind (keeps_checkpoint stage_running _) fun () => ?_
  refine Keeps.andThen (keeps_ret _) fun () => ?_
  refine Keeps.bind (keeps_milestone stage_running (by decide)) fun () => ?_
  refine Keeps.bind (keeps_checkpoint stage_running _) fun () => ?_
  exact Keeps.bind (keeps_println stage_running gWriter _) fun () => keeps_ret _

/-! ## The other flows -/

theorem keeps_warmBoot (gWriter : Option Writer) :
    Keeps globals flowRegisters Calm (WarmBoot.execute gWriter romEnv) := by
  refine Keeps.bind (keeps_checkpoint stage_calm _) fun () => ?_
  refine Keeps.bind (keeps_println stage_calm gWriter _) fun () => ?_
  refine Keeps.andThen (keeps_ret _) fun () => ?_
  refine Keeps.andThen (keeps_ret _) fun () => ?_
  refine Keeps.andThen (keeps_ret _) fun () => ?_
  refine Keeps.bind (keeps_milestone stage_calm (by decide)) fun () => ?_
  refine Keeps.bind (keeps_checkpoint stage_calm _) fun () => ?_
  exact Keeps.bind (keeps_println stage_calm gWriter _) fun () => keeps_ret _

theorem keeps_fwBoot (gWriter : Option Writer) :
    Keeps globals flowRegisters Calm (FwBoot.execute gWriter romEnv) := by
  refine Keeps.bind (keeps_checkpoint stage_calm _) fun () => ?_
  refine Keeps.bind (keeps_println stage_calm gWriter _) fun () => ?_
  refine Keeps.andThen (keeps_ret _) fun () => ?_
  refine Keeps.bind (keeps_checkpoint stage_calm _) fun () => ?_
  refine Keeps.bind (keeps_milestone stage_calm (by decide)) fun () => ?_
  refine Keeps.bind (keeps_checkpoint stage_calm _) fun () => ?_
  exact Keeps.bind (keeps_println stage_calm gWriter _) fun () => keeps_ret _

theorem keeps_fwHitlessUpdate (gWriter : Option Writer) :
    Keeps globals flowRegisters Calm (FwHitlessUpdate.execute gWriter romEnv) := by
  refine Keeps.bind (keeps_checkpoint stage_calm _) fun () => ?_
  refine Keeps.bind (keeps_println stage_calm gWriter _) fun () => ?_
  refine Keeps.andThen (keeps_ret _) fun () => ?_
  refine Keeps.andThen (keeps_ret _) fun () => ?_
  refine Keeps.andThen (keeps_ret _) fun () => ?_
  refine Keeps.bind (keeps_checkpoint stage_calm _) fun () => ?_
  exact Keeps.bind (keeps_println stage_calm gWriter _) fun () => keeps_ret _

/-! ## Fatal errors and the whole boot -/

/-- One write of the report. -/
theorem triple_fatalWrite {addr value : Word} (known : addr ∈ flowRegisters)
    (listed : (addr, value) ∈ fatalWrites globals) (apart : addr ∉ bootPeripherals) :
    Triple globals flowRegisters (fun facts => ¬ facts.reached) (Program.writeReg addr value)
      fun _ after => ¬ after.reached := by
  refine ⟨⟨known, trivial⟩, fun facts calm => ⟨_, permits (.fatal listed calm), ?_⟩⟩
  rintro (reached | peripheral)
  · exact calm reached
  · exact apart peripheral

/-- A report of an invalid reset reason reaches nothing else. -/
theorem triple_fatalError :
    Triple globals flowRegisters Calm (fatalError globals .bootInvalidResetReason)
      fun _ after => ¬ after.reached := by
  rcases globals with ⟨gWriter, _ | ⟨⟩⟩
  · refine Triple.mono ?_ (fun _ calm => calm.1) (fun _ _ known => known)
    exact (triple_fatalWrite (by decide) List.mem_cons_self (by decide)).bind fun () =>
      ⟨trivial, fun _ known => known⟩
  · refine Triple.bind (keeps_print stage_calm gWriter _) fun () => ?_
    refine Triple.bind (keeps_hexWordPrintTo stage_calm _ gWriter) fun () => ?_
    refine Triple.bind (keeps_println stage_calm gWriter _) fun () => ?_
    refine Triple.mono ?_ (fun _ calm => calm.1) (fun _ _ known => known)
    refine (triple_fatalWrite (by decide) List.mem_cons_self (by decide)).bind fun () => ?_
    exact (triple_fatalWrite (by decide) (List.mem_cons_of_mem _ List.mem_cons_self)
      (by decide)).bind fun () => ⟨trivial, fun _ known => known⟩

theorem keeps_genericInputWires {index : SizeT} (bounded : ¬ 2 ≤ index)
    (known : romEnv.mci.reg (0x400 + index * 4) ∈ romRegisters)
    (ordinary : Ordinary globals (romEnv.mci.reg (0x400 + index * 4))) :
    Keeps globals romRegisters Calm (romEnv.mci.genericInputWires index) := by
  unfold Mci.genericInputWires
  rw [if_neg bounded]
  exact keeps_readReg stage_calm known ordinary

theorem keeps_romPrologue (gWriter : Option Writer) :
    Keeps globals romRegisters Calm (romPrologue gWriter romEnv) := by
  have security : Ordinary globals (romEnv.mci.reg Mci.regSecurityState) :=
    ⟨by decide, not_fatal (by decide) (by decide) (by decide)⟩
  have reason : Ordinary globals (romEnv.mci.reg Mci.regResetReason) :=
    ⟨by decide, not_fatal (by decide) (by decide) (by decide)⟩
  have wires0 : Ordinary globals (romEnv.mci.reg (0x400 + 0 * 4)) :=
    ⟨by decide, not_fatal (by decide) (by decide) (by decide)⟩
  have wires1 : Ordinary globals (romEnv.mci.reg (0x400 + 1 * 4)) :=
    ⟨by decide, not_fatal (by decide) (by decide) (by decide)⟩
  refine Keeps.bind (Triple.widen (keeps_println stage_calm gWriter _)) fun () => ?_
  refine Keeps.bind (Triple.widen (keeps_milestone stage_calm (by decide))) fun () => ?_
  refine Keeps.bind (Triple.widen (keeps_print stage_calm gWriter _)) fun () => ?_
  refine Keeps.bind ((keeps_readReg stage_calm (by decide) security).bind fun _ => keeps_ret _)
    fun _ => ?_
  refine Keeps.bind (Triple.widen (keeps_println stage_calm gWriter _)) fun () => ?_
  refine Keeps.bind (Triple.widen (keeps_print stage_calm gWriter _)) fun () => ?_
  refine Keeps.bind (keeps_genericInputWires (by decide) (by decide) wires0) fun _ => ?_
  refine Keeps.bind (Triple.widen (keeps_hexWordPrintTo stage_calm _ gWriter)) fun () => ?_
  refine Keeps.bind (Triple.widen (keeps_println stage_calm gWriter _)) fun () => ?_
  refine Keeps.bind (Triple.widen (keeps_print stage_calm gWriter _)) fun () => ?_
  refine Keeps.bind (keeps_genericInputWires (by decide) (by decide) wires1) fun _ => ?_
  refine Keeps.bind (Triple.widen (keeps_hexWordPrintTo stage_calm _ gWriter)) fun () => ?_
  refine Keeps.bind (Triple.widen (keeps_println stage_calm gWriter _)) fun () => ?_
  refine Keeps.bind (keeps_readReg stage_calm (by decide) reason) fun _ => ?_
  refine Keeps.bind (Triple.widen (keeps_print stage_calm gWriter _)) fun () => ?_
  refine Keeps.bind (Triple.widen (keeps_hexWordPrintTo stage_calm _ gWriter)) fun () => ?_
  refine Keeps.bind (Triple.widen (keeps_println stage_calm gWriter _)) fun () => ?_
  exact (keeps_readReg stage_calm (by decide) reason).bind fun _ => keeps_ret _

/-- At the end, a boot that has reported a fatal error has reached nothing. -/
def Settled (facts : BootFacts) : Prop := facts.failed → ¬ facts.reached

/-- The flow behind each reset reason, and the fatal error behind none. -/
theorem triple_romDispatch (reason : McuResetReason) :
    Triple globals flowRegisters Calm (romDispatch globals romEnv reason) fun _ => Settled := by
  refine Triple.bind (keeps_println stage_calm globals.gWriter _) fun () => ?_
  have settles : ∀ flow : Driver (McuResult Unit), Keeps globals flowRegisters Calm flow →
      Triple globals flowRegisters Calm (flow >>= fun _ => pure Halt.romStart) fun _ => Settled := by
    intro flow keeps
    refine Triple.bind keeps fun _ => ?_
    exact ⟨trivial, fun _ calm _ => calm.1⟩
  cases reason with
  | coldBoot =>
      refine Triple.mono ?_ (fun _ calm => calm.2) (fun _ _ settled => settled)
      refine (triple_coldBoot globals.gWriter).bind fun _ => ?_
      exact ⟨trivial, fun _ running failed => absurd failed running⟩
  | warmReset => exact settles _ (keeps_warmBoot globals.gWriter)
  | firmwareBootReset => exact settles _ (keeps_fwBoot globals.gWriter)
  | firmwareHitlessUpdate => exact settles _ (keeps_fwHitlessUpdate globals.gWriter)
  | invalid =>
      exact triple_fatalError.mono (fun _ calm => calm) fun _ _ known _ => known

theorem triple_romStart : Triple globals romRegisters Calm (romStart globals) fun _ => Settled :=
  Triple.bind (keeps_romPrologue globals.gWriter) fun reason => (triple_romDispatch reason).widen

theorem calm_nil : Calm (BootFacts.of globals []) := by
  refine ⟨?_, ?_, ?_⟩
  · rintro ⟨_, impossible, _⟩
    cases impossible
  · rintro ⟨_, impossible⟩
    cases impossible
  · rintro ⟨_, _, impossible⟩
    cases impossible

end BootMonitor

/-- Whatever the device answers, a boot stays within its registers, keeps the
rules for writes, and touches nothing but the MCI and the console when it
reports a fatal error. -/
theorem romStart_confined {σ : Type} (globals : Globals) (dev : Device Word Word σ) (state : σ) :
    Confined globals ((romStart globals).run dev state).trace := by
  have triple := @BootMonitor.triple_romStart globals
  rcases (triple.obeys _ BootMonitor.calm_nil).follows BootMonitor.reliesOnNothing dev state with
    ⟨final, followed, settled⟩
  rcases BootMonitor.enforces followed with ⟨writes, rfl⟩
  exact ⟨triple.within.trace dev state, writes, settled⟩

end McuRom
