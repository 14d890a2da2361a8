import McuRom.Romtime.HexText
import McuRom.Rom.Confinement

namespace McuRom

open Mmio Text Hardware

/-!
# The boot log

The console is the only thing a boot shows to the outside while it runs.  A
reader for its output is given here, and shown to recover what the boot has
read from the hardware, whatever the hardware is: nothing that decides about
the boot can hide from the log.
-/

/-! ## What a trace contains -/

/-- The character a write to the transmit register sends. -/
def sent? : Access Word Word → Option Char
  | .write addr value =>
    if addr = uartTx then some (Char.ofNat (value.setWidth 8).toNat) else none
  | .read _ _ => none

def consoleText (trace : List (Access Word Word)) : List Char := trace.filterMap sent?

/-- A character that fits the byte that is sent. -/
theorem sent?_char {c : Char} (fits : c.toNat < 2 ^ 8) :
    sent? (.write uartTx ((BitVec.ofNat 8 c.toNat).setWidth 32)) = some c := by
  have whole : (((BitVec.ofNat 8 c.toNat).setWidth 32 : Word).setWidth 8).toNat = c.toNat := by
    rw [BitVec.setWidth_setWidth_of_le _ (by decide), BitVec.setWidth_eq, BitVec.toNat_ofNat,
      Nat.mod_eq_of_lt fits]
  rw [sent?, if_pos rfl, whole, Char.ofNat_toNat]

/-- A value read from one of the registers the flow is selected by. -/
def input? : Access Word Word → Option (Word × Word)
  | .read addr value => if addr ∈ inputRegisters then some (addr, value) else none
  | .write _ _ => none

def inputsRead (trace : List (Access Word Word)) : List (Word × Word) := trace.filterMap input?

/-- A status of the Caliptra mailbox that lets a boot go on. -/
def showsFree : Access Word Word → Bool
  | .read addr value => addr == mboxStatusReg && !CaliptraSoC.statusBusy value
  | .write _ _ => false

/-- The mailbox has been seen free. -/
def mailboxFree (trace : List (Access Word Word)) : Bool := trace.any showsFree

/-! ## The log -/

/-- The part of `device_lifecycle_state` behind the register access. -/
def Mci.decodeLifecycle (value : Word) : DeviceLifecycleState :=
  let state := value &&& 0x03
  if state = 0 then .deviceUnprovisioned
  else if state = 1 then .deviceManufacturing
  else if state = 2 then .deviceProvisioned
  else if state = 3 then .deviceSecurityLocked
  else .deviceUnprovisioned

/-- What can be learnt from the log. -/
structure BootLog where
  lifecycle : DeviceLifecycleState
  wires0 : Word
  wires1 : Word
  resetReason : Word
  reason : McuResetReason
  completed : Bool
deriving DecidableEq, Repr

def line (str : String) : List Char := str.toList ++ ['\n']

def lifecycleName : DeviceLifecycleState → String
  | .deviceUnprovisioned => "Unprovisioned"
  | .deviceManufacturing => "Manufacturing"
  | .deviceProvisioned => "Production"
  | .deviceSecurityLocked => "SecurityLocked"

/-- The lines the lifecycle states are shown by. -/
def lifecycleLines : List (List Char × DeviceLifecycleState) :=
  [.deviceUnprovisioned, .deviceManufacturing, .deviceProvisioned, .deviceSecurityLocked].map
    fun lifecycle => (line (lifecycleName lifecycle), lifecycle)

/-- The lines the reset reasons are shown by. -/
def reasonLines : List (List Char × McuResetReason) :=
  [.coldBoot, .warmReset, .firmwareBootReset, .firmwareHitlessUpdate, .invalid].map
    fun reason => (line (bootMessage reason), reason)

/-- The line of a flow, printed when it starts. -/
def startLine : McuResetReason → List Char
  | .coldBoot => line "[ROM] Cold boot flow started"
  | .warmReset => line "[ROM] Warm boot flow started"
  | .firmwareBootReset => line "[ROM] Firmware boot flow started"
  | .firmwareHitlessUpdate => line "[ROM] Hitless update flow started"
  | .invalid => []

/-- The lines from then on, if the flow is completed. -/
def completionLines : McuResetReason → List Char
  | .coldBoot =>
    line "[ROM] Device ownership transfer started" ++
      line "[ROM] Device ownership transfer complete" ++ line "[ROM] Cold boot flow complete"
  | .warmReset => line "[ROM] Warm boot flow complete"
  | .firmwareBootReset => line "[ROM] Firmware boot flow complete"
  | .firmwareHitlessUpdate => line "[ROM] Hitless update flow complete"
  | .invalid => []

/-- The line of the fatal error handler. -/
def fatalLine (code : Word) : List Char :=
  "[mcu-rom] FATAL ERROR: 0x".toList ++ hexWordDigits code ++ ['\n']

/-- The ends a log can have, and whether the flow is completed. -/
def logEnds : McuResetReason → List (List Char × Bool)
  | .invalid => [([], false), (fatalLine McuError.bootInvalidResetReason.code, false)]
  | reason => [(startLine reason, false), (startLine reason ++ completionLines reason, true)]

/-- The log up to the line for the reset reason. -/
def readLogHead : Reader (Bool → BootLog) := do
  Reader.literal (line "[mcu-rom] Hello from CPP ROM")
  Reader.literal "[mcu-rom] Device lifecycle: ".toList
  let lifecycle ← Reader.oneOf lifecycleLines
  Reader.literal "[mcu-rom] MCI generic input wires[0]: ".toList
  let wires0 ← readHexWord
  Reader.literal ['\n']
  Reader.literal "[mcu-rom] MCI generic input wires[1]: ".toList
  let wires1 ← readHexWord
  Reader.literal ['\n']
  Reader.literal "[mcu-rom] MCI RESET_REASON: 0x".toList
  let resetReason ← readHexWord
  Reader.literal ['\n']
  let reason ← Reader.oneOf reasonLines
  pure fun completed => ⟨lifecycle, wires0, wires1, resetReason, reason, completed⟩

/-- The log of one boot. -/
def readBootLog (text : List Char) : Option BootLog :=
  (readLogHead text).bind fun taken =>
    ((logEnds (taken.1 false).reason).lookup taken.2).map taken.1

/-- The log agrees with what the boot has read.  The reset reason is read
twice: the first value is printed, the second one selects the flow. -/
structure BootLog.Explains (log : BootLog) (trace : List (Access Word Word)) : Prop where
  inputs : ∃ security second,
    inputsRead trace =
      [(romEnv.mci.reg Mci.regSecurityState, security), (romEnv.mci.reg 0x400, log.wires0),
        (romEnv.mci.reg 0x404, log.wires1), (romEnv.mci.reg Mci.regResetReason, log.resetReason),
        (romEnv.mci.reg Mci.regResetReason, second)] ∧
      log.lifecycle = Mci.decodeLifecycle security ∧ log.reason = Mci.decodeResetReason second
  completed : log.completed = true ↔
    log.reason ≠ .invalid ∧ (log.reason = .coldBoot → mailboxFree trace = true)

/-! ## Taking notes -/

/-- The three together, as notes taken along a trace. -/
@[ext] structure Shown where
  text : List Char
  inputs : List (Word × Word)
  free : Bool

namespace Shown

def nothing : Shown := ⟨[], [], false⟩

def note (shown : Shown) (access : Access Word Word) : Shown where
  text := shown.text ++ (sent? access).toList
  inputs := shown.inputs ++ (input? access).toList
  free := shown.free || showsFree access

/-- One entry after the other. -/
theorem toList_append_filterMap {α β : Type} (f : α → Option β) (entry : α) (rest : List α) :
    (f entry).toList ++ rest.filterMap f = (entry :: rest).filterMap f := by
  rw [List.filterMap_cons]
  cases f entry <;> rfl

theorem foldl_note (shown : Shown) (trace : List (Access Word Word)) :
    trace.foldl note shown =
      ⟨shown.text ++ consoleText trace, shown.inputs ++ inputsRead trace,
        shown.free || mailboxFree trace⟩ := by
  induction trace generalizing shown with
  | nil => simp [consoleText, inputsRead, mailboxFree]
  | cons access rest ih =>
      rw [List.foldl_cons, ih]
      ext1
      · change shown.text ++ _ ++ _ = shown.text ++ _
        rw [List.append_assoc, consoleText, toList_append_filterMap, consoleText]
      · change shown.inputs ++ _ ++ _ = shown.inputs ++ _
        rw [List.append_assoc, inputsRead, toList_append_filterMap, inputsRead]
      · simp only [note, mailboxFree, List.any_cons, Bool.or_assoc]

variable (shown : Shown)

def say (chars : List Char) : Shown := { shown with text := shown.text ++ chars }

def take (addr value : Word) : Shown := { shown with inputs := shown.inputs ++ [(addr, value)] }

theorem say_say (first second : List Char) :
    (shown.say first).say second = shown.say (first ++ second) := by
  simp only [say, List.append_assoc]

/-- Registers whose accesses are not shown. -/
def Hidden (addr : Word) : Prop := addr ≠ uartTx ∧ addr ∉ inputRegisters ∧ addr ≠ mboxStatusReg

theorem note_hidden {access : Access Word Word} (hidden : Hidden access.addr) :
    shown.note access = shown := by
  have quiet : sent? access = none ∧ input? access = none ∧ showsFree access = false := by
    cases access with
    | read addr value =>
        have apart : addr ≠ mboxStatusReg := hidden.2.2
        refine ⟨rfl, if_neg hidden.2.1, ?_⟩
        rw [showsFree, beq_false_of_ne apart, Bool.false_and]
    | write addr value => exact ⟨if_neg hidden.1, rfl, rfl⟩
  ext1
  · rw [note, quiet.1, Option.toList_none, List.append_nil]
  · rw [note, quiet.2.1, Option.toList_none, List.append_nil]
  · rw [note, quiet.2.2, Bool.or_false]

theorem note_input {addr : Word} (listed : addr ∈ inputRegisters) (other : addr ≠ mboxStatusReg)
    (value : Word) : shown.note (.read addr value) = shown.take addr value := by
  ext1
  · exact List.append_nil shown.text
  · rw [note, input?, if_pos listed, Option.toList_some]
    rfl
  · rw [note, showsFree, beq_false_of_ne other, Bool.false_and, Bool.or_false]
    rfl

theorem note_char {c : Char} (fits : c.toNat < 2 ^ 8) :
    shown.note (.write uartTx ((BitVec.ofNat 8 c.toNat).setWidth 32)) = shown.say [c] := by
  ext1
  · rw [note, sent?_char fits]
    rfl
  · exact List.append_nil shown.inputs
  · exact Bool.or_false shown.free

end Shown

/-! ## What programs show -/

namespace BootLog

variable {α β : Type} (shown : Shown)

/-- The program adds to the notes what is between the two. -/
def Adds (program : Driver α) (before after : Shown) : Prop :=
  program.Obeys (.recording Shown.note) (fun _ noted => noted = after) before

variable {shown}

theorem Adds.bind {program : Driver α} {rest : α → Driver β} {before after : Shown}
    {post : β → Shown → Prop} (first : Adds program before after)
    (second : ∀ value, (rest value).Obeys (.recording Shown.note) post after) :
    (program >>= rest).Obeys (.recording Shown.note) post before := by
  refine Program.Obeys.bind first ?_
  rintro value noted rfl
  exact second value

/-- A stage that the source leaves empty. -/
theorem passes {stage : Driver (McuResult α)} {value : α} {rest : α → Driver (McuResult β)}
    {post : McuResult β → Shown → Prop} (empty : stage = pure (.ok value))
    (onwards : (rest value).Obeys (.recording Shown.note) post shown) :
    (Driver.andThen stage rest).Obeys (.recording Shown.note) post shown := by
  subst empty
  exact onwards

variable (shown)

/-- Text of the console's character set. -/
def Printable (chars : List Char) : Prop := ∀ c ∈ chars, c.toNat < 2 ^ 8

instance (chars : List Char) : Decidable (Printable chars) :=
  List.decidableBAll _ chars

theorem printable_hexDigit {digit : Nat} (small : digit < 16) : (hexDigit digit).toNat < 2 ^ 8 := by
  revert digit
  decide

theorem printable_hexWordDigits (value : Word) : Printable (hexWordDigits value) := by
  intro c member
  rcases List.mem_flatMap.mp member with ⟨x, _, isDigit⟩
  rcases List.mem_cons.mp isDigit with rfl | second
  · exact printable_hexDigit (nibble_high x)
  · cases List.mem_singleton.mp second
    exact printable_hexDigit (nibble_low x)

section Output

variable {gWriter : Option Writer} (installed : gWriter = some .emulator)

include installed

theorem adds_text {chars : List Char} (printable : Printable chars) :
    Adds (Program.writeAll (uartWrites gWriter chars)) shown (shown.say chars) := by
  subst installed
  induction chars generalizing shown with
  | nil =>
      change shown = shown.say []
      rw [Shown.say, List.append_nil]
  | cons c rest ih =>
      refine ⟨_, rfl, ?_⟩
      have first := printable c List.mem_cons_self
      have later : Printable rest := fun d member => printable d (List.mem_cons_of_mem c member)
      rw [Shown.note_char shown first]
      have onwards := ih (shown.say [c]) later
      rwa [Shown.say_say, List.singleton_append] at onwards

theorem adds_print {str : String} (printable : Printable str.toList) :
    Adds (print gWriter str) shown (shown.say str.toList) := by
  rw [print_eq]
  exact adds_text shown installed printable

theorem adds_println {str : String} (printable : Printable (line str)) :
    Adds (println gWriter str) shown (shown.say (line str)) := by
  rw [println_eq]
  exact adds_text shown installed printable

theorem adds_hexWord (value : Word) :
    Adds (hexWordPrintTo value gWriter) shown (shown.say (hexWordDigits value)) := by
  rw [hexWordPrintTo_eq]
  exact adds_text shown installed (printable_hexWordDigits value)

end Output

theorem adds_hidden {program : Driver α} (within : program.Within Shown.Hidden) :
    Adds program shown shown := by
  induction program with
  | ret value => exact rfl
  | read addr next ih =>
      have same (value : Word) : shown.note (.read addr value) = shown :=
        Shown.note_hidden shown within.1
      rintro value after ⟨⟩
      rw [same]
      exact ih value (within.2 value)
  | write addr value next ih =>
      have same : shown.note (.write addr value) = shown := Shown.note_hidden shown within.1
      refine ⟨_, rfl, ?_⟩
      rw [same]
      exact ih within.2

theorem reads_input {addr : Word} (listed : addr ∈ inputRegisters) (other : addr ≠ mboxStatusReg) :
    (Program.readReg addr).Obeys (.recording Shown.note)
      (fun value noted => noted = shown.take addr value) shown := by
  rintro value after ⟨⟩
  exact Shown.note_input shown listed other value

/-! ## The pieces of a boot -/

theorem adds_checkpoint (status : McuRomBootStatus) :
    Adds (romEnv.checkpoint status) shown shown := by
  have flow : Shown.Hidden flowReg := by unfold Shown.Hidden; decide
  exact adds_hidden shown ⟨flow, fun _ => ⟨flow, trivial⟩⟩

theorem adds_milestone (flag : HalfWord) : Adds (romEnv.mci.setFlowMilestone flag) shown shown := by
  have flow : Shown.Hidden flowReg := by unfold Shown.Hidden; decide
  exact adds_hidden shown ⟨flow, fun _ => ⟨flow, trivial⟩⟩

theorem adds_initPeripherals : Adds (ColdBoot.initPeripherals romEnv) shown shown := by
  have control : Shown.Hidden i3cCtrlReg := by unfold Shown.Hidden; decide
  have otp : Shown.Hidden otpStatusReg := by unfold Shown.Hidden; decide
  have modify (mask value : Word) :
      (romEnv.i3c.modifyReg I3c.regCtrl mask value).Within Shown.Hidden :=
    ⟨control, fun _ => ⟨control, trivial⟩⟩
  have i3c : romEnv.i3c.init.Within Shown.Hidden := by
    refine ((modify _ _).bind fun () => modify _ _).bind fun () => ?_
    refine ((modify _ _).bind fun () => modify _ _).bind fun () => ?_
    exact (modify _ _).bind fun () => trivial
  apply adds_hidden
  refine i3c.bind fun result => ?_
  cases result with
  | error e => trivial
  | ok value =>
      refine ((Program.within_pollWhile otp _ _).bind fun idle => ?_).bind fun result => ?_
      · cases idle <;> trivial
      · cases result <;> trivial

theorem adds_configureCaliptra : Adds (ColdBoot.configureCaliptra romEnv) shown shown := by
  have go : Shown.Hidden bootGoReg := by unfold Shown.Hidden; decide
  exact adds_hidden shown ⟨go, trivial⟩

/-- Waiting succeeds exactly if the mailbox is seen free. -/
theorem shows_waitCaliptraReady :
    (ColdBoot.waitCaliptraReady romEnv).Obeys (.recording Shown.note)
      (fun result noted => (result = .ok () ∧ noted = { shown with free := true }) ∨
        (∃ e, result = .error e) ∧ noted = shown) shown := by
  have unlisted : mboxStatusReg ∉ inputRegisters := by decide
  have noted (value : Word) : shown.note (.read mboxStatusReg value) =
      { shown with free := shown.free || !CaliptraSoC.statusBusy value } := by
    ext1
    · exact List.append_nil shown.text
    · rw [Shown.note, input?, if_neg unlisted, Option.toList_none, List.append_nil]
    · rw [Shown.note, showsFree, beq_self_eq_true, Bool.true_and]
  have polled : (pollWhile mboxStatusReg CaliptraSoC.statusBusy ColdBoot.readyTimeout).Obeys
      (.recording Shown.note)
      (fun ready after => after = if ready then { shown with free := true } else shown) shown := by
    refine Program.obeys_pollWhile_of (fun after => after = shown) ?_ ?_ _ rfl
    · rintro before value after rfl ⟨⟩ busy
      have same := noted value
      rw [busy, Bool.not_true, Bool.or_false] at same
      exact ⟨same, same⟩
    · rintro before value after rfl ⟨⟩ free
      have seen := noted value
      rw [free, Bool.not_false, Bool.or_true] at seen
      exact seen
  refine polled.bind ?_
  rintro ready after rfl
  cases ready with
  | true => exact Or.inl ⟨rfl, rfl⟩
  | false => exact Or.inr ⟨⟨.timeout, rfl⟩, rfl⟩

/-- What a flow adds to the log, if it is completed and if it is not. -/
def flowEnd (reason : McuResetReason) (completed : Bool) : List Char :=
  startLine reason ++ if completed then completionLines reason else []

/-- From the line for the reset reason on. -/
def EndsLog (reason : McuResetReason) (before after : Shown) : Prop :=
  ∃ report completed, (logEnds reason).lookup report = some completed ∧
    after.text = before.text ++ (line (bootMessage reason) ++ report) ∧
    after.inputs = before.inputs ∧
    (completed = true ↔ reason ≠ .invalid ∧ (reason = .coldBoot → after.free = true))

/-- A flow that is completed without waiting for the mailbox. -/
theorem endsLog_completed {reason : McuResetReason} (known : reason ≠ .invalid)
    (warm : reason ≠ .coldBoot)
    (listed : (logEnds reason).lookup (flowEnd reason true) = some true) :
    EndsLog reason shown ((shown.say (line (bootMessage reason))).say (flowEnd reason true)) := by
  refine ⟨flowEnd reason true, true, listed, ?_, rfl, ?_⟩
  · rw [Shown.say_say]
    rfl
  · exact iff_of_true rfl ⟨known, fun cold => absurd cold warm⟩

section Flows

variable {gWriter : Option Writer} (installed : gWriter = some .emulator)

include installed

/-- The transfer prints its two lines whatever happens. -/
theorem adds_deviceOwnershipTransfer :
    (ColdBoot.deviceOwnershipTransfer gWriter romEnv).Obeys (.recording Shown.note)
      (fun result noted => result = .ok () ∧
        noted = shown.say (line "[ROM] Device ownership transfer started" ++
          line "[ROM] Device ownership transfer complete")) shown := by
  refine Adds.bind (adds_checkpoint shown _) fun () => ?_
  refine Adds.bind (adds_println shown installed (by decide)) fun () => ?_
  refine passes rfl (Adds.bind (adds_checkpoint _ _) fun () => ?_)
  refine passes rfl (Adds.bind (adds_checkpoint _ _) fun () => ?_)
  refine passes rfl (Adds.bind (adds_checkpoint _ _) fun () => ?_)
  refine Adds.bind (adds_println _ installed (by decide)) fun () => ?_
  exact ⟨rfl, Shown.say_say ..⟩

/-- A cold boot is completed if it sees the mailbox free. -/
theorem shows_coldBoot :
    (ColdBoot.execute gWriter romEnv).Obeys (.recording Shown.note)
      (fun _ noted => ∃ completed, noted = { shown.say (flowEnd .coldBoot completed) with
        free := shown.free || completed }) shown := by
  have stopped : shown.say (startLine .coldBoot) =
      { shown.say (flowEnd .coldBoot false) with free := shown.free || false } := by
    rw [Bool.or_false, flowEnd, if_neg Bool.false_ne_true, List.append_nil]
    rfl
  refine Adds.bind (adds_checkpoint shown _) fun () => ?_
  refine Adds.bind (adds_milestone _ _) fun () => ?_
  refine Adds.bind (adds_println _ installed (by decide)) fun () => ?_
  refine passes rfl (Adds.bind (adds_checkpoint _ _) fun () => ?_)
  refine passes rfl (Adds.bind (adds_checkpoint _ _) fun () => ?_)
  refine Adds.bind (adds_initPeripherals _) fun peripherals => ?_
  cases peripherals with
  | error e => exact ⟨false, stopped⟩
  | ok value =>
      refine Adds.bind (adds_checkpoint _ _) fun () => ?_
      refine Adds.bind (adds_configureCaliptra _) fun go => ?_
      cases go with
      | error e => exact ⟨false, stopped⟩
      | ok value =>
          refine Adds.bind (adds_milestone _ _) fun () => ?_
          refine Adds.bind (adds_checkpoint _ _) fun () => ?_
          refine passes rfl (Adds.bind (adds_milestone _ _) fun () => ?_)
          refine Adds.bind (adds_checkpoint _ _) fun () => ?_
          refine Program.Obeys.bind (shows_waitCaliptraReady _) ?_
          rintro ready noted (⟨rfl, rfl⟩ | ⟨⟨e, rfl⟩, rfl⟩)
          · refine Adds.bind (adds_checkpoint _ _) fun () => ?_
            refine Program.Obeys.bind (adds_deviceOwnershipTransfer _ installed) ?_
            rintro transferred noted ⟨rfl, rfl⟩
            refine Adds.bind (adds_checkpoint _ _) fun () => ?_
            refine passes rfl (Adds.bind (adds_milestone _ _) fun () => ?_)
            refine Adds.bind (adds_checkpoint _ _) fun () => ?_
            refine Adds.bind (adds_println _ installed (by decide)) fun () => ?_
            refine ⟨true, ?_⟩
            ext1
            · simp only [Shown.say, flowEnd, startLine, completionLines, List.append_assoc, if_true]
            · rfl
            · exact (Bool.or_true shown.free).symm
          · exact ⟨false, stopped⟩

/-- The other flows are always completed. -/
theorem shows_warmBoot :
    (WarmBoot.execute gWriter romEnv).Obeys (.recording Shown.note)
      (fun _ noted => noted = shown.say (flowEnd .warmReset true)) shown := by
  refine Adds.bind (adds_checkpoint shown _) fun () => ?_
  refine Adds.bind (adds_println shown installed (by decide)) fun () => ?_
  refine passes rfl (passes rfl (passes rfl (Adds.bind (adds_milestone _ _) fun () => ?_)))
  refine Adds.bind (adds_checkpoint _ _) fun () => ?_
  refine Adds.bind (adds_println _ installed (by decide)) fun () => ?_
  exact Shown.say_say ..

theorem shows_fwBoot :
    (FwBoot.execute gWriter romEnv).Obeys (.recording Shown.note)
      (fun _ noted => noted = shown.say (flowEnd .firmwareBootReset true)) shown := by
  refine Adds.bind (adds_checkpoint shown _) fun () => ?_
  refine Adds.bind (adds_println shown installed (by decide)) fun () => ?_
  refine passes rfl (Adds.bind (adds_checkpoint _ _) fun () => ?_)
  refine Adds.bind (adds_milestone _ _) fun () => ?_
  refine Adds.bind (adds_checkpoint _ _) fun () => ?_
  refine Adds.bind (adds_println _ installed (by decide)) fun () => ?_
  exact Shown.say_say ..

theorem shows_fwHitlessUpdate :
    (FwHitlessUpdate.execute gWriter romEnv).Obeys (.recording Shown.note)
      (fun _ noted => noted = shown.say (flowEnd .firmwareHitlessUpdate true)) shown := by
  refine Adds.bind (adds_checkpoint shown _) fun () => ?_
  refine Adds.bind (adds_println shown installed (by decide)) fun () => ?_
  refine passes rfl (passes rfl (passes rfl (Adds.bind (adds_checkpoint _ _) fun () => ?_)))
  refine Adds.bind (adds_println _ installed (by decide)) fun () => ?_
  exact Shown.say_say ..

/-! ## The whole boot -/

theorem adds_fatalError (code : Word) :
    Adds (RomFatalErrorHandler.fatalError gWriter code) shown (shown.say (fatalLine code)) := by
  have fatal : Shown.Hidden handlerMciFatal := by unfold Shown.Hidden; decide
  have exit : Shown.Hidden emuExit := by unfold Shown.Hidden; decide
  refine Adds.bind (adds_print shown installed (by decide)) fun () => ?_
  refine Adds.bind (adds_hexWord _ installed _) fun () => ?_
  refine Adds.bind (adds_println _ installed (by decide)) fun () => ?_
  refine Adds.bind (adds_hidden _ ⟨fatal, trivial⟩) fun () => ?_
  refine Adds.bind (adds_hidden _ ⟨exit, trivial⟩) fun () => ?_
  have whole : ((shown.say "[mcu-rom] FATAL ERROR: 0x".toList).say (hexWordDigits code)).say
      (line "") = shown.say (fatalLine code) := by
    rw [Shown.say_say, Shown.say_say]
    rfl
  exact whole

/-- A boot that is rejected, with and without a handler. -/
theorem shows_fatalError (handler : Option FatalErrorHandler) (error : McuError) :
    (fatalError ⟨gWriter, handler⟩ error).Obeys (.recording Shown.note)
      (fun _ noted => noted = shown ∨ noted = shown.say (fatalLine error.code)) shown := by
  cases handler with
  | none =>
      have fatal : Shown.Hidden (romEnv.mci.reg Mci.regFwErrorFatal) := by
        unfold Shown.Hidden
        decide
      exact Adds.bind (adds_hidden shown ⟨fatal, trivial⟩) fun () => Or.inl rfl
  | some handler =>
      cases handler
      exact (adds_fatalError shown installed error.code).mono fun _ _ same => Or.inr same

theorem shows_romDispatch (fresh : shown.free = false) (handler : Option FatalErrorHandler)
    (reason : McuResetReason) :
    (romDispatch ⟨gWriter, handler⟩ romEnv reason).Obeys (.recording Shown.note)
      (fun _ noted => EndsLog reason shown noted) shown := by
  cases reason with
  | coldBoot =>
      refine Adds.bind (adds_println shown installed (by decide)) fun () => ?_
      refine Program.Obeys.bind (shows_coldBoot _ installed) ?_
      rintro result noted ⟨completed, rfl⟩
      refine ⟨flowEnd .coldBoot completed, completed, ?_, ?_, rfl, ?_⟩
      · cases completed <;> rfl
      · exact List.append_assoc ..
      · change completed = true ↔ _ ∧ (_ → (shown.free || completed) = true)
        rw [fresh, Bool.false_or]
        exact ⟨fun done => ⟨by decide, fun _ => done⟩, fun known => known.2 rfl⟩
  | warmReset =>
      refine Adds.bind (adds_println shown installed (by decide)) fun () => ?_
      refine Program.Obeys.bind (shows_warmBoot _ installed) ?_
      rintro result noted rfl
      exact endsLog_completed shown (by decide) (by decide) rfl
  | firmwareBootReset =>
      refine Adds.bind (adds_println shown installed (by decide)) fun () => ?_
      refine Program.Obeys.bind (shows_fwBoot _ installed) ?_
      rintro result noted rfl
      exact endsLog_completed shown (by decide) (by decide) rfl
  | firmwareHitlessUpdate =>
      refine Adds.bind (adds_println shown installed (by decide)) fun () => ?_
      refine Program.Obeys.bind (shows_fwHitlessUpdate _ installed) ?_
      rintro result noted rfl
      exact endsLog_completed shown (by decide) (by decide) rfl
  | invalid =>
      refine Adds.bind (adds_println shown installed (by decide)) fun () => ?_
      refine (shows_fatalError _ installed handler _).mono ?_
      rintro _ noted (rfl | rfl)
      · refine ⟨[], false, rfl, ?_, rfl, ?_⟩
        · rw [List.append_nil]
          rfl
        · exact iff_of_false Bool.false_ne_true fun known => known.1 rfl
      · refine ⟨fatalLine McuError.bootInvalidResetReason.code, false, rfl, ?_, rfl, ?_⟩
        · exact List.append_assoc ..
        · exact iff_of_false Bool.false_ne_true fun known => known.1 rfl

/-! ## The head of the log -/

omit installed in
theorem takes_lifecycle :
    romEnv.mci.deviceLifecycleState.Obeys (.recording Shown.note)
      (fun lifecycle noted => ∃ value, lifecycle = Mci.decodeLifecycle value ∧
        noted = shown.take (romEnv.mci.reg Mci.regSecurityState) value) shown := by
  refine Program.Obeys.bind (reads_input shown (by decide) (by decide)) ?_
  rintro value noted rfl
  exact ⟨value, rfl, rfl⟩

omit installed in
theorem takes_resetReason :
    romEnv.mci.resetReasonEnum.Obeys (.recording Shown.note)
      (fun reason noted => ∃ value, reason = Mci.decodeResetReason value ∧
        noted = shown.take (romEnv.mci.reg Mci.regResetReason) value) shown := by
  refine Program.Obeys.bind (reads_input shown (by decide) (by decide)) ?_
  rintro value noted rfl
  exact ⟨value, rfl, rfl⟩

theorem adds_lifecycleLine (lifecycle : DeviceLifecycleState) :
    Adds (println gWriter (lifecycleName lifecycle)) shown
      (shown.say (line (lifecycleName lifecycle))) := by
  apply adds_println shown installed
  cases lifecycle <;> decide

omit installed in
theorem takes_wires {index : SizeT} (bounded : ¬ 2 ≤ index)
    (listed : romEnv.mci.reg (0x400 + index * 4) ∈ inputRegisters)
    (other : romEnv.mci.reg (0x400 + index * 4) ≠ mboxStatusReg) :
    (romEnv.mci.genericInputWires index).Obeys (.recording Shown.note)
      (fun wires noted => noted = shown.take (romEnv.mci.reg (0x400 + index * 4)) wires) shown := by
  unfold Mci.genericInputWires
  rw [if_neg bounded]
  exact reads_input shown listed other

/-- A word at the end of a line. -/
theorem adds_wordEnd (value : Word) {rest : Driver β} {post : β → Shown → Prop}
    (onwards : rest.Obeys (.recording Shown.note) post
      (shown.say (hexWordDigits value ++ ['\n']))) :
    (do hexWordPrintTo value gWriter
        println gWriter ""
        rest).Obeys (.recording Shown.note) post shown := by
  refine Adds.bind (adds_hexWord shown installed value) fun () => ?_
  refine Adds.bind (adds_println _ installed (by decide)) fun () => ?_
  rw [Shown.say_say]
  exact onwards

omit installed in
/-- What is printed before the line for the reset reason. -/
def logStart (lifecycle : DeviceLifecycleState) (wires0 wires1 resetReason : Word) : List Char :=
  line "[mcu-rom] Hello from CPP ROM" ++ ("[mcu-rom] Device lifecycle: ".toList ++
    (line (lifecycleName lifecycle) ++
      ("[mcu-rom] MCI generic input wires[0]: ".toList ++ (hexWordDigits wires0 ++ (['\n'] ++
        ("[mcu-rom] MCI generic input wires[1]: ".toList ++ (hexWordDigits wires1 ++ (['\n'] ++
          ("[mcu-rom] MCI RESET_REASON: 0x".toList ++ (hexWordDigits resetReason ++
            ['\n']))))))))))

theorem shows_romPrologue :
    (romPrologue gWriter romEnv).Obeys (.recording Shown.note)
      (fun reason noted => ∃ security wires0 wires1 resetReason second,
        noted.text = shown.text ++
          logStart (Mci.decodeLifecycle security) wires0 wires1 resetReason ∧
        noted.inputs = shown.inputs ++
          [(romEnv.mci.reg Mci.regSecurityState, security), (romEnv.mci.reg 0x400, wires0),
            (romEnv.mci.reg 0x404, wires1), (romEnv.mci.reg Mci.regResetReason, resetReason),
            (romEnv.mci.reg Mci.regResetReason, second)] ∧
        noted.free = shown.free ∧ reason = Mci.decodeResetReason second) shown := by
  refine Adds.bind (adds_println shown installed (by decide)) fun () => ?_
  refine Adds.bind (adds_milestone _ _) fun () => ?_
  refine Adds.bind (adds_print _ installed (by decide)) fun () => ?_
  refine Program.Obeys.bind (takes_lifecycle _) ?_
  rintro lifecycle noted ⟨security, rfl, rfl⟩
  refine Adds.bind (adds_lifecycleLine _ installed _) fun () => ?_
  refine Adds.bind (adds_print _ installed (by decide)) fun () => ?_
  refine Program.Obeys.bind (takes_wires _ (by decide) (by decide) (by decide)) ?_
  rintro wires0 noted rfl
  refine adds_wordEnd _ installed wires0 ?_
  refine Adds.bind (adds_print _ installed (by decide)) fun () => ?_
  refine Program.Obeys.bind (takes_wires _ (by decide) (by decide) (by decide)) ?_
  rintro wires1 noted rfl
  refine adds_wordEnd _ installed wires1 ?_
  refine Program.Obeys.bind (reads_input _ (by decide) (by decide)) ?_
  rintro resetReason noted rfl
  refine Adds.bind (adds_print _ installed (by decide)) fun () => ?_
  refine adds_wordEnd _ installed resetReason ?_
  refine (takes_resetReason _).mono ?_
  rintro reason noted ⟨second, rfl, rfl⟩
  refine ⟨security, wires0, wires1, resetReason, second, ?_, ?_, rfl, rfl⟩
  · simp only [Shown.say, Shown.take, logStart, List.append_assoc]
  · simp only [Shown.say, Shown.take, List.append_assoc]
    rfl

end Flows

/-! ## Reading it back -/

theorem reads_lifecycleLine (lifecycle : DeviceLifecycleState) :
    (Reader.oneOf lifecycleLines).Reads (line (lifecycleName lifecycle)) lifecycle := by
  apply Reader.reads_oneOf (by decide)
  exact List.mem_map_of_mem (by cases lifecycle <;> decide)

theorem reads_reasonLine (reason : McuResetReason) :
    (Reader.oneOf reasonLines).Reads (line (bootMessage reason)) reason := by
  apply Reader.reads_oneOf (by decide)
  exact List.mem_map_of_mem (by cases reason <;> decide)

theorem reads_logHead (lifecycle : DeviceLifecycleState) (wires0 wires1 resetReason : Word)
    (reason : McuResetReason) :
    readLogHead.Reads
      (logStart lifecycle wires0 wires1 resetReason ++ line (bootMessage reason))
      fun completed => ⟨lifecycle, wires0, wires1, resetReason, reason, completed⟩ := by
  unfold logStart
  simp only [List.append_assoc]
  refine Reader.Reads.bind (Reader.reads_literal _) ?_
  refine Reader.Reads.bind (Reader.reads_literal _) ?_
  refine Reader.Reads.bind (reads_lifecycleLine lifecycle) ?_
  refine Reader.Reads.bind (Reader.reads_literal _) ?_
  refine Reader.Reads.bind (reads_hexWord wires0) ?_
  refine Reader.Reads.bind (Reader.reads_literal _) ?_
  refine Reader.Reads.bind (Reader.reads_literal _) ?_
  refine Reader.Reads.bind (reads_hexWord wires1) ?_
  refine Reader.Reads.bind (Reader.reads_literal _) ?_
  refine Reader.Reads.bind (Reader.reads_literal _) ?_
  refine Reader.Reads.bind (reads_hexWord resetReason) ?_
  refine Reader.Reads.bind (Reader.reads_literal _) ?_
  exact (reads_reasonLine reason).last

/-- The notes of a boot that starts with none. -/
theorem shows_romStart (handler : Option FatalErrorHandler) :
    (romStart ⟨some .emulator, handler⟩).Obeys (.recording Shown.note)
      (fun _ noted => ∃ log, readBootLog noted.text = some log ∧
        (∃ security second, noted.inputs =
          [(romEnv.mci.reg Mci.regSecurityState, security), (romEnv.mci.reg 0x400, log.wires0),
            (romEnv.mci.reg 0x404, log.wires1),
            (romEnv.mci.reg Mci.regResetReason, log.resetReason),
            (romEnv.mci.reg Mci.regResetReason, second)] ∧
          log.lifecycle = Mci.decodeLifecycle security ∧
          log.reason = Mci.decodeResetReason second) ∧
        (log.completed = true ↔ log.reason ≠ .invalid ∧
          (log.reason = .coldBoot → noted.free = true))) Shown.nothing := by
  refine Program.Obeys.bind (shows_romPrologue _ rfl) ?_
  rintro reason noted ⟨security, wires0, wires1, resetReason, second, text, inputs, free, rfl⟩
  refine (shows_romDispatch noted rfl free handler _).mono ?_
  rintro _ final ⟨report, completed, listed, ending, kept, done⟩
  refine ⟨⟨_, wires0, wires1, resetReason, _, completed⟩, ?_, ⟨security, second, ?_, rfl, rfl⟩, done⟩
  · have head := reads_logHead (Mci.decodeLifecycle security) wires0 wires1 resetReason
      (Mci.decodeResetReason second) report
    rw [readBootLog, ending, text, Shown.nothing, List.nil_append, ← List.append_assoc, head,
      Option.bind_some, listed]
    rfl
  · rw [kept, inputs]
    rfl

end BootLog

/-- Whatever the hardware answers, the console output is a log that tells what
the boot has read and whether its flow has been completed. -/
theorem romStart_log {σ : Type} (handler : Option FatalErrorHandler) (dev : Device Word Word σ)
    (state : σ) :
    ∃ log, readBootLog
        (consoleText ((romStart ⟨some .emulator, handler⟩).run dev state).trace) = some log ∧
      log.Explains ((romStart ⟨some .emulator, handler⟩).run dev state).trace := by
  have recorded := (BootLog.shows_romStart handler).recorded dev state
  generalize ((romStart ⟨some .emulator, handler⟩).run dev state).trace = trace at recorded ⊢
  rw [Shown.foldl_note] at recorded
  rcases recorded with ⟨log, read, inputs, completed⟩
  exact ⟨log, read, inputs, completed⟩

end McuRom
