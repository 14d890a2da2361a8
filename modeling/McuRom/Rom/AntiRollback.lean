import McuRom.Rom.OtpDiscipline
import McuRom.Rom.Soc
import McuRom.Mmio.Registers

namespace McuRom

open Mmio

/-!
# The anti-rollback fuse

`populate_fuses` copies the manifest SVN from OTP into a fuse register, if the
OTP word can be read.  If it cannot, the copy is left out and nothing else
happens: the function returns as it does after a copy, with the register at
its old value.

Every stream of STATUS and data words is a script, so what follows holds for
every OTP behaviour.
-/

namespace Otp

variable (otp : Otp)

/-- The words of a stream behind the first `count`. -/
def later (stream : Nat → Word) (count : Nat) : Nat → Word := fun index => stream (count + index)

/-- The STATUS words under which a word is read: idle within the budget,
idle again within the budget after the command, and then no error. -/
def Readable (status : Nat → Word) : Prop :=
  ∃ first < idleBudget, ReadyAt statusNotIdle status first ∧
    ∃ second < idleBudget, ReadyAt statusNotIdle (later status (first + 1)) second ∧
      statusHasError (later status (first + 1) (second + 1)) = false

variable (script : Word → Nat → Word)

theorem idleAt_scripted (count : Nat) :
    otp.IdleAt Device.scripted script count ↔
      count < idleBudget ∧ ReadyAt statusNotIdle (script (otp.reg regStatus)) count := by
  have replies : Device.scripted.replies (otp.reg regStatus) script = script (otp.reg regStatus) :=
    funext fun index => Device.scripted_replies script _ index
  rw [IdleAt, replies]

/-- On a script, a command is followed by the words behind the wait. -/
theorem commanded_scripted (list : List (Word × Word)) (first : Nat) :
    otp.commanded Device.scripted list script first =
      Device.advance script (otp.reg regStatus) (first + 1) := by
  rw [commanded, Device.scripted_writeAll, afterWait, Device.scripted_afterReads]

/-- A read succeeds exactly under those words, and delivers the first data
word. -/
theorem readWord_ok_iff (addr value : Word) :
    ((otp.readWord addr).run Device.scripted script).result = .ok value ↔
      Readable (script (otp.reg regStatus)) ∧ value = script (otp.reg regDirectAccessRdata0) 0 := by
  let next := fun first => Device.advance script (otp.reg regStatus) (first + 1)
  have again : ∀ first second, otp.IdleAt Device.scripted (next first) second ↔
      second < idleBudget ∧
        ReadyAt statusNotIdle (later (script (otp.reg regStatus)) (first + 1)) second := by
    intro first second
    rw [idleAt_scripted]
    simp only [next, Device.advance, Function.update_self]
    rfl
  have status : ∀ first second, otp.finalStatus Device.scripted (next first) second =
      later (script (otp.reg regStatus)) (first + 1) (second + 1) := by
    intro first second
    rw [finalStatus, Device.scripted_replies]
    exact Device.advance_self _ _ _ _
  have data : ∀ first second, (otp.readData.run Device.scripted
      (otp.afterWait Device.scripted (next first) (second + 2))).result =
      .ok (script (otp.reg regDirectAccessRdata0) 0) := by
    intro first second
    have other : otp.reg regDirectAccessRdata0 ≠ otp.reg regStatus := reg_ne (by decide)
    rw [otp.run_readData, afterWait, Device.scripted_afterReads, Device.scripted_read]
    simp only [next, Device.advance_of_ne _ other]
  rw [otp.readWord_eq, otp.transfer_ok_iff]
  simp only [commanded_scripted]
  constructor
  · rintro ⟨first, second, idle, ready, good, delivered⟩
    have start := (otp.idleAt_scripted script first).mp idle
    have stop := (again first second).mp ready
    rw [status] at good
    exact ⟨⟨first, start.1, start.2, second, stop.1, stop.2, good⟩,
      (Except.ok.inj ((data first second).symm.trans delivered)).symm⟩
  · rintro ⟨⟨first, bound, started, second, limit, ended, good⟩, rfl⟩
    exact ⟨first, second, (otp.idleAt_scripted script first).mpr ⟨bound, started⟩,
      (again first second).mpr ⟨limit, ended⟩, (congrArg statusHasError (status first second)).trans good,
      data first second⟩

/-- A read writes no register but its address and its command. -/
theorem untouched_readWord {σ : Type} (dev : Device Word Word σ) (state : σ) (addr : Word)
    {reg : Word} (notAddress : otp.reg regDirectAccessAddr ≠ reg)
    (notCommand : otp.reg regDirectAccessCmd ≠ reg) :
    Access.Untouched reg ((otp.readWord addr).run dev state).trace := by
  have waits : ∀ count, Access.Untouched reg (otp.waitTrace dev state count) := by
    intro count
    apply Access.untouched_reads
    intro access member
    rcases mem_pollTrace.mp member with ⟨index, _, equal⟩
    exact ⟨_, _, equal⟩
  rw [otp.readWord_eq]
  rcases otp.neverIdle_or_idleAt dev state with busy | ⟨first, idle⟩
  · rw [otp.run_transfer_notIdle dev _ _ _ busy]
    exact waits _
  · rcases otp.transfer_trace dev (otp.readWrites addr) .otpReadError _ idle
      (otp.readData_reads dev) with ⟨after, equal, reads⟩
    rw [equal]
    refine ((waits _).append (Access.untouched_ofWrites ?_)).append (Access.untouched_reads reads)
    intro entry member
    simp only [readWrites, List.mem_cons, List.not_mem_nil, or_false] at member
    rcases member with rfl | rfl
    · exact notAddress
    · exact notCommand

end Otp

namespace Soc

variable (soc : Soc) (gWriter : Option Writer) (otp : Otp)

/-- The register writes in front of the SVN. -/
def fixedWrites : List (Word × Word) :=
  uartWrites gWriter ("[mcu-fuse-write] Setting UDS/FE base address".toList ++ ['\n']) ++
  ([(soc.reg ssUdsSeedBaseAddrL, secretManufOffset), (soc.reg ssUdsSeedBaseAddrH, 0)] ++
  (uartWrites gWriter
    ("[mcu-fuse-write] Setting DAI idle bit offset and direct access cmd reg offset".toList ++
      ['\n']) ++
  ([(soc.reg ssStrapGenericBase, otpDaiIdleBitOffset <<< 16),
      (soc.reg (ssStrapGenericBase + 4), otpDirectAccessCmdRegOffset),
      (soc.reg fusePqcKeyType, mldsaCaliptraValue.setWidth 32)] ++
  uartWrites gWriter ("[mcu-fuse-write] Setting vendor PQC type".toList ++ ['\n']))))

/-- The copy of the SVN. -/
def copySvn : Driver Unit :=
  otp.readWord 0 >>= fun svnResult =>
    match svnResult with
    | .ok svn => soc.writeReg fuseFmcKeyManifestSvn svn
    | .error _ => pure ()

theorem populateFuses_eq (mci : Mci) :
    soc.populateFuses gWriter otp mci =
      (Program.writeAll (soc.fixedWrites gWriter) >>= fun () => soc.copySvn otp) := by
  simp only [populateFuses, println_eq, fixedWrites, Program.writeAll_append, bind_assoc]
  rfl

/-! ## The register after the copy -/

/-- The SoC interface of the memory map. -/
def mapped : Soc := ⟨gMcuMemoryMap.socOffset⟩

/-- FUSE_FMC_KEY_MANIFEST_SVN. -/
def svnReg : Word := mapped.reg fuseFmcKeyManifestSvn

variable (mci : Mci) (script : Word → Nat → Word)

/-- The accesses of `populate_fuses` against an OTP script. -/
def fuseTrace : List (Access Word Word) :=
  ((mapped.populateFuses gWriter romEnv.otp mci).run Device.scripted script).trace

/-- The result of the one OTP read in it. -/
def svnRead : McuResult Word := ((romEnv.otp.readWord 0).run Device.scripted script).result

/-- `populate_fuses` cannot report a failure: every run of it returns.  So it
keeps its promise only if the SVN was read, and stands in the register. -/
def SvnHandedOver (held : Word) : Prop :=
  ∃ svn, svnRead script = .ok svn ∧
    Access.lastWrite svnReg held (fuseTrace gWriter mci script) = svn

variable {gWriter mci script}

theorem untouched_fixedWrites :
    Access.Untouched svnReg (Access.ofWrites (mapped.fixedWrites gWriter)) := by
  apply Access.untouched_ofWrites
  intro entry member
  have uart : uartTx ≠ svnReg := by decide
  simp only [fixedWrites, List.mem_append, List.mem_cons, List.not_mem_nil, or_false] at member
  rcases member with console | (rfl | rfl) | console | (rfl | rfl | rfl) | console
  · exact addr_of_mem_uartWrites console ▸ uart
  · exact show mapped.reg ssUdsSeedBaseAddrL ≠ svnReg by decide
  · exact show mapped.reg ssUdsSeedBaseAddrH ≠ svnReg by decide
  · exact addr_of_mem_uartWrites console ▸ uart
  · exact show mapped.reg ssStrapGenericBase ≠ svnReg by decide
  · exact show mapped.reg (ssStrapGenericBase + 4) ≠ svnReg by decide
  · exact show mapped.reg fusePqcKeyType ≠ svnReg by decide
  · exact addr_of_mem_uartWrites console ▸ uart

/-- After a read that succeeds the register holds the word. -/
theorem lastWrite_fuseTrace_ok {svn : Word} (loaded : svnRead script = .ok svn) (held : Word) :
    Access.lastWrite svnReg held (fuseTrace gWriter mci script) = svn := by
  rw [svnRead] at loaded
  rw [fuseTrace, populateFuses_eq, Program.run_bind, Program.run_writeAll,
    Device.scripted_writeAll, copySvn, Program.run_bind, loaded]
  simp only [Run.after_trace, ← List.append_assoc]
  exact Access.lastWrite_write svn (fun _ impossible => by cases impossible) held

/-- After a read that fails it keeps what it held. -/
theorem lastWrite_fuseTrace_error {e : McuError} (failed : svnRead script = .error e)
    (held : Word) : Access.lastWrite svnReg held (fuseTrace gWriter mci script) = held := by
  rw [svnRead] at failed
  rw [fuseTrace, populateFuses_eq, Program.run_bind, Program.run_writeAll,
    Device.scripted_writeAll, copySvn, Program.run_bind, failed]
  simp only [Run.after_trace]
  apply Access.lastWrite_untouched
  apply untouched_fixedWrites.append
  refine (romEnv.otp.untouched_readWord Device.scripted script 0 ?_ ?_).append ?_
  · decide
  · decide
  · intro value impossible
    cases impossible

variable (gWriter mci script)

/-- The SVN is handed over exactly when the STATUS words let it be read. -/
theorem svnHandedOver_iff_readable (held : Word) :
    SvnHandedOver gWriter mci script held ↔
      Otp.Readable (script (romEnv.otp.reg Otp.regStatus)) := by
  constructor
  · rintro ⟨svn, loaded, _⟩
    exact ((romEnv.otp.readWord_ok_iff script 0 svn).mp loaded).1
  · intro readable
    have loaded := (romEnv.otp.readWord_ok_iff script 0 _).mpr ⟨readable, rfl⟩
    exact ⟨_, loaded, lastWrite_fuseTrace_ok loaded held⟩

/-- With the error bit set the SVN of the OTP is lost: the register keeps the
old value, and the function returns. -/
theorem populateFuses_skips_svn :
    ¬ SvnHandedOver none romEnv.mci (fun _ _ => 0x03) 0 ∧
      Access.lastWrite svnReg 0 (fuseTrace none romEnv.mci fun _ _ => 0x03) = 0 := by
  have failed : ∀ svn, svnRead (fun _ _ => 0x03) ≠ .ok svn := by
    intro svn loaded
    rcases ((romEnv.otp.readWord_ok_iff _ 0 svn).mp loaded).1 with
      ⟨first, _, _, second, _, _, good⟩
    have clear : Otp.statusHasError 0x03 = false := good
    exact absurd clear (by decide)
  constructor
  · rintro ⟨svn, loaded, _⟩
    exact failed svn loaded
  · cases read : svnRead (fun _ _ => 0x03) with
    | error e => exact lastWrite_fuseTrace_error read 0
    | ok svn => exact absurd read (failed svn)

end Soc

end McuRom
