import McuRom.Mmio.Frame
import McuRom.Rom.Hardware
import McuRom.Rom.OtpController
import McuRom.Rom.Verification

namespace McuRom

open Mmio

/-!
# The production debug unlock check

The check compares 96 words of OTP with the public key hash registers of MCI,
if the driver says that MCI has 96 of them.  It says 12, so the check fails
before it looks at anything, on every device and on a correctly provisioned
one as well.
-/

/-- MCI as a register file, and an OTP controller. -/
def provisionedBus : Device Word Word ((Word → Word) × OtpController) :=
  Device.route isMci Device.storage (OtpController.device romEnv.otp)

/-! ## What the check is about -/

/-- MCI's hash word with the given index. -/
def mciHashWord (regs : Word → Word) (index : Nat) : Word :=
  regs (romEnv.mci.reg (Mci.regProdDebugUnlockPkHashBase + sizeT index * 4))

/-- All 96 words agree between OTP and MCI. -/
def HashesMatch (regs words : Word → Word) : Prop :=
  ∀ hashIdx < 8, ∀ wordIdx < 12,
    words (hashWordAddr hashIdx wordIdx) = mciHashWord regs (hashIdx * 12 + wordIdx)

/-- The OTP reads of the nested loops on their own. -/
def readHashWords (otp : Otp) : List (Nat × Nat) → Driver (McuResult (List Word))
  | [] => pure (.ok [])
  | (hashIdx, wordIdx) :: rest =>
    Driver.andThen (otp.readWord (hashWordAddr hashIdx wordIdx)) fun word =>
    Driver.andThen (readHashWords otp rest) fun words =>
    pure (.ok (word :: words))

/-- A controller on which all 96 reads succeed. -/
def ReadsSucceed (otp : OtpController) : Prop :=
  ∃ words, ((readHashWords romEnv.otp hashWordIndices).run (OtpController.device romEnv.otp)
    otp).result = .ok words

/-- The check is exact: on a controller whose reads succeed it returns `Ok`
exactly if all words agree, and otherwise it returns an error. -/
structure HashCheckExact (gWriter : Option Writer) (regs : Word → Word) (otp : OtpController) :
    Prop where
  decides : ReadsSucceed otp →
    (((verifyProdDebugUnlockPkHash gWriter romEnv.mci romEnv.otp).run provisionedBus
      (regs, otp)).result = .ok () ↔ HashesMatch regs otp.settled.words)
  reports : ¬ ReadsSucceed otp →
    ∃ e, ((verifyProdDebugUnlockPkHash gWriter romEnv.mci romEnv.otp).run provisionedBus
      (regs, otp)).result = .error e

/-! ## The length check -/

variable (gWriter : Option Writer) (regs : Word → Word) (otp : OtpController)

/-- The driver's length is not the expected one, whatever the device. -/
theorem run_verifyProdDebugUnlockPkHash {σ : Type} (dev : Device Word Word σ) (state : σ) :
    ((verifyProdDebugUnlockPkHash gWriter romEnv.mci romEnv.otp).run dev state).result =
      .error .otpReadError := by
  have differs : Mci.prodDebugUnlockPkHashLen ≠ pkHashExpectedLen := by decide
  rw [verifyProdDebugUnlockPkHash, if_pos differs, Program.run_bind]
  rfl

/-- The check is exact on every device but those it should let pass. -/
theorem hashCheckExact_iff :
    HashCheckExact gWriter regs otp ↔
      ¬ (ReadsSucceed otp ∧ HashesMatch regs otp.settled.words) := by
  have failed := run_verifyProdDebugUnlockPkHash gWriter provisionedBus (regs, otp)
  constructor
  · rintro exact ⟨reads, same⟩
    have passed := (exact.decides reads).mpr same
    rw [failed] at passed
    cases passed
  · intro blocked
    refine ⟨fun reads => ⟨fun passed => ?_, fun same => absurd ⟨reads, same⟩ blocked⟩,
      fun _ => ⟨_, failed⟩⟩
    rw [failed] at passed
    cases passed

/-! ## Behind the length check

The loops do not compare 96 words either.  The driver has the first twelve
registers only, and the other 84 OTP words are compared with zero.
-/

/-- MCI's hash word as the loops get it. -/
def seenHashWord (regs : Word → Word) (index : Nat) : Word :=
  if index < Mci.pkHashRegCount then mciHashWord regs index else 0

theorem seenHashWord_first {wordIdx : Nat} (bound : wordIdx < 12) :
    seenHashWord regs (0 * 12 + wordIdx) = mciHashWord regs wordIdx := by
  rw [Nat.zero_mul, Nat.zero_add]
  exact if_pos bound

theorem seenHashWord_other (hashIdx wordIdx : Nat) :
    seenHashWord regs ((hashIdx + 1) * 12 + wordIdx) = 0 := by
  have missing : ¬ (hashIdx + 1) * 12 + wordIdx < Mci.pkHashRegCount := by
    rw [Mci.pkHashRegCount]
    omega
  exact if_neg missing

theorem sizeT_hashIndex (hashIdx wordIdx : Nat) :
    sizeT hashIdx * 12 + sizeT wordIdx = sizeT (hashIdx * 12 + wordIdx) := by
  rw [sizeT, sizeT, sizeT, BitVec.ofNat_add, BitVec.ofNat_mul]
  rfl

theorem mem_hashWordIndices {entry : Nat × Nat} :
    entry ∈ hashWordIndices ↔ entry.1 < 8 ∧ entry.2 < 12 := by
  rcases entry with ⟨hashIdx, wordIdx⟩
  simp [hashWordIndices]

/-- OTP reads stay outside MCI. -/
theorem within_readWord (addr : Word) :
    (romEnv.otp.readWord addr).Within fun addr => isMci addr = false := by
  have wait : (romEnv.otp.waitForIdle Otp.defaultTimeoutCycles).Within
      fun addr => isMci addr = false := by
    apply (Program.within_pollWhile (by decide) _ _).bind
    intro idle
    cases idle <;> trivial
  have rest : ∀ failed : Bool, (if failed then pure (.error .otpReadError) else romEnv.otp.readData :
      Driver (McuResult Word)).Within fun addr => isMci addr = false := by
    intro failed
    cases failed
    · exact ⟨by decide, fun _ => trivial⟩
    · trivial
  apply wait.bind
  intro first
  rcases first with _ | _
  · trivial
  refine ⟨by decide, by decide, wait.bind ?_⟩
  intro second
  rcases second with _ | _
  · trivial
  exact ⟨by decide, fun status => rest (Otp.statusHasError status)⟩

theorem run_readProdDebugUnlockPkHash (index : Nat) (bound : index < 96) :
    ∃ trace answer,
      (romEnv.mci.readProdDebugUnlockPkHash (sizeT index)).run provisionedBus (regs, otp) =
        ⟨trace, answer, (regs, otp)⟩ ∧
      answer.getD 0 = seenHashWord regs index := by
  have small : index < 2 ^ 32 := Nat.lt_trans bound (by decide)
  have missing : sizeT Mci.pkHashRegCount ≤ sizeT index ↔ ¬ index < Mci.pkHashRegCount := by
    rw [BitVec.le_def, sizeT, sizeT, BitVec.toNat_ofNat, BitVec.toNat_ofNat,
      Nat.mod_eq_of_lt small, Nat.not_lt]
    rfl
  rw [Mci.readProdDebugUnlockPkHash, Mci.readArray, seenHashWord]
  by_cases present : index < Mci.pkHashRegCount
  · have inMci : ∀ index < Mci.pkHashRegCount,
        isMci (romEnv.mci.reg (Mci.regProdDebugUnlockPkHashBase + sizeT index * 4)) = true := by
      decide
    have read := Device.route_read_left isMci Device.storage
      (OtpController.device romEnv.otp) (inMci index present) (regs, otp)
    rw [if_neg fun high => missing.mp high present, Program.run_bind, Mci.readReg,
      Program.run_readReg, provisionedBus, read, if_pos present]
    exact ⟨_, _, rfl, rfl⟩
  · rw [if_pos (missing.mpr present), if_neg present]
    exact ⟨_, _, rfl, rfl⟩

/-- The loops end with a failed read, or have compared every word of theirs. -/
theorem run_compareHashWords {list : List (Nat × Nat)}
    (bounded : ∀ entry ∈ list, entry ∈ hashWordIndices) (mismatch : Bool) :
    ((compareHashWords romEnv.mci romEnv.otp list mismatch).run provisionedBus
        (regs, otp)).result = .error .otpReadError ∨
      ((compareHashWords romEnv.mci romEnv.otp list mismatch).run provisionedBus
        (regs, otp)).result = .ok (mismatch || list.any fun entry =>
          otp.settled.words (hashWordAddr entry.1 entry.2) !=
            seenHashWord regs (entry.1 * 12 + entry.2)) := by
  induction list generalizing otp mismatch with
  | nil => exact Or.inr (congrArg Except.ok (Bool.or_false mismatch).symm)
  | cons entry rest ih =>
      rcases entry with ⟨hashIdx, wordIdx⟩
      have bounds := mem_hashWordIndices.mp (bounded _ List.mem_cons_self)
      have later := fun otp =>
        ih otp fun entry member => bounded entry (List.mem_cons_of_mem _ member)
      have routed := Program.run_route_right Device.storage (OtpController.device romEnv.otp)
        (within_readWord (hashWordAddr hashIdx wordIdx)) (regs, otp)
      rw [← provisionedBus] at routed
      rw [compareHashWords, Program.run_bind, routed]
      rcases OtpController.run_readWord romEnv.otp otp (hashWordAddr hashIdx wordIdx) with
        ⟨e, failed, _⟩ | ⟨loaded, words, idle⟩
      · rw [failed]
        exact Or.inl rfl
      · rw [loaded]
        dsimp only
        generalize ((romEnv.otp.readWord (hashWordAddr hashIdx wordIdx)).run
          (OtpController.device romEnv.otp) otp).state = final at words idle ⊢
        rcases run_readProdDebugUnlockPkHash regs final (hashIdx * 12 + wordIdx) (by omega) with
          ⟨trace, answer, answered, seen⟩
        rw [Run.after_result, Program.run_bind, sizeT_hashIndex, answered, Run.after_result, seen,
          List.any_cons, ← Bool.or_assoc, ← words]
        have settled := OtpController.settled_of_idle idle
        have rest := later final (mismatch || final.words (hashWordAddr hashIdx wordIdx) !=
          seenHashWord regs (hashIdx * 12 + wordIdx))
        rw [settled] at rest
        exact rest

/-- Over all words: the loops find no mismatch exactly if the first hash
agrees and OTP holds nothing but zeros behind it. -/
theorem compareHashWords_agrees_iff {mismatch : Bool}
    (compared : ((compareHashWords romEnv.mci romEnv.otp hashWordIndices false).run provisionedBus
      (regs, otp)).result = .ok mismatch) :
    mismatch = false ↔
      (∀ wordIdx < 12, otp.settled.words (hashWordAddr 0 wordIdx) = mciHashWord regs wordIdx) ∧
      ∀ hashIdx < 7, ∀ wordIdx < 12, otp.settled.words (hashWordAddr (hashIdx + 1) wordIdx) = 0 := by
  rcases run_compareHashWords regs otp (fun _ member => member) false with failed | done
  · rw [failed] at compared
    cases compared
  rw [done] at compared
  cases compared
  rw [Bool.false_or, List.any_eq_false]
  constructor
  · intro agrees
    constructor
    · intro wordIdx bound
      have same := agrees (0, wordIdx) (mem_hashWordIndices.mpr ⟨Nat.zero_lt_succ 7, bound⟩)
      rw [bne_iff_ne, Ne, Decidable.not_not, seenHashWord_first regs bound] at same
      exact same
    · intro hashIdx high wordIdx bound
      have same := agrees (hashIdx + 1, wordIdx)
        (mem_hashWordIndices.mpr ⟨Nat.succ_lt_succ high, bound⟩)
      rw [bne_iff_ne, Ne, Decidable.not_not, seenHashWord_other] at same
      exact same
  · rintro ⟨first, others⟩ ⟨hashIdx, wordIdx⟩ member
    have bounds := mem_hashWordIndices.mp member
    rw [bne_iff_ne, Ne, Decidable.not_not]
    cases hashIdx with
    | zero => exact (first wordIdx bounds.2).trans (seenHashWord_first regs bounds.2).symm
    | succ hashIdx =>
        exact (others hashIdx (Nat.lt_of_succ_lt_succ bounds.1) wordIdx bounds.2).trans
          (seenHashWord_other regs hashIdx wordIdx).symm

/-! ## A device that should pass -/

/-- A prompt controller: every command takes no time and succeeds. -/
def promptController (words : Word → Word) : OtpController where
  words := words
  address := 0
  wdata := 0
  rdata := 0
  error := false
  inFlight := none
  plan := fun _ => ⟨some 0, false⟩

/-- Nothing in flight, and nothing to go wrong. -/
def Prompt (otp : OtpController) : Prop :=
  otp.inFlight = none ∧ ∀ count, otp.plan count = ⟨some 0, false⟩

open OtpController in
/-- A command that was read off a prompt controller is through at once. -/
theorem pollStatus_startRead {state : OtpController} (prompt : Prompt state) (addr : Word) :
    (state.startRead addr).pollStatus =
      (statusWord true false, (state.startRead addr).settled) := by
  rcases state with ⟨words, address, wdata, rdata, error, inFlight, plan⟩
  rcases prompt with ⟨idle, prompt⟩
  cases idle
  have now : plan 0 = ⟨some 0, false⟩ := prompt 0
  unfold startRead issue pollStatus settled
  simp only [now]

open OtpController in
theorem prompt_settled_startRead {state : OtpController} (prompt : Prompt state) (addr : Word) :
    Prompt (state.startRead addr).settled := by
  rcases state with ⟨words, address, wdata, rdata, error, inFlight, plan⟩
  rcases prompt with ⟨idle, prompt⟩
  cases idle
  exact ⟨rfl, fun count => prompt (count + 1)⟩

open OtpController in
/-- A prompt controller delivers its word and stays prompt. -/
theorem run_readWord_prompt {state : OtpController} (prompt : Prompt state) (addr : Word) :
    ∃ word, ((romEnv.otp.readWord addr).run (device romEnv.otp) state).result = .ok word ∧
      Prompt ((romEnv.otp.readWord addr).run (device romEnv.otp) state).state := by
  have first : romEnv.otp.IdleAt (device romEnv.otp) state 0 := by
    apply romEnv.otp.idleAt_zero
    rw [read_status, pollStatus_of_idle prompt.1]
    exact statusNotIdle_statusWord true state.error
  have second : romEnv.otp.IdleAt (device romEnv.otp) (state.startRead addr) 0 := by
    apply romEnv.otp.idleAt_zero
    rw [read_status, pollStatus_startRead prompt]
    exact statusNotIdle_statusWord true false
  have leads : (device romEnv.otp).writeAll state.settled (romEnv.otp.readWrites addr) =
      state.startRead addr := by
    rw [settled_of_idle prompt.1, writeAll_readWrites]
  have good : (state.startRead addr).settled.error = false :=
    (settled_startRead prompt.1 addr).2.2.1.trans (congrArg OtpOutcome.fails (prompt.2 0))
  rcases run_transfer_settled first leads second with ⟨trace, settled⟩
  rw [Otp.readWord_eq, settled, good, if_neg Bool.false_ne_true, Otp.run_readData, read_rdata]
  exact ⟨_, rfl, prompt_settled_startRead prompt addr⟩

/-- A prompt controller answers every read of the check. -/
theorem readsSucceed_of_prompt {otp : OtpController} (prompt : Prompt otp) : ReadsSucceed otp := by
  unfold ReadsSucceed
  generalize hashWordIndices = list
  induction list generalizing otp with
  | nil => exact ⟨[], rfl⟩
  | cons index rest ih =>
      rcases run_readWord_prompt prompt (hashWordAddr index.1 index.2) with ⟨word, loaded, later⟩
      rcases ih later with ⟨words, succeeded⟩
      refine ⟨word :: words, ?_⟩
      rw [readHashWords, Driver.run_andThen_ok _ _ loaded, Run.after_result,
        Driver.run_andThen_ok _ _ succeeded]
      rfl

/-- Each OTP word is its own address, and MCI holds the same words. -/
theorem verify_rejects_provisioned :
    let otp := promptController id
    let regs : Word → Word := fun addr =>
      addr - romEnv.mci.reg Mci.regProdDebugUnlockPkHashBase + 124
    ReadsSucceed otp ∧ HashesMatch regs otp.settled.words ∧
      ((verifyProdDebugUnlockPkHash none romEnv.mci romEnv.otp).run provisionedBus
        (regs, otp)).result = .error .otpReadError := by
  intro otp regs
  refine ⟨readsSucceed_of_prompt ⟨rfl, fun _ => rfl⟩, ?_,
    run_verifyProdDebugUnlockPkHash none provisionedBus (regs, otp)⟩
  intro hashIdx _ wordIdx _
  change hashWordAddr hashIdx wordIdx = romEnv.mci.baseAddr + (_ + _ * 4) - _ + 124
  rw [← sizeT_hashIndex, hashWordAddr]
  generalize sizeT hashIdx = row
  generalize sizeT wordIdx = column
  unfold Mci.reg
  grind

end McuRom
