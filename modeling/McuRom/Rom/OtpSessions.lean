import McuRom.Rom.OtpTransfer
import McuRom.Mmio.Histories

namespace McuRom

open Mmio

/-!
# The OTP as a store

The driver keeps no record of the commands it gave up on.  A call that times
out may leave one in flight, which then lands during a later call, or never.
What a caller may rely on is what the results of its calls tell: a read
delivers a value the word can hold by then, whatever the controller does and
however many calls came to nothing before it.
-/

/-- What a call returns, the words of a read included. -/
inductive OtpReply where
  | done (result : McuResult Unit)
  | word (result : McuResult Word)
  | block (result : McuResult Unit) (buffer : List Word)
deriving DecidableEq, Repr

namespace OtpCall

/-- The driver code of a call. -/
def answer (otp : Otp) : OtpCall → Driver OtpReply
  | init => OtpReply.done <$> otp.init
  | readWord addr => OtpReply.word <$> otp.readWord addr
  | readWords addr buffer =>
    (fun outcome => OtpReply.block outcome.1 outcome.2) <$> otp.readWords addr buffer
  | writeWord addr value => OtpReply.done <$> otp.writeWord addr value
  | writeWords addr data => OtpReply.done <$> otp.writeWords addr data
  | lockPartition partition => OtpReply.done <$> otp.lockPartition partition

/-- The events of a block from index `i` on, one for each of its words. -/
def blockEvents (event : Word → Word → StoreEvent Word Word) (addr : Word) (i : Nat)
    (data : List Word) : List (StoreEvent Word Word) :=
  (data.zipIdx i).map fun entry => event (Otp.wordAddr addr entry.2) entry.1

/-- What the caller learns from a write of one word: a write whose command has
failed is as good as none. -/
def writeEvents (addr value : Word) : McuResult Unit → List (StoreEvent Word Word)
  | .ok () => [.wrote addr value]
  | .error .timeout => [.attempted addr value]
  | .error _ => []

/-- What the caller learns from a block: on an error, not where it stopped. -/
def blockWriteEvents (addr : Word) (i : Nat) (data : List Word) :
    McuResult Unit → List (StoreEvent Word Word)
  | .ok () => blockEvents .wrote addr i data
  | .error _ => blockEvents .attempted addr i data

def readEvents (addr : Word) : McuResult Word → List (StoreEvent Word Word)
  | .ok value => [.read addr value]
  | .error _ => []

def blockReadEvents (addr : Word) (i : Nat) :
    McuResult Unit → List Word → List (StoreEvent Word Word)
  | .ok (), buffer => blockEvents .read addr i buffer
  | .error _, _ => []

/-- What the caller learns from a call. -/
def events : OtpCall → OtpReply → List (StoreEvent Word Word)
  | readWord addr, .word result => readEvents addr result
  | readWords addr _, .block result buffer => blockReadEvents addr 0 result buffer
  | writeWord addr value, .done result => writeEvents addr value result
  | writeWords addr data, .done result => blockWriteEvents addr 0 data result
  | _, _ => []

/-- The calls of a session, one after another. -/
def session (otp : Otp) : List OtpCall → Driver (List OtpReply)
  | [] => pure []
  | call :: rest => do
    let reply ← call.answer otp
    let replies ← session otp rest
    pure (reply :: replies)

/-- What the caller learns from a session. -/
def history (calls : List OtpCall) (replies : List OtpReply) : List (StoreEvent Word Word) :=
  (List.zipWith events calls replies).flatten

end OtpCall

namespace OtpController

/-- The values a word has, now and once the command in flight is through. -/
def holds (state : OtpController) (addr : Word) : Set Word :=
  {state.words addr, state.settled.words addr}

variable {otp : Otp} {state next : OtpController} {α : Type}

theorem holds_of_settled (idle : state.inFlight = none) (addr : Word) :
    state.holds addr = {state.words addr} := by
  rw [holds, settled_of_idle idle, Set.pair_eq_singleton]

theorem holds_congr {other : OtpController} (words : other.words = state.words)
    (settled : other.settled.words = state.settled.words) : other.holds = state.holds := by
  funext addr
  rw [holds, holds, words, settled]

/-- Settling changes nothing that can come about. -/
theorem settled_holds (addr : Word) : state.settled.holds addr ⊆ state.holds addr := by
  rw [holds_of_settled (settled_inFlight state)]
  exact Set.singleton_subset_iff.mpr (Set.mem_insert_of_mem _ rfl)

/-! ## One word -/

/-- How a transfer whose register writes lead to `next` ends: not started,
given up on with its command in flight, refused by the controller, or
through. -/
theorem transfer_ending (list : List (Word × Word)) (failure : McuError)
    (finish : Driver (McuResult α)) (leads : (device otp).writeAll state.settled list = next) :
    let run := (otp.transfer list failure finish).run (device otp) state
    (run.result = .error .timeout ∧ run.state.holds = state.holds) ∨
      (run.result = .error .timeout ∧ run.state.holds = next.holds) ∨
      (run.result = .error failure ∧ next.settled.error = true ∧ run.state = next.settled) ∨
      (next.settled.error = false ∧
        run.result = (finish.run (device otp) next.settled).result ∧
        run.state = (finish.run (device otp) next.settled).state) := by
  intro run
  have equation : run = (otp.transfer list failure finish).run (device otp) state := rfl
  rcases otp.neverIdle_or_idleAt (device otp) state with busy | ⟨first, idle⟩
  · rw [otp.run_transfer_notIdle (device otp) _ _ _ busy] at equation
    rw [equation]
    have waited := afterWait_busy otp _ busy
    exact Or.inl ⟨rfl, holds_congr waited.1 (congrArg words waited.2)⟩
  rcases otp.neverIdle_or_idleAt (device otp) next with busy | ⟨second, again⟩
  · have commanded : otp.commanded (device otp) list state first = next := by
      rw [Otp.commanded, afterWait_idle otp idle, leads]
    rw [otp.run_transfer_hung (device otp) _ _ _ idle (commanded ▸ busy), commanded] at equation
    rw [equation]
    have waited := afterWait_busy otp _ busy
    exact Or.inr (Or.inl ⟨rfl, holds_congr waited.1 (congrArg words waited.2)⟩)
  · rcases run_transfer_settled idle leads again with ⟨trace, settled⟩
    rw [settled] at equation
    rw [equation]
    cases failed : next.settled.error with
    | true => exact Or.inr (Or.inr (Or.inl ⟨rfl, rfl, rfl⟩))
    | false => exact Or.inr (Or.inr (Or.inr ⟨rfl, rfl, rfl⟩))

theorem records_readWord (addr : Word) :
    Records (device otp) holds [] (otp.readWord addr) (OtpCall.readEvents addr) := by
  intro initial state _ within
  have started := settled_startRead state.settled_inFlight addr
  have kept : ∀ target, {state.settled.words target} ⊆ initial target := fun target =>
    Set.singleton_subset_iff.mpr (within target (Set.mem_insert_of_mem _ rfl))
  have through : ∀ target,
      ((state.settled.startRead addr).settled).holds target = {state.settled.words target} := by
    intro target
    rw [holds_of_settled (settled_inFlight _), started.2.1]
  rcases transfer_ending (otp.readWrites addr) .otpReadError otp.readData
    (writeAll_readWrites otp addr) with
    ⟨failed, same⟩ | ⟨failed, hung⟩ | ⟨failed, _, refused⟩ | ⟨good, result, final⟩
  · rw [otp.readWord_eq, failed, Within, same]
    exact ⟨trivial, within⟩
  · rw [otp.readWord_eq, failed, Within, hung]
    refine ⟨trivial, fun target => ?_⟩
    rw [holds, started.1, started.2.1, Set.pair_eq_singleton]
    exact kept target
  · rw [otp.readWord_eq, failed, Within, refused]
    refine ⟨trivial, fun target => ?_⟩
    rw [through]
    exact kept target
  · rw [started.2.2.1] at good
    rw [otp.run_readData, read_rdata] at result final
    rw [otp.readWord_eq, result, Within, final, started.2.2.2 good]
    refine ⟨⟨kept addr rfl, trivial⟩, fun target => ?_⟩
    simp only [OtpCall.readEvents, possibleAfter, List.foldl_cons, List.foldl_nil,
      StoreEvent.possible, Function.update_apply, through]
    split
    case isTrue same => rw [same]
    case isFalse => exact kept target

theorem records_writeWord (addr value : Word) :
    Records (device otp) holds [] (otp.writeWord addr value) (OtpCall.writeEvents addr value) := by
  intro initial state _ within
  have started := settled_startWrite state.settled_inFlight addr value
  have kept : ∀ target, state.settled.words target ∈ initial target := fun target =>
    within target (Set.mem_insert_of_mem _ rfl)
  have attempted := StoreEvent.subset_possible_attempted initial addr value
  rcases transfer_ending (otp.writeWrites addr value) .otpWriteError (pure (.ok ()))
    (writeAll_writeWrites otp addr value) with
    ⟨failed, same⟩ | ⟨failed, hung⟩ | ⟨failed, refusal, refused⟩ | ⟨good, result, final⟩
  · rw [otp.writeWord_eq, failed, Within, same]
    exact ⟨⟨trivial, trivial⟩, fun target => (within target).trans (attempted target)⟩
  · rw [otp.writeWord_eq, failed, Within, hung]
    refine ⟨⟨trivial, trivial⟩, fun target => ?_⟩
    rw [holds, started.1, started.2.2]
    rintro word (rfl | rfl)
    · exact attempted target (kept target)
    -- The command in flight has stored its word once it is through, or nothing.
    · change _ ∈ (StoreEvent.attempted addr value).possible initial target
      have before := attempted target (kept target)
      cases (state.settled.plan 0).fails with
      | true => exact before
      | false =>
          rw [if_neg Bool.false_ne_true, Function.update_apply]
          split
          case isTrue same =>
            rw [same, StoreEvent.possible, Function.update_self]
            exact Set.mem_insert value _
          case isFalse => exact before
  · rw [otp.writeWord_eq, failed, Within, refused]
    rw [started.2.1] at refusal
    refine ⟨trivial, fun target => ?_⟩
    rw [holds_of_settled (settled_inFlight _), started.2.2, if_pos refusal]
    exact Set.singleton_subset_iff.mpr (kept target)
  · rw [started.2.1] at good
    rw [otp.writeWord_eq, result, Within, final]
    refine ⟨⟨trivial, trivial⟩, fun target => ?_⟩
    change ((state.settled.startWrite addr value).settled).holds target ⊆
      (StoreEvent.wrote addr value).possible initial target
    rw [holds_of_settled (settled_inFlight _), started.2.2, if_neg (by rw [good]; decide),
      Set.singleton_subset_iff]
    simp only [StoreEvent.possible, Function.update_apply]
    split
    · exact Set.mem_singleton value
    · exact kept target

/-! ## Blocks -/

/-- By induction on the words left.  What the caller is told of the words
before an error is less than what happened to them. -/
theorem records_writeWordsFrom (addr : Word) (i : Nat) (data : List Word) :
    Records (device otp) holds [] (otp.writeWordsFrom addr i data)
      (OtpCall.blockWriteEvents addr i data) := by
  induction data generalizing i with
  | nil => exact records_pure (Weakens.refl [])
  | cons word rest ih =>
      refine (records_writeWord (Otp.wordAddr addr i) word).bind fun result => ?_
      have none : Weakens [] (OtpCall.blockEvents .attempted addr (i + 1) rest) :=
        weakens_map_attempted _ _ _
      cases result with
      | error e =>
          apply records_pure
          cases e with
          | timeout => exact (Weakens.refl [StoreEvent.attempted _ word]).append none
          | _ => exact (weakens_nil _ word).append none
      | ok done =>
          refine (Records.behind (ih (i + 1)) [.wrote (Otp.wordAddr addr i) word]).weaken ?_
          intro outcome
          cases outcome with
          | ok all => exact Weakens.refl _
          | error e =>
              exact (weakens_wrote _ word).append
                (Weakens.refl (OtpCall.blockEvents .attempted addr (i + 1) rest))

/-- Words that were read before an error are not told of. -/
theorem records_readWordsFrom (addr : Word) (i : Nat) (buffer : List Word) :
    Records (device otp) holds [] (otp.readWordsFrom addr i buffer)
      fun outcome => OtpCall.blockReadEvents addr i outcome.1 outcome.2 := by
  induction buffer generalizing i with
  | nil => exact records_pure (Weakens.refl [])
  | cons old rest ih =>
      refine (records_readWord (Otp.wordAddr addr i)).bind fun result => ?_
      cases result with
      | error e => exact records_pure (Weakens.refl [])
      | ok word =>
          refine (Records.behind (ih (i + 1)) [.read (Otp.wordAddr addr i) word]).bind ?_
          rintro ⟨outcome, filled⟩
          apply records_pure
          cases outcome with
          | ok all => exact Weakens.refl _
          | error e => exact weakens_read _ word

/-! ## Calls that move no word -/

/-- A wait may see the command in flight through. -/
theorem records_waitForIdle :
    Records (device otp) holds [] (otp.waitForIdle Otp.defaultTimeoutCycles) fun _ => [] := by
  intro initial state _ within
  refine ⟨trivial, ?_⟩
  rcases otp.neverIdle_or_idleAt (device otp) state with busy | ⟨count, idle⟩
  · have waited := afterWait_busy otp _ busy
    rw [otp.run_waitForIdle_timeout (device otp) busy, Within,
      holds_congr waited.1 (congrArg words waited.2)]
    exact within
  · rw [otp.run_waitForIdle_idle (device otp) idle, Within, afterWait_idle otp idle]
    exact fun target => (settled_holds target).trans (within target)

/-- The digest command is ignored while another is in flight, and stores
nothing in the words. -/
theorem holds_digest (state : OtpController) : (state.issue Otp.cmdDigest).holds = state.holds := by
  rcases state with ⟨words, address, wdata, rdata, error, inFlight, plan⟩
  cases inFlight with
  | none => rfl
  | some command => rfl

theorem records_lockPartition (partition : OtpPartition) :
    Records (device otp) holds [] (otp.lockPartition partition) fun _ => [] := by
  have issued : Records (device otp) holds [] (otp.writeReg Otp.regDirectAccessCmd Otp.cmdDigest)
      fun _ => [] := by
    intro initial state _ within
    refine ⟨trivial, ?_⟩
    change Within holds ((device otp).write state (otp.reg Otp.regDirectAccessCmd) Otp.cmdDigest) _
    rw [write_command, Within, holds_digest]
    exact within
  exact issued.bind fun _ => records_waitForIdle

/-- Every call keeps the store within what its reply tells. -/
theorem records_answer (call : OtpCall) :
    Records (device otp) holds [] (call.answer otp) call.events := by
  cases call with
  | init => exact records_waitForIdle.map fun _ => rfl
  | readWord addr => exact (records_readWord addr).map fun _ => rfl
  | readWords addr buffer => exact (records_readWordsFrom addr 0 buffer).map fun _ => rfl
  | writeWord addr value => exact (records_writeWord addr value).map fun _ => rfl
  | writeWords addr data => exact (records_writeWordsFrom addr 0 data).map fun _ => rfl
  | lockPartition partition => exact (records_lockPartition partition).map fun _ => rfl

/-! ## Sessions -/

theorem records_session (calls : List OtpCall) :
    Records (device otp) holds [] (OtpCall.session otp calls) (OtpCall.history calls) := by
  induction calls with
  | nil => exact records_pure (Weakens.refl [])
  | cons call rest ih =>
      refine (records_answer call).bind fun reply => ?_
      refine (Records.behind ih (call.events reply)).bind fun replies => ?_
      exact records_pure (Weakens.refl _)

end OtpController

end McuRom
