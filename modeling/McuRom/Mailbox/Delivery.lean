import McuRom.Mailbox.Encoding
import McuRom.Rom.RomEnv

namespace McuRom

open Mmio

/-!
# Delivering a response

The data register is a FIFO: every read of it yields the next response word.
The header is popped by the manager, and the remaining words are the business
of the response object.  Its register map places the data register at the
offset where the manager has LOCK and its release register where the manager
has CMD, so the words it returns never come from the FIFO.
-/

namespace CaliptraSoC

variable (soc : CaliptraSoC) (cmd : Word) (req resp : List Word) (script : Word → Nat → Word)
variable (lock : Bool)

/-- Every response word ends in the caller's array, each is popped once, and
receiving touches neither LOCK nor CMD. -/
structure DeliversResponse : Prop where
  words : ∀ i < resp.length,
    (soc.execRun cmd req resp script lock).result.resp[i]? = some (soc.dataScript script i)
  pops : (soc.fromPolling (soc.execRun cmd req resp script lock).trace).countP
    (fun access => access.addr = soc.socMboxReg mboxDataout) = resp.length
  apart : ∀ access ∈ soc.fromPolling (soc.execRun cmd req resp script lock).trace,
    access.addr ≠ soc.socMboxReg mboxLock ∧ access.addr ≠ soc.socMboxReg mboxCmd

/-- A response of `4 * n` bytes has `n` words. -/
theorem wordCount_responseOf {n : Nat} (dlen : (soc.dlenScript script).toNat = 4 * n) :
    (soc.responseOf script).wordCount.toNat = n := by
  have bounded := (soc.dlenScript script).isLt
  change ((soc.dlenScript script + 3) / 4).toNat = n
  rw [BitVec.toNat_udiv, BitVec.toNat_add, dlen]
  change (4 * n + 3) % 2 ^ 32 / 4 = n
  omega

/-- What the accesses of a delivered response are, from the first poll on. -/
theorem fromPolling_delivered (delivered : soc.Delivered req resp script lock) :
    ∃ polls, soc.OnlyPolls polls ∧
      soc.fromPolling (soc.execRun cmd req resp script lock).trace =
        polls ++ [.read (soc.socMboxReg mboxDlen) (soc.dlenScript script),
            .read (soc.socMboxReg mboxDataout) (soc.dataScript script 0)] ++
            pollTrace (soc.socMboxReg mboxLock)
              (fun _ => soc.lockReply Device.scripted ⟨true, script⟩)
              ((soc.responseOf script).wordCount.toNat - 1) ++
            [.write (soc.socMboxReg mboxCmd) 0] := by
  rcases delivered with ⟨accepted, rfl, large, ends⟩
  rcases soc.run_receive_dataReady (preparedReq cmd req) resp script (BitVec.not_lt.mpr large) ends
    with ⟨polls, final, received, only⟩
  refine ⟨polls, only, ?_⟩
  rw [execRun_free _ _ _ _ _ accepted, Run.after_trace, fromPolling_started, received]

/-- No response of two or more words is delivered, although every such call
returns `Ok`: the words behind the header are read from LOCK. -/
theorem exec_never_delivers (delivered : soc.Delivered req resp script lock)
    (words : 2 ≤ resp.length) (dlen : (soc.dlenScript script).toNat = 4 * resp.length) :
    (soc.execRun cmd req resp script lock).result.result = .ok () ∧
      ¬ soc.DeliversResponse cmd req resp script lock := by
  refine ⟨(soc.exec_ok_iff cmd req resp script lock).mpr delivered, fun delivers => ?_⟩
  rcases soc.fromPolling_delivered cmd req resp script lock delivered with ⟨polls, _, accesses⟩
  have count := soc.wordCount_responseOf script dlen
  have lockRead : .read (soc.socMboxReg mboxLock) (soc.lockReply Device.scripted ⟨true, script⟩) ∈
      soc.fromPolling (soc.execRun cmd req resp script lock).trace := by
    rw [accesses, count]
    refine List.mem_append_left _ (List.mem_append_right _ (mem_pollTrace.mpr ⟨0, ?_, rfl⟩))
    omega
  exact (delivers.apart _ lockRead).1 rfl

theorem exec_never_delivers_two :
    (romEnv.socManager.execRun 0 [0] [0, 0] readyScript false).result.result = .ok () ∧
      ¬ romEnv.socManager.DeliversResponse 0 [0] [0, 0] readyScript false :=
  exec_never_delivers romEnv.socManager 0 [0] [0, 0] readyScript false
    romEnv.socManager.delivered_readyScript (by decide) (by decide)

/-- The FIFO holds the words 8, 8; the caller gets 8 and the LOCK word 9. -/
theorem exec_delivers_lock_word :
    (romEnv.socManager.execRun 0 [0] [0, 0] readyScript false).result.result = .ok () ∧
      (romEnv.socManager.dlenScript readyScript).toNat = 4 * 2 ∧
      (∀ i < 2, romEnv.socManager.dataScript readyScript i = 8) ∧
      (romEnv.socManager.execRun 0 [0] [0, 0] readyScript false).result.resp = [8, 9] ∧
      ¬ romEnv.socManager.DeliversResponse 0 [0] [0, 0] readyScript false := by
  rcases romEnv.socManager.run_receive_dataReady (preparedReq 0 [0]) [0, 0] readyScript
    (by decide) romEnv.socManager.endsIn_readyScript with ⟨polls, final, received, _⟩
  have words : (romEnv.socManager.execRun 0 [0] [0, 0] readyScript false).result.resp = [8, 9] := by
    rw [execRun_free _ _ _ _ _ requestAccepted_header, Run.after_result, received]
    exact show ((romEnv.socManager.responseOf readyScript).copied
      (fun _ => romEnv.socManager.lockReply Device.scripted ⟨true, readyScript⟩) [0, 0]).2 =
        [8, 9] by decide
  refine ⟨(romEnv.socManager.exec_ok_iff 0 [0] [0, 0] readyScript false).mpr
    romEnv.socManager.delivered_readyScript, by decide, fun _ _ => rfl, words, fun delivers => ?_⟩
  have second := delivers.words 1 (by decide)
  rw [words] at second
  exact absurd second (by decide)

end CaliptraSoC

end McuRom
