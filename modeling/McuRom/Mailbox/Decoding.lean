import McuRom.Mailbox.Integrity

namespace McuRom

open Mmio

/-!
# Decoding a response

Calling `next` until it returns nothing decodes a response word by word: the
header comes from the constructor, every other word from the data register,
and the bytes behind the end of the response are cleared.  The running
checksum meanwhile adds up the same bytes that `calc_checksum` is given in one
piece.
-/

/-- Word number `index` of a response of `dlen` bytes, with the bytes at
position `dlen` and beyond cleared. -/
def clearBeyond (dlen index : Nat) (word : Word) : Word :=
  (word.setWidth (8 * (dlen - 4 * index))).setWidth 32

/-- The words of a response: the header and the values read. -/
def responseWords (header : Word) (reads : Nat → Word) : Nat → Word
  | 0 => header
  | index + 1 => reads index

/-- What the words of a response of `dlen` bytes decode to. -/
def decodedWords (header : Word) (reads : Nat → Word) (dlen : Nat) : List Word :=
  (List.range ((dlen + 3) / 4)).map fun
    | 0 => header
    | index + 1 => clearBeyond dlen (index + 1) (reads index)

/-- The bytes behind the header, from position 4 on. -/
def payloadBytes (header : Word) (reads : Nat → Word) (dlen : Nat) : List Byte :=
  (responseBytes (responseWords header reads) dlen).drop 4

namespace CaliptraMailboxResponse

/-- Call `next` until it returns nothing, at most `fuel` times. -/
def drain : Nat → CaliptraMailboxResponse → Driver (List Word × CaliptraMailboxResponse)
  | 0, response => pure ([], response)
  | fuel + 1, response => do
    let (word, response) ← response.next
    match word with
    | none => pure ([], response)
    | some word =>
      let (words, response) ← drain fuel response
      pure (word :: words, response)

/-! ## The bytes of a word -/

/-- The computed mask cuts a word off after some of its bytes. -/
theorem and_mask_eq_setWidth (data : Word) {count : SizeT} (short : count.toNat < 4) :
    data &&& (((1 : Word) <<< (count * 8)) - 1) =
      (data.setWidth (8 * count.toNat)).setWidth 32 := by
  have shift : (count * 8).toNat = 8 * count.toNat := by
    rw [BitVec.toNat_mul]
    change count.toNat * 8 % 2 ^ 32 = _
    omega
  have small : 2 ^ (8 * count.toNat) ≤ 2 ^ 24 :=
    Nat.pow_le_pow_right Nat.two_pos (by omega)
  have positive : 0 < 2 ^ (8 * count.toNat) := Nat.two_pow_pos _
  have mask : (((1 : Word) <<< (count * 8)) - 1).toNat = 2 ^ (8 * count.toNat) - 1 := by
    rw [BitVec.toNat_sub, BitVec.shiftLeft_eq', BitVec.toNat_shiftLeft, shift, Nat.shiftLeft_eq]
    change (2 ^ 32 - 1 + 1 * 2 ^ (8 * count.toNat) % 2 ^ 32) % 2 ^ 32 = _
    omega
  apply BitVec.eq_of_toNat_eq
  rw [BitVec.toNat_and, mask, Nat.and_two_pow_sub_one_eq_mod, BitVec.toNat_setWidth,
    BitVec.toNat_setWidth]
  have bounded := Nat.mod_lt data.toNat positive
  omega

/-- The bytes `next` adds up. -/
theorem addBytes_eq (checksum data : Word) (count : Nat) :
    addBytes checksum data count =
      checksum + byteSum ((List.range count).map fun i => (data >>> (i * 8)).setWidth 8) := by
  rw [← foldl_add_byteSum, List.foldl_map]
  simp only [addBytes, and_mask_eq_byte]

/-- A word cut off after four bytes or more is whole. -/
theorem setWidth_whole (data : Word) {width : Nat} (long : 32 ≤ width) :
    (data.setWidth width).setWidth 32 = data := by
  apply BitVec.eq_of_toNat_eq
  have bounded : data.toNat < 2 ^ width :=
    Nat.lt_of_lt_of_le data.isLt (Nat.pow_le_pow_right Nat.two_pos long)
  rw [BitVec.toNat_setWidth, BitVec.toNat_setWidth, Nat.mod_eq_of_lt bounded,
    Nat.mod_eq_of_lt data.isLt]

theorem validData_eq (data : Word) {count : SizeT} (bounded : count.toNat ≤ 4) :
    validData data count = (data.setWidth (8 * count.toNat)).setWidth 32 := by
  by_cases short : count < 4
  · rw [validData, if_pos short]
    exact and_mask_eq_setWidth data (BitVec.lt_def.mp short)
  · have four : count.toNat = 4 :=
      Nat.le_antisymm bounded (Nat.le_of_not_lt fun less => short (BitVec.lt_def.mpr less))
    rw [validData, if_neg short, setWidth_whole data (by omega)]

theorem clearBeyond_eq (dlen index : Nat) (data : Word) :
    clearBeyond dlen index data =
      (data.setWidth (8 * min 4 (dlen - 4 * index))).setWidth 32 := by
  rw [clearBeyond]
  by_cases short : dlen - 4 * index ≤ 4
  · rw [Nat.min_eq_right short]
  · rw [Nat.min_eq_left (Nat.le_of_not_le short), setWidth_whole data (by omega),
      setWidth_whole data (by omega)]

theorem wordBytes_take (data : Word) {count : Nat} (fits : count ≤ 4) :
    (wordBytes data).take count =
      (List.range count).map fun i => (data >>> (i * 8)).setWidth 8 := by
  rcases count with _ | _ | _ | _ | _ | count
  · rfl
  · rfl
  · rfl
  · rfl
  · rfl
  · omega

/-- The first bytes of a word do not depend on what is cleared behind them. -/
theorem bytes_clear (data : Word) {count : Nat} (fits : count ≤ 4) :
    ((List.range count).map fun i =>
        (((data.setWidth (8 * count)).setWidth 32) >>> (i * 8)).setWidth 8) =
      (wordBytes data).take count := by
  rw [wordBytes_take data fits]
  apply List.map_congr_left
  intro i member
  have bound := List.mem_range.mp member
  apply BitVec.eq_of_getLsbD_eq
  intro bit inByte
  simp only [BitVec.getLsbD_setWidth, BitVec.getLsbD_ushiftRight]
  have kept : i * 8 + bit < 8 * count := by omega
  have inWord : i * 8 + bit < 32 := by omega
  simp only [kept, inWord, decide_true, Bool.true_and]

/-! ## One word -/

variable {response : CaliptraMailboxResponse} {remaining : Nat}

theorem wordCount_toNat (fits : response.dlenBytes.toNat + 3 < 2 ^ 32) :
    response.wordCount.toNat = (response.dlenBytes.toNat + 3) / 4 := by
  rw [wordCount, BitVec.toNat_udiv, BitVec.toNat_add]
  change (response.dlenBytes.toNat + 3) % 2 ^ 32 / 4 = _
  rw [Nat.mod_eq_of_lt fits]

theorem remainingBytes_toNat (fits : response.dlenBytes.toNat + 3 < 2 ^ 32)
    (position : response.idx.toNat + (remaining + 1) = response.wordCount.toNat) :
    (response.remainingBytes (response.idx + 1)).toNat =
      min 4 (response.dlenBytes.toNat - 4 * response.idx.toNat) := by
  rw [wordCount_toNat fits] at position
  have rest : (response.dlenBytes - (response.idx + 1 - 1) * 4).toNat =
      response.dlenBytes.toNat - 4 * response.idx.toNat := by
    rw [BitVec.add_sub_cancel, BitVec.toNat_sub, BitVec.toNat_mul]
    change (2 ^ 32 - response.idx.toNat * 4 % 2 ^ 32 + response.dlenBytes.toNat) % 2 ^ 32 = _
    omega
  rw [remainingBytes]
  split
  · rename_i long
    rw [BitVec.lt_def, rest] at long
    change 4 < _ at long
    change 4 = _
    omega
  · rename_i short
    rw [BitVec.lt_def, rest] at short
    change ¬ 4 < _ at short
    rw [rest]
    omega

/-- A word is cleared behind the end of the response, and its bytes up to
there are added to the checksum. -/
theorem absorb_eq (fits : response.dlenBytes.toNat + 3 < 2 ^ 32)
    (position : response.idx.toNat + (remaining + 1) = response.wordCount.toNat) (data : Word) :
    response.absorb data =
      (some (clearBeyond response.dlenBytes.toNat response.idx.toNat data),
        { response with
          idx := response.idx + 1
          checksum := response.checksum + byteSum
            ((wordBytes data).take (response.dlenBytes.toNat - 4 * response.idx.toNat)) }) := by
  have bytes := remainingBytes_toNat fits position
  have bounded : (response.remainingBytes (response.idx + 1)).toNat ≤ 4 :=
    bytes ▸ Nat.min_le_left 4 _
  have valid := validData_eq data bounded
  have cleared := clearBeyond_eq response.dlenBytes.toNat response.idx.toNat data
  have whole : (wordBytes data).take (response.dlenBytes.toNat - 4 * response.idx.toNat) =
      (wordBytes data).take (response.remainingBytes (response.idx + 1)).toNat := by
    rw [bytes, List.take_eq_take_min, wordBytes_length, Nat.min_comm]
  rw [absorb, whole, ← bytes_clear data bounded, ← addBytes_eq, ← valid, cleared, ← bytes, ← valid]

/-! ## The whole response -/

/-- The bytes of the words from number `index` on, up to the end of the
response. -/
def restBytes (dlen index count : Nat) (reads : Nat → Word) : List Byte :=
  (arrayBytes ((List.range count).map reads)).take (dlen - 4 * index)

theorem restBytes_succ (dlen index count : Nat) (reads : Nat → Word) :
    restBytes dlen index (count + 1) reads =
      (wordBytes (reads 0)).take (dlen - 4 * index) ++
        restBytes dlen (index + 1) count fun later => reads (later + 1) := by
  have further : dlen - 4 * index - 4 = dlen - 4 * (index + 1) := by omega
  rw [restBytes, restBytes, List.range_succ_eq_map, List.map_cons, List.map_map, arrayBytes_cons,
    List.take_append, wordBytes_length, further]
  rfl

/-- The words from number `index` on. -/
def restWords (dlen index count : Nat) (reads : Nat → Word) : List Word :=
  (List.range count).map fun later => clearBeyond dlen (index + later) (reads later)

theorem restWords_succ (dlen index count : Nat) (reads : Nat → Word) :
    restWords dlen index (count + 1) reads =
      clearBeyond dlen index (reads 0) ::
        restWords dlen (index + 1) count fun later => reads (later + 1) := by
  rw [restWords, restWords, List.range_succ_eq_map, List.map_cons, List.map_map]
  refine congrArg _ (List.map_congr_left fun later _ => ?_)
  rw [Function.comp_apply, Nat.succ_eq_add_one, Nat.add_right_comm index 1 later]
  rfl

variable {σ : Type} (dev : Device Word Word σ)

/-- Once the header is out, the remaining words are read and decoded one by
one, and all their bytes end in the checksum. -/
theorem run_drain (remaining fuel : Nat) (response : CaliptraMailboxResponse) (state : σ)
    (enough : remaining < fuel) (started : response.idx ≠ 0)
    (fits : response.dlenBytes.toNat + 3 < 2 ^ 32)
    (position : response.idx.toNat + remaining = response.wordCount.toNat) :
    (drain fuel response).run dev state =
      ⟨pollTrace response.dataoutReg (dev.replies response.dataoutReg state) remaining,
        (restWords response.dlenBytes.toNat response.idx.toNat remaining
            (dev.replies response.dataoutReg state),
          { response with
            idx := response.wordCount
            checksum := response.checksum + byteSum
              (restBytes response.dlenBytes.toNat response.idx.toNat remaining
                (dev.replies response.dataoutReg state)) }),
        dev.afterReads response.dataoutReg state remaining⟩ := by
  induction remaining generalizing fuel response state with
  | zero =>
      obtain ⟨fuel, rfl⟩ := Nat.exists_eq_succ_of_ne_zero (Nat.ne_zero_of_lt enough)
      have last : response.idx = response.wordCount := BitVec.eq_of_toNat_eq position
      have nothing : restBytes response.dlenBytes.toNat response.idx.toNat 0
          (dev.replies response.dataoutReg state) = [] := List.take_nil
      rw [drain, next_done (done_of_position position), ← last, nothing, byteSum, add_zero]
      rfl
  | succ remaining ih =>
      obtain ⟨fuel, rfl⟩ := Nat.exists_eq_succ_of_ne_zero (Nat.ne_zero_of_lt enough)
      have moved := absorb_position position (dev.read state response.dataoutReg).1
      have later := ih fuel (response.absorb (dev.read state response.dataoutReg).1).2
        (dev.read state response.dataoutReg).2 (Nat.lt_of_succ_lt_succ enough) moved.1 fits moved.2
      have word := absorb_eq fits position (dev.read state response.dataoutReg).1
      have step := idx_succ_toNat position
      rw [word] at later
      dsimp only at later
      rw [step] at later
      rw [drain, next_word started (more_of_position position), pollTrace_succ, restWords_succ,
        restBytes_succ, byteSum_append, ← add_assoc]
      simp only [Program.bind_assoc, Program.run_bind, Program.run_readReg, Program.pure_eq,
        Program.ret_bind, word]
      rw [later]
      simp only [Program.run_ret, Run.after_mk, List.append_nil]
      rfl

theorem decodedWords_succ (header : Word) (reads : Nat → Word) {dlen count : Nat}
    (words : (dlen + 3) / 4 = count + 1) :
    decodedWords header reads dlen = header :: restWords dlen 1 count reads := by
  rw [decodedWords, words, List.range_succ_eq_map, List.map_cons, List.map_map, restWords]
  refine congrArg _ (List.map_congr_left fun later _ => ?_)
  rw [Nat.add_comm 1 later]
  rfl

theorem payloadBytes_succ (header : Word) (reads : Nat → Word) {dlen count : Nat}
    (words : (dlen + 3) / 4 = count + 1) :
    payloadBytes header reads dlen = restBytes dlen 1 count reads := by
  rw [payloadBytes, responseBytes, words, List.range_succ_eq_map, List.map_cons, List.map_map,
    arrayBytes_cons, List.drop_take, List.drop_left' (wordBytes_length _)]
  rfl

/-- The response object after it has handed out all words. -/
def drained (response : CaliptraMailboxResponse) (payload : List Byte) : CaliptraMailboxResponse :=
  { response with idx := response.wordCount, checksum := byteSum payload }

variable (mboxBase header : Word) (dlenBytes : SizeT) (state : σ)

/-- The values of the data register, as the response reads them. -/
def dataReads : Nat → Word := dev.replies (mboxBase + mboxDataout) state

/-- The payload of a response with these values. -/
def payloadRead : List Byte := payloadBytes header (dataReads dev mboxBase state) dlenBytes.toNat

/-- A new response, drained with at most `fuel` calls of `next`. -/
def drainRun (fuel : Nat) : Run Word Word σ (List Word × CaliptraMailboxResponse) :=
  (drain fuel (construct mboxBase dlenBytes header)).run dev state

/-- A response is decoded: its words are handed out with one read for each
word but the header, and nothing is left; and the running checksum agrees with
the batch checksum of the payload, for which header and payload sum to zero. -/
structure Decodes (fuel : Nat) : Prop where
  words : (drainRun dev mboxBase header dlenBytes state fuel).result.1 =
    decodedWords header (dataReads dev mboxBase state) dlenBytes.toNat
  reads : (drainRun dev mboxBase header dlenBytes state fuel).trace =
    pollTrace (mboxBase + mboxDataout) (dataReads dev mboxBase state)
      ((dlenBytes.toNat + 3) / 4 - 1)
  exhausted : (drainRun dev mboxBase header dlenBytes state fuel).result.2.next =
    pure (none, (drainRun dev mboxBase header dlenBytes state fuel).result.2)
  payloadLength : (payloadRead dev mboxBase header dlenBytes state).length = dlenBytes.toNat - 4
  verified : (drainRun dev mboxBase header dlenBytes state fuel).result.2.verifyChecksum = .ok () ↔
    header = calcChecksum 0 (payloadRead dev mboxBase header dlenBytes state)
  zeroSum : header = calcChecksum 0 (payloadRead dev mboxBase header dlenBytes state) ↔
    header + byteSum (payloadRead dev mboxBase header dlenBytes state) = 0

/-- A new response hands out its header and reads the other words. -/
theorem drainRun_eq (fits : dlenBytes.toNat + 3 < 2 ^ 32) {fuel : Nat}
    (enough : (dlenBytes.toNat + 3) / 4 < fuel) :
    drainRun dev mboxBase header dlenBytes state fuel =
      ⟨pollTrace (mboxBase + mboxDataout) (dataReads dev mboxBase state)
          ((dlenBytes.toNat + 3) / 4 - 1),
        (decodedWords header (dataReads dev mboxBase state) dlenBytes.toNat,
          (construct mboxBase dlenBytes header).drained
            (payloadRead dev mboxBase header dlenBytes state)),
        dev.afterReads (mboxBase + mboxDataout) state ((dlenBytes.toNat + 3) / 4 - 1)⟩ := by
  obtain ⟨fuel, rfl⟩ := Nat.exists_eq_succ_of_ne_zero (Nat.ne_zero_of_lt enough)
  let response := construct mboxBase dlenBytes header
  have words : response.wordCount.toNat = (dlenBytes.toNat + 3) / 4 := wordCount_toNat fits
  rw [drainRun, payloadRead]
  cases total : (dlenBytes.toNat + 3) / 4 with
  | zero =>
      have empty : response.wordCount = 0 := BitVec.eq_of_toNat_eq (words.trans total)
      have short : dlenBytes.toNat = 0 := by omega
      have done : response.wordCount ≤ response.idx := by
        rw [empty]
        exact BitVec.le_refl 0
      have same : response.drained (payloadBytes header (dataReads dev mboxBase state) 0) =
          response := by
        rw [drained, empty]
        rfl
      rw [drain, next_done done, short, same]
      rfl
  | succ count =>
      have more : ¬ response.wordCount ≤ response.idx := by
        rw [BitVec.le_def, words, total]
        exact Nat.not_succ_le_zero count
      have rest := run_drain dev count fuel { response with idx := response.idx + 1 } state
        (by omega) (show (0 : SizeT) + 1 ≠ 0 by decide) fits
        (by
          change 1 + count = response.wordCount.toNat
          omega)
      have sum : (0 : Word) + byteSum (restBytes dlenBytes.toNat 1 count
          (dataReads dev mboxBase state)) =
          byteSum (restBytes dlenBytes.toNat 1 count (dataReads dev mboxBase state)) := zero_add _
      rw [drain, next_header rfl more, decodedWords_succ header _ total,
        payloadBytes_succ header _ total]
      simp only [Program.pure_eq, Program.ret_bind, Program.run_bind, rest, Program.run_ret,
        Run.after_mk, List.append_nil]
      rw [drained, ← sum]
      rfl

theorem calcChecksum_zero (payload : List Byte) : calcChecksum 0 payload = -byteSum payload := by
  rw [calcChecksum_eq_neg]
  exact congrArg _ (zero_add (byteSum payload))

/-- The running checksum of a whole response is compared like the batch
checksum of its payload. -/
theorem verifyChecksum_drained (response : CaliptraMailboxResponse) (payload : List Byte) :
    (response.drained payload).verifyChecksum = .ok () ↔
      response.expectedChecksum = calcChecksum 0 payload := by
  rw [calcChecksum_zero, verifyChecksum]
  change (if 0 - byteSum payload = response.expectedChecksum then _ else _) = _ ↔ _
  rw [zero_sub]
  split
  · rename_i same
    exact iff_of_true rfl same.symm
  · rename_i different
    exact iff_of_false nofun fun same => different same.symm

theorem payloadBytes_length (header : Word) (reads : Nat → Word) (dlen : Nat) :
    (payloadBytes header reads dlen).length = dlen - 4 := by
  rw [payloadBytes, List.length_drop, responseBytes, List.length_take, arrayBytes_length,
    List.length_map, List.length_range]
  omega

/-- Decoding a response until it is exhausted yields its words and the batch
checksum of its payload. -/
theorem drain_decodes (fits : dlenBytes.toNat + 3 < 2 ^ 32) {fuel : Nat}
    (enough : (dlenBytes.toNat + 3) / 4 < fuel) :
    Decodes dev mboxBase header dlenBytes state fuel := by
  have equation := drainRun_eq dev mboxBase header dlenBytes state fits enough
  constructor
  · rw [equation]
  · rw [equation]
  · rw [equation]
    exact next_done (BitVec.le_refl _)
  · exact payloadBytes_length header _ _
  · rw [equation]
    exact verifyChecksum_drained (construct mboxBase dlenBytes header) _
  · rw [calcChecksum_zero, eq_neg_iff_add_eq_zero]

/-- A response of six bytes: the upper half of the second word is cleared. -/
theorem drain_decodes_six :
    (drainRun Device.scripted 0 0xFFFFFFF9 6 (fun _ _ => 0xABCD0304) 3).result.1 =
      [0xFFFFFFF9, 0x0304] :=
  (drain_decodes Device.scripted 0 0xFFFFFFF9 6 (fun _ _ => 0xABCD0304) (by decide)
    (by decide)).words.trans (by decide)

end CaliptraMailboxResponse

end McuRom
