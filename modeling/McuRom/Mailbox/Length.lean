import McuRom.Mailbox.Decoding
import McuRom.Mailbox.Delivery

namespace McuRom

open Mmio

/-!
# The length of a response

`finish_mailbox_resp` takes bounds for the length of the response and compares
them with the size of a response header.  The length the device reports is
not compared with them, so the loop that copies a response may run out of
words, or out of room, and succeeds in either case.  The words it stores behind
the header are not the response's own but what LOCK shows, so even a response
of the right length ends in the array only if these agree.
-/

namespace CaliptraMailboxResponse

/-! ## What the loop stores -/

/-- Store words one after the other, ignoring what does not fit. -/
def storeWords (respCount : SizeT) : Nat → List Word → List Word → List Word
  | _, [], resp => resp
  | i, word :: rest, resp => storeWords respCount (i + 1) rest (store respCount i word resp)

/-- Words that fill the array from position `i` on replace the rest of it. -/
theorem storeWords_eq {respCount : SizeT} {words resp : List Word} {i : Nat}
    (full : i + words.length = resp.length) (counted : respCount.toNat = resp.length) :
    storeWords respCount i words resp = resp.take i ++ words := by
  induction words generalizing i resp with
  | nil =>
      have whole : resp.take i = resp := List.take_of_length_le (Nat.le_of_eq full.symm)
      rw [storeWords, whole, List.append_nil]
  | cons word rest ih =>
      rw [List.length_cons] at full
      have inside : i < resp.length := by omega
      have front : (resp.set i word).take (i + 1) = resp.take i ++ [word] := by
        rw [List.take_add_one, List.take_set_of_le (Nat.le_refl i), List.getElem?_set_self inside]
        rfl
      rw [storeWords, store, if_pos (counted ▸ inside), ih, front, List.append_assoc]
      · rfl
      · rw [List.length_set]
        omega
      · rw [List.length_set, counted]

theorem store_length (respCount : SizeT) (i : Nat) (word : Word) (resp : List Word) :
    (store respCount i word resp).length = resp.length := by
  unfold store
  split
  · exact List.length_set
  · rfl

/-- The loop keeps the size of the array. -/
theorem absorbAll_length (respCount : SizeT) (remaining : Nat) (stream : Nat → Word)
    (response : CaliptraMailboxResponse) (i : Nat) (resp : List Word) :
    (absorbAll respCount remaining stream response i resp).2.length = resp.length := by
  induction remaining generalizing stream response i resp with
  | zero => rfl
  | succ remaining ih => rw [absorbAll, ih, store_length]

theorem copied_length (response : CaliptraMailboxResponse) (stream : Nat → Word)
    (resp : List Word) : (response.copied stream resp).2.length = resp.length := by
  unfold copied
  split
  · rfl
  · rw [absorbAll_length, store_length]

/-- Behind the header, the loop stores what the words it read decode to. -/
theorem absorbAll_eq_storeWords (respCount : SizeT) (remaining : Nat) (stream : Nat → Word)
    (response : CaliptraMailboxResponse) (i : Nat) (resp : List Word)
    (started : response.idx ≠ 0) (fits : response.dlenBytes.toNat + 3 < 2 ^ 32)
    (position : response.idx.toNat + remaining = response.wordCount.toNat) :
    (absorbAll respCount remaining stream response i resp).2 =
      storeWords respCount i
        (restWords response.dlenBytes.toNat response.idx.toNat remaining stream) resp := by
  induction remaining generalizing stream response i resp with
  | zero => rfl
  | succ remaining ih =>
      have moved := absorb_position position (stream 0)
      have word := absorb_eq fits position (stream 0)
      have step := idx_succ_toNat position
      have stored : validData (stream 0) (response.remainingBytes (response.idx + 1)) =
          clearBeyond response.dlenBytes.toNat response.idx.toNat (stream 0) :=
        Option.some.inj (congrArg Prod.fst word)
      have later := ih (fun index => stream (index + 1)) (response.absorb (stream 0)).2 (i + 1)
        (store respCount i
          (clearBeyond response.dlenBytes.toNat response.idx.toNat (stream 0)) resp)
        moved.1 fits moved.2
      have index : (response.absorb (stream 0)).2.idx.toNat = response.idx.toNat + 1 := step
      rw [index] at later
      rw [absorbAll, stored, later, restWords_succ, storeWords]
      rfl

/-- A response of as many words as the array replaces it by what it decodes
to. -/
theorem copied_eq_decodedWords {response : CaliptraMailboxResponse} (stream : Nat → Word)
    {resp : List Word} (fresh : response.idx = 0) (nonempty : resp ≠ [])
    (fits : response.dlenBytes.toNat + 3 < 2 ^ 32)
    (count : (response.dlenBytes.toNat + 3) / 4 = resp.length) :
    (response.copied stream resp).2 =
      decodedWords response.expectedChecksum stream response.dlenBytes.toNat := by
  have words : response.wordCount.toNat = resp.length := (wordCount_toNat fits).trans count
  have counted : (sizeT resp.length).toNat = resp.length := by
    rw [← words]
    exact BitVec.toNat_ofNat .. |>.trans (Nat.mod_eq_of_lt response.wordCount.isLt)
  obtain ⟨rest, more⟩ := Nat.exists_eq_succ_of_ne_zero
    (mt List.length_eq_zero_iff.mp nonempty)
  have one : (response.idx + 1).toNat = 1 := by rw [fresh]; rfl
  have started : response.idx + 1 ≠ 0 := fun zero => by
    rw [zero] at one
    cases one
  have handsOut : response.wordCount ≠ 0 := fun zero => by
    rw [zero] at words
    exact nonempty (List.length_eq_zero_iff.mp words.symm)
  have loop := absorbAll_eq_storeWords (sizeT resp.length) rest stream
    { response with idx := response.idx + 1 } 1
    (store (sizeT resp.length) 0 response.expectedChecksum resp) started fits (by
      change (response.idx + 1).toNat + rest = response.wordCount.toNat
      omega)
  dsimp only at loop
  rw [one] at loop
  have whole : 0 + (response.expectedChecksum ::
      restWords response.dlenBytes.toNat 1 rest stream).length = resp.length := by
    rw [List.length_cons, restWords, List.length_map, List.length_range, more]
    omega
  rw [decodedWords_succ _ _ (count.trans more), copied, if_neg handsOut, words, more,
    Nat.succ_sub_one, ← more, loop]
  exact storeWords_eq whole counted

end CaliptraMailboxResponse

namespace CaliptraSoC

variable (soc : CaliptraSoC) (respMinSize respSize : SizeT) (cmd : Word) (req resp : List Word)
variable (script : Word → Nat → Word) (lock : Bool)

/-! ## Statements -/

/-- A response is yielded only if its length is within the bounds. -/
def LengthEnforced : Prop :=
  ∀ response, ((soc.finishMailboxResp respMinSize respSize).run soc.scriptedMailbox
      ⟨lock, script⟩).result = .ok (some response) →
    respMinSize ≤ soc.dlenScript script ∧ soc.dlenScript script ≤ respSize

/-- The device has a response for a caller with room for a header. -/
def HandsOver : Prop :=
  mailboxRespHeaderSize ≤ respSize ∧ mailboxRespHeaderSize ≤ respMinSize ∧
    soc.EndsIn script .dataReady

/-- The words of the response as the device presents them in the data
register, cut off at the length it reports. -/
def presentedWords : List Word :=
  (List.range (((soc.dlenScript script).toNat + 3) / 4)).map fun index =>
    clearBeyond (soc.dlenScript script).toNat index (soc.dataScript script index)

/-- A call that succeeds has filled every word of the array with a word of
the response, and no word of the response is missing from the array. -/
def TakesWholeResponse : Prop :=
  (soc.execRun cmd req resp script lock).result.result = .ok () →
    (∀ i < resp.length, ∃ word, (soc.presentedWords script)[i]? = some word ∧
      (soc.execRun cmd req resp script lock).result.resp[i]? = some word) ∧
    ∀ i < (soc.presentedWords script).length,
      (soc.execRun cmd req resp script lock).result.resp[i]? = (soc.presentedWords script)[i]?

/-- How many words are popped from the data register. -/
def popCount (trace : List (Access Word Word)) : Nat :=
  trace.countP fun access => access.addr = soc.socMboxReg mboxDataout

/-- A call that succeeds has left no word of the response in the data
register. -/
def PopsWholeResponse : Prop :=
  (soc.execRun cmd req resp script lock).result.result = .ok () →
    (soc.presentedWords script).length ≤
      soc.popCount (soc.fromPolling (soc.execRun cmd req resp script lock).trace)

/-- The word LOCK shows while the mailbox is held. -/
def heldWord : Word := soc.lockReply Device.scripted ⟨true, script⟩

/-- The response has as many words as the array, and those behind the header
are, as far as they belong to the response, the word LOCK shows. -/
def MatchesArray : Prop :=
  (soc.presentedWords script).length = resp.length ∧
    ∀ i, 1 ≤ i → i < resp.length →
      clearBeyond (soc.dlenScript script).toNat i (soc.heldWord script) =
        clearBeyond (soc.dlenScript script).toNat i (soc.dataScript script i)

/-! ## Which calls are handed a response -/

/-- Only the last kind of status yields a response. -/
theorem actOn_yields {σ : Type} (dev : Device Word Word σ) (state : σ) {kind : StatusKind}
    {response : CaliptraMailboxResponse}
    (yields : ((soc.actOn kind).run dev state).result = .ok (some response)) :
    kind = .dataReady := by
  cases kind with
  | failure =>
      rcases soc.run_actOn_failure dev state with ⟨reports, final, acted, _⟩
      rw [acted] at yields
      cases yields
  | complete => cases yields
  | unknown => cases yields
  | dataReady => rfl

theorem finish_yields_iff (response : CaliptraMailboxResponse) :
    ((soc.finishMailboxResp respMinSize respSize).run soc.scriptedMailbox
        ⟨lock, script⟩).result = .ok (some response) ↔
      soc.HandsOver respMinSize respSize script ∧ response = soc.responseOf script := by
  by_cases room : mailboxRespHeaderSize ≤ respSize ∧ mailboxRespHeaderSize ≤ respMinSize
  · have fits := BitVec.not_lt.mpr room.1
    have minFits := BitVec.not_lt.mpr room.2
    constructor
    · intro yields
      rcases soc.timeout_or_endsIn script with timeout | ⟨kind, ends⟩
      · rw [← soc.scripted_statusReplies script lock] at timeout
        rw [soc.run_finishMailboxResp_timeout soc.scriptedMailbox fits minFits timeout] at yields
        cases yields
      · rcases soc.run_finish_of_endsIn script lock fits minFits ends with
          ⟨polls, later, finished, _, _⟩
        rw [finished, Run.after_result] at yields
        cases soc.actOn_yields _ _ yields
        rcases soc.run_finish_dataReady script lock fits minFits ends with
          ⟨_, final, handed, _, _⟩
        rw [← Run.after_result polls, ← finished, handed] at yields
        cases yields
        exact ⟨⟨room.1, room.2, ends⟩, rfl⟩
    · rintro ⟨⟨_, _, ends⟩, rfl⟩
      rcases soc.run_finish_dataReady script lock fits minFits ends with ⟨_, final, handed, _, _⟩
      rw [handed]
  · refine iff_of_false (fun yields => ?_) fun both => room ⟨both.1.1, both.1.2.1⟩
    have small : respSize < mailboxRespHeaderSize ∨ respMinSize < mailboxRespHeaderSize := by
      rw [Classical.not_and_iff_not_or_not] at room
      exact room.imp BitVec.not_le.mp BitVec.not_le.mp
    rw [soc.run_finishMailboxResp_tooSmall soc.scriptedMailbox small] at yields
    cases yields

/-! ## What the array is left with -/

variable {req resp script lock}

theorem presentedWords_length :
    (soc.presentedWords script).length = ((soc.dlenScript script).toNat + 3) / 4 := by
  rw [presentedWords, List.length_map, List.length_range]

/-- The array has room for two words, and for fewer than `2 ^ 30` in all if
the response has as many. -/
theorem Delivered.bounds {soc : CaliptraSoC} (delivered : soc.Delivered req resp script lock)
    (count : (soc.presentedWords script).length = resp.length) :
    2 ≤ resp.length ∧ (soc.dlenScript script).toNat + 3 < 2 ^ 32 := by
  have bounded := (soc.dlenScript script).isLt
  have large := BitVec.le_def.mp delivered.2.2.1
  rw [presentedWords_length] at count
  rw [respLenBytes, BitVec.toNat_mul, sizeT, BitVec.toNat_ofNat] at large
  change 8 ≤ resp.length % 2 ^ 32 * 4 % 2 ^ 32 at large
  omega

/-- The array of a delivered response is what the loop makes of the LOCK
word. -/
theorem resp_delivered (delivered : soc.Delivered req resp script lock) :
    (soc.execRun cmd req resp script lock).result.resp =
      ((soc.responseOf script).copied (fun _ => soc.heldWord script) resp).2 := by
  rcases delivered with ⟨accepted, rfl, large, ends⟩
  rcases soc.run_receive_dataReady (preparedReq cmd req) resp script (BitVec.not_lt.mpr large) ends
    with ⟨polls, final, received, _⟩
  rw [execRun_free _ _ _ _ _ accepted, Run.after_result, received]
  rfl

/-- If the response has as many words as the array, the array ends as its
header and the LOCK word decode. -/
theorem resp_delivered_exact (delivered : soc.Delivered req resp script lock)
    (count : (soc.presentedWords script).length = resp.length) :
    (soc.execRun cmd req resp script lock).result.resp =
      decodedWords (soc.dataScript script 0) (fun _ => soc.heldWord script)
        (soc.dlenScript script).toNat := by
  have bounds := delivered.bounds count
  have nonempty : resp ≠ [] := fun empty => by
    rw [empty] at bounds
    exact absurd bounds.1 (by decide)
  rw [presentedWords_length] at count
  rw [soc.resp_delivered cmd delivered]
  exact CaliptraMailboxResponse.copied_eq_decodedWords (fun _ => soc.heldWord script) rfl nonempty
    bounds.2 count

/-- An array that is filled from the response and holds all of it is the
response. -/
theorem eq_presented_iff (delivered : soc.Delivered req resp script lock) :
    ((∀ i < resp.length, ∃ word, (soc.presentedWords script)[i]? = some word ∧
        (soc.execRun cmd req resp script lock).result.resp[i]? = some word) ∧
      ∀ i < (soc.presentedWords script).length,
        (soc.execRun cmd req resp script lock).result.resp[i]? = (soc.presentedWords script)[i]?) ↔
      (soc.execRun cmd req resp script lock).result.resp = soc.presentedWords script := by
  have size : (soc.execRun cmd req resp script lock).result.resp.length = resp.length := by
    rw [soc.resp_delivered cmd delivered, CaliptraMailboxResponse.copied_length]
  constructor
  · rintro ⟨filled, kept⟩
    have enough : resp.length ≤ (soc.presentedWords script).length := by
      apply Nat.le_of_not_lt
      intro short
      rcases filled _ short with ⟨word, handed, _⟩
      rw [List.getElem?_eq_none (Nat.le_refl _)] at handed
      cases handed
    have room : (soc.presentedWords script).length ≤ resp.length := by
      apply Nat.le_of_not_lt
      intro surplus
      have lost := kept _ surplus
      rw [List.getElem?_eq_none (Nat.le_of_eq size), List.getElem?_eq_getElem surplus] at lost
      cases lost
    apply List.ext_getElem (size.trans (Nat.le_antisymm enough room))
    intro i inside presented
    have same := kept i presented
    rw [List.getElem?_eq_getElem inside, List.getElem?_eq_getElem presented] at same
    exact Option.some.inj same
  · intro same
    rw [same] at size ⊢
    refine ⟨fun i inside => ?_, fun _ _ => rfl⟩
    rw [← size] at inside
    exact ⟨_, List.getElem?_eq_getElem inside, List.getElem?_eq_getElem inside⟩

/-- Word by word, that array is the response if the LOCK word is. -/
theorem resp_eq_presented_iff (delivered : soc.Delivered req resp script lock)
    (count : (soc.presentedWords script).length = resp.length) :
    (soc.execRun cmd req resp script lock).result.resp = soc.presentedWords script ↔
      soc.MatchesArray resp script := by
  have bounds := delivered.bounds count
  have words := count
  rw [presentedWords_length] at words
  -- the response has more than four bytes, so its header is whole
  have header : clearBeyond (soc.dlenScript script).toNat 0 (soc.dataScript script 0) =
      soc.dataScript script 0 :=
    CaliptraMailboxResponse.setWidth_whole _ (by omega)
  rw [soc.resp_delivered_exact cmd delivered count, decodedWords, presentedWords,
    List.map_inj_left, words]
  constructor
  · intro same
    refine ⟨count, fun i behind inside => ?_⟩
    obtain ⟨i, rfl⟩ := Nat.exists_eq_add_of_le' behind
    exact same (i + 1) (List.mem_range.mpr inside)
  · intro same i member
    cases i with
    | zero => exact header.symm
    | succ i => exact same.2 (i + 1) (Nat.succ_pos i) (List.mem_range.mp member)

theorem popCount_eq_zero {trace : List (Access Word Word)}
    (apart : ∀ access ∈ trace, access.addr ≠ soc.socMboxReg mboxDataout) :
    soc.popCount trace = 0 :=
  List.countP_eq_zero.mpr fun access member same => apart access member (of_decide_eq_true same)

/-- Of a delivered response only the header is popped. -/
theorem popCount_delivered (delivered : soc.Delivered req resp script lock) :
    soc.popCount (soc.fromPolling (soc.execRun cmd req resp script lock).trace) = 1 := by
  rcases soc.fromPolling_delivered cmd req resp script lock delivered with
    ⟨polls, only, accesses⟩
  have status : soc.popCount polls = 0 := soc.popCount_eq_zero fun access member => by
    rcases only access member with ⟨value, rfl⟩
    exact soc.socMboxReg_ne (show mboxStatus ≠ mboxDataout by decide)
  have lockWords : soc.popCount (pollTrace (soc.socMboxReg mboxLock)
      (fun _ => soc.lockReply Device.scripted ⟨true, script⟩)
      ((soc.responseOf script).wordCount.toNat - 1)) = 0 :=
    soc.popCount_eq_zero fun access member => by
      rcases mem_pollTrace.mp member with ⟨index, _, rfl⟩
      exact soc.socMboxReg_ne (show mboxLock ≠ mboxDataout by decide)
  have dlen : soc.popCount [.read (soc.socMboxReg mboxDlen) (soc.dlenScript script)] = 0 :=
    soc.popCount_eq_zero fun access member => by
      cases List.mem_singleton.mp member
      exact soc.socMboxReg_ne (show mboxDlen ≠ mboxDataout by decide)
  have release : soc.popCount [.write (soc.socMboxReg mboxCmd) 0] = 0 :=
    soc.popCount_eq_zero fun access member => by
      cases List.mem_singleton.mp member
      exact soc.socMboxReg_ne (show mboxCmd ≠ mboxDataout by decide)
  have header : soc.popCount [.read (soc.socMboxReg mboxDataout) (soc.dataScript script 0)] = 1 :=
    List.countP_cons_of_pos (decide_eq_true rfl)
  rw [popCount] at status lockWords dlen release header ⊢
  rw [accesses, List.append_cons polls, List.countP_append, List.countP_append, List.countP_append,
    List.countP_append, status, lockWords, dlen, release, header]

variable (req resp script lock)

/-- The bounds are enforced exactly on devices that keep to them by
themselves.  The array is the response exactly if LOCK happens to show its
words, and only a response that is all header is popped as a whole. -/
theorem length_enforced_iff :
    (soc.LengthEnforced respMinSize respSize script lock ↔
      (soc.HandsOver respMinSize respSize script →
        respMinSize ≤ soc.dlenScript script ∧ soc.dlenScript script ≤ respSize)) ∧
    (soc.TakesWholeResponse cmd req resp script lock ↔
      (soc.Delivered req resp script lock → soc.MatchesArray resp script)) ∧
    (soc.PopsWholeResponse cmd req resp script lock ↔
      (soc.Delivered req resp script lock → soc.dlenScript script ≤ 4)) := by
  have ok := soc.exec_ok_iff cmd req resp script lock
  refine ⟨⟨fun enforced handed => ?_, fun bounded response yields => ?_⟩,
    ⟨fun takes delivered => ?_, fun same succeeded => ?_⟩,
    ⟨fun pops delivered => ?_, fun short succeeded => ?_⟩⟩
  · exact enforced _ ((soc.finish_yields_iff _ _ script lock _).mpr ⟨handed, rfl⟩)
  · exact bounded ((soc.finish_yields_iff _ _ script lock response).mp yields).1
  · have whole := (soc.eq_presented_iff cmd delivered).mp (takes (ok.mpr delivered))
    have count : (soc.presentedWords script).length = resp.length := by
      rw [← whole, soc.resp_delivered cmd delivered, CaliptraMailboxResponse.copied_length]
    exact (soc.resp_eq_presented_iff cmd delivered count).mp whole
  · have delivered := ok.mp succeeded
    have matching := same delivered
    exact (soc.eq_presented_iff cmd delivered).mpr
      ((soc.resp_eq_presented_iff cmd delivered matching.1).mpr matching)
  · have popped := pops (ok.mpr delivered)
    rw [soc.popCount_delivered cmd delivered, presentedWords_length] at popped
    rw [BitVec.le_def]
    change _ ≤ 4
    omega
  · have bound := BitVec.le_def.mp (short (ok.mp succeeded))
    rw [soc.popCount_delivered cmd (ok.mp succeeded), presentedWords_length]
    change _ ≤ 4 at bound
    omega

/-- Eight bytes for bounds of twelve and sixteen are yielded.  Of an array of
three words the second ends as the LOCK word 9, the third keeps its 5, and the
second word of the response stays behind. -/
theorem exec_accepts_short :
    (∃ response, ((romEnv.socManager.finishMailboxResp 12 16).run
        romEnv.socManager.scriptedMailbox ⟨true, readyScript⟩).result = .ok (some response)) ∧
      romEnv.socManager.dlenScript readyScript = 8 ∧
      (romEnv.socManager.execRun 0 [0] [0, 0, 5] readyScript false).result.result = .ok () ∧
      romEnv.socManager.presentedWords readyScript = [8, 8] ∧
      (romEnv.socManager.execRun 0 [0] [0, 0, 5] readyScript false).result.resp = [8, 9, 5] ∧
      ¬ romEnv.socManager.LengthEnforced 12 16 readyScript true ∧
      ¬ romEnv.socManager.TakesWholeResponse 0 [0] [0, 0, 5] readyScript false ∧
      ¬ romEnv.socManager.PopsWholeResponse 0 [0] [0, 0, 5] readyScript false := by
  have delivered : romEnv.socManager.Delivered [0] [0, 0, 5] readyScript false :=
    ⟨requestAccepted_header, rfl, by decide, romEnv.socManager.endsIn_readyScript⟩
  have yields := (romEnv.socManager.finish_yields_iff 12 16 readyScript true _).mpr
    ⟨⟨by decide, by decide, romEnv.socManager.endsIn_readyScript⟩, rfl⟩
  have ok := (romEnv.socManager.exec_ok_iff 0 [0] [0, 0, 5] readyScript false).mpr delivered
  have words : romEnv.socManager.presentedWords readyScript = [8, 8] := by decide
  have array : (romEnv.socManager.execRun 0 [0] [0, 0, 5] readyScript false).result.resp =
      [8, 9, 5] := by
    rw [romEnv.socManager.resp_delivered 0 delivered]
    decide
  refine ⟨⟨_, yields⟩, rfl, ok, words, array, fun enforced => ?_, fun takes => ?_, fun pops => ?_⟩
  · exact absurd (enforced _ yields).1 (by decide)
  · rcases (takes ok).1 2 (by decide) with ⟨word, handed, _⟩
    rw [words] at handed
    cases handed
  · have popped := pops ok
    rw [romEnv.socManager.popCount_delivered 0 delivered, words] at popped
    exact absurd popped (by decide)

end CaliptraSoC

end McuRom
