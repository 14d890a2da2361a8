import McuRom.Mailbox.Exec
import McuRom.Mmio.LockProtocol

namespace McuRom

open Mmio

/-!
# Clients that share the mailbox

Any number of clients call `exec_mailbox_req_u32` on one mailbox, interleaved
at single register accesses.  Each call respects the lock protocol: it writes
only in a session of its own, it starts a command only when the session holds
its request, and the calls that return without a release leave a session in
which they write no more.  Mutual exclusion follows from the general theorem
about such clients.
-/

namespace CaliptraSoC

variable (soc : CaliptraSoC)

/-- The driver code of a call. -/
def execBody (call : ExecCall) : Driver ExecOutcome :=
  soc.execMailboxReqU32 call.cmd call.req call.resp

/-- Command, length and words of a call as the mailbox receives them. -/
def callRequest (call : ExecCall) : List (Word × Word) :=
  soc.mboxWrites
    ([(mboxCmd, call.cmd), (mboxDlen, sizeT call.req.length * 4)] ++
      (preparedReq call.cmd call.req).map fun word => (mboxDatain, word))

/-- The protocol of a client with a given request. -/
abbrev protocol (request : List (Word × Word)) :
    Monitor Word Word (Option (List (Word × Word))) :=
  lockMonitor (soc.socMboxReg mboxLock) (soc.socMboxReg mboxExecute) request

variable (request : List (Word × Word))

/-- A lock that was acquired has opened an empty session. -/
theorem obeys_lockMailbox (q : Option (List (Word × Word))) :
    soc.lockMailbox.Obeys (soc.protocol request)
      (fun result after => result = .ok () → after = some []) q := by
  apply (Program.obeys_bind _ _ _ q).mpr
  intro value after admitted
  change ((if value &&& 0x01 ≠ 0 then pure (.error .mboxLockFailed) else pure (.ok ())) :
    Driver (McuResult Unit)).Obeys _ _ after
  by_cases held : value &&& 0x01 ≠ 0
  · rw [if_pos held]
    exact nofun
  · rw [if_neg held]
    have taken : takes (soc.socMboxReg mboxLock) (.read (soc.socMboxReg mboxLock) value) = true :=
      decide_eq_true ⟨rfl, not_not.mp held⟩
    intro _
    simp only [protocol, lockMonitor, taken, and_true] at admitted
    split at admitted
    · cases admitted
    · rw [← Option.some.inj admitted, advance_of_takes _ taken]

/-- Command and length go into the session; the guard cannot fail in it. -/
theorem obeys_setCommand (cmd : Word) (lenBytes : SizeT) :
    (soc.setCommand cmd lenBytes).Obeys (soc.protocol request)
      (fun result after => result = .ok () →
        after = some (soc.mboxWrites [(mboxCmd, cmd), (mboxDlen, lenBytes)])) (some []) := by
  apply Program.Obeys.bind (obeys_readReg_of_session _ _ request [] _)
  rintro value after ⟨rfl, _⟩
  by_cases free : value &&& 0x01 = 0
  · rw [if_pos free]
    exact nofun
  · rw [if_neg free]
    have apart : ∀ entry ∈ soc.mboxWrites [(mboxCmd, cmd), (mboxDlen, lenBytes)],
        entry.1 ≠ soc.socMboxReg mboxExecute := by
      intro entry member
      simp only [mboxWrites, List.map_cons, List.map_nil, List.mem_cons, List.not_mem_nil,
        or_false] at member
      rcases member with rfl | rfl
      · exact soc.socMboxReg_ne (show mboxCmd ≠ mboxExecute by decide)
      · exact soc.socMboxReg_ne (show mboxDlen ≠ mboxExecute by decide)
    exact (obeys_writeAll_of_session _ _ request [] _ apart).bind fun _ after written _ => written

/-- A request that was started is in a session of its own. -/
theorem obeys_startMailboxReq (cmd : Word) (lenBytes : SizeT) (data : List Word)
    (q : Option (List (Word × Word))) :
    (soc.startMailboxReq cmd lenBytes data).Obeys
      (soc.protocol (soc.mboxWrites ([(mboxCmd, cmd), (mboxDlen, lenBytes)] ++
        data.map fun word => (mboxDatain, word))))
      (fun result after => result = .ok () → after ≠ none) q := by
  by_cases tooLong : mailboxSize < lenBytes
  · rw [startMailboxReq, if_pos tooLong]
    intro impossible
    cases impossible
  · rw [startMailboxReq, if_neg tooLong]
    apply Program.Obeys.bind (soc.obeys_lockMailbox _ q)
    rintro (error | ⟨⟩) after locked
    · intro impossible
      cases impossible
    · rw [locked rfl]
      apply Program.Obeys.bind (soc.obeys_setCommand _ cmd lenBytes)
      rintro (error | ⟨⟩) after commanded
      · intro impossible
        cases impossible
      · rw [commanded rfl]
        have apart : ∀ entry ∈ data.map fun word => (soc.socMboxReg mboxDatain, word),
            entry.1 ≠ soc.socMboxReg mboxExecute := by
          intro entry member
          rcases List.mem_map.mp member with ⟨word, _, rfl⟩
          exact soc.socMboxReg_ne (show mboxDatain ≠ mboxExecute by decide)
        have whole : soc.mboxWrites [(mboxCmd, cmd), (mboxDlen, lenBytes)] ++
            (data.map fun word => (soc.socMboxReg mboxDatain, word)) =
            soc.mboxWrites ([(mboxCmd, cmd), (mboxDlen, lenBytes)] ++
              data.map fun word => (mboxDatain, word)) := by
          rw [soc.mboxWrites_append, mboxWrites, mboxWrites, List.map_map]
          rfl
        apply Program.Obeys.bind (obeys_writeAll_of_session _ _ _ _ _ apart)
        rintro _ after written
        rw [written, whole]
        exact (obeys_start_of_session _ _ _ (by decide)).bind fun _ after open' _ => open'

/-! ## Receiving in a session -/

/-- In a session any register may be read. -/
theorem obeys_readSocMbox (written : List (Word × Word)) (offset : Word) :
    (soc.readSocMbox offset).Obeys (soc.protocol request) (fun _ after => after = some written)
      (some written) :=
  (obeys_readReg_of_session _ _ request written _).mono fun _ _ facts => facts.1

/-- A response is handed out in the session it belongs to; a failure or a
completion may have ended it. -/
theorem obeys_actOn (written : List (Word × Word)) (kind : StatusKind) :
    (soc.actOn kind).Obeys (soc.protocol request)
      (fun result after => ∀ response, result = .ok (some response) → after = some written)
      (some written) := by
  have zero := obeys_zero_of_session (soc.socMboxReg mboxLock) (soc.socMboxReg mboxExecute)
    request written (by decide) (soc.socMboxReg mboxExecute)
  cases kind with
  | failure =>
      apply Program.Obeys.bind zero
      intro _ after _ fatal after _
      change ((if fatal = 0 then _ else _ :
        Driver (McuResult (Option CaliptraMailboxResponse)))).Obeys _ _ after
      by_cases none : fatal = 0
      · rw [if_pos none]
        intro _ after _
        exact nofun
      · rw [if_neg none]
        exact nofun
  | complete => exact Program.Obeys.bind zero fun _ _ _ => nofun
  | unknown => exact nofun
  | dataReady =>
      apply Program.Obeys.bind (soc.obeys_readSocMbox request written mboxDlen)
      rintro _ _ rfl
      apply Program.Obeys.bind (soc.obeys_readSocMbox request written mboxDataout)
      rintro _ _ rfl _ _
      rfl

theorem obeys_finishMailboxResp (written : List (Word × Word)) (respMinSize respSize : SizeT) :
    (soc.finishMailboxResp respMinSize respSize).Obeys (soc.protocol request)
      (fun result after => ∀ response, result = .ok (some response) → after = some written)
      (some written) := by
  unfold finishMailboxResp
  split
  · exact nofun
  · split
    · exact nofun
    · have stays : ∀ value, (soc.protocol request).onRead (some written)
          (soc.socMboxReg mboxStatus) value = some (some written) :=
        lockMonitor_onRead_of_ne _ _ request
          (soc.socMboxReg_ne (show mboxStatus ≠ mboxLock by decide)) _
      apply Program.Obeys.bind (Program.obeys_pollWhile stays maxWaitCycles fun _ => rfl)
      rintro ready _ rfl
      cases ready with
      | false => exact nofun
      | true =>
          change (soc.takeMailboxResp).Obeys _ _ _
          rw [takeMailboxResp_eq]
          apply Program.Obeys.bind (soc.obeys_readSocMbox request written mboxStatus)
          rintro status _ rfl
          exact soc.obeys_actOn request written (statusKind status)

/-- Copying a response out only reads, from whichever register the response
class takes for its data register. -/
theorem obeys_copyWords (written : List (Word × Word)) (respCount : SizeT) (fuel : Nat)
    (response : CaliptraMailboxResponse) (i : Nat) (resp : List Word) :
    (CaliptraMailboxResponse.copyWords respCount fuel response i resp).Obeys
      (soc.protocol request) (fun _ after => after = some written) (some written) := by
  induction fuel generalizing response i resp with
  | zero => rfl
  | succ fuel ih =>
      rw [CaliptraMailboxResponse.copyWords]
      by_cases done : response.wordCount ≤ response.idx
      · rw [CaliptraMailboxResponse.next_done done]
        rfl
      · by_cases start : response.idx = 0
        · rw [CaliptraMailboxResponse.next_header start done]
          exact ih _ _ _
        · rw [CaliptraMailboxResponse.next_word start done, Program.bind_assoc]
          apply Program.Obeys.bind (obeys_readReg_of_session _ _ request written _)
          rintro data _ ⟨rfl, _⟩
          exact ih _ _ _

/-- The destructor writes a zero or nothing. -/
theorem obeys_destroy (written : List (Word × Word)) (response : CaliptraMailboxResponse) :
    response.destroy.Obeys (soc.protocol request) (fun _ _ => True) (some written) := by
  unfold CaliptraMailboxResponse.destroy CaliptraMailboxResponse.release
  split
  · trivial
  · exact obeys_zero_of_session _ _ request written (by decide) _

/-- The second half of a call keeps to the session of the first. -/
theorem obeys_receiveResp (req resp : List Word) (q : Option (List (Word × Word)))
    (started : q ≠ none) :
    (soc.receiveResp req resp).Obeys (soc.protocol request) (fun _ _ => True) q := by
  obtain ⟨written, rfl⟩ := Option.ne_none_iff_exists'.mp started
  apply Program.Obeys.bind (soc.obeys_finishMailboxResp request written _ _)
  rintro (error | ⟨⟨⟩ | response⟩) after kept
  · trivial
  · trivial
  · rw [kept response rfl]
    apply Program.Obeys.bind (soc.obeys_copyWords request written _ _ response 0 resp)
    rintro ⟨copied, resp⟩ _ rfl
    exact (soc.obeys_destroy request written copied).bind fun _ _ _ => trivial

/-! ## Whole calls -/

/-- A call keeps to the protocol whichever session it is entered in: one that
its client left open earlier makes it fail at the LOCK read. -/
theorem obeys_execBody (call : ExecCall) (q : Option (List (Word × Word))) :
    (soc.execBody call).Obeys (soc.protocol (soc.callRequest call)) (fun _ _ => True) q := by
  by_cases short : sizeT call.req.length * 4 < mailboxReqHeaderSize
  · rw [execBody, execMailboxReqU32, if_pos short]
    trivial
  · rw [execBody, execMailboxReqU32_eq _ _ _ _ short]
    apply Program.Obeys.bind (soc.obeys_startMailboxReq call.cmd _ _ q)
    rintro (error | ⟨⟩) after started
    · trivial
    · exact soc.obeys_receiveResp _ _ call.resp after (started rfl)

variable {C σ : Type} [DecidableEq C] (inner : Device Word Word σ)

/-- The session a client has open on the mailbox after a history. -/
abbrev mailboxSession (client : C) (log : List (Entry C ExecCall Word Word)) :
    Option (List (Word × Word)) :=
  session (soc.socMboxReg mboxLock) (soc.socMboxReg mboxExecute) client log

/-- The general theorem about clients of a lock, for this driver. -/
theorem mailbox_invariant {system : System C ExecCall Word Word (Device.Locked σ) ExecOutcome}
    (reachable : system.Reachable (soc.mailbox inner) soc.execBody) :
    Invariant (soc.socMboxReg mboxLock) (soc.socMboxReg mboxExecute) soc.callRequest system :=
  invariant_of_reachable inner soc.execBody (by decide) soc.obeys_execBody reachable

/-- In every interleaving of any number of clients, over any device behind the
lock: at no time is more than one session open, every write is made in the
writer's session, and a command is started with exactly the request that the
starting call was given. -/
theorem exec_mutual_exclusion
    (system : System C ExecCall Word Word (Device.Locked σ) ExecOutcome)
    (reachable : system.Reachable (soc.mailbox inner) soc.execBody) :
    (∀ prior, prior <+: system.log → ∀ client other, soc.mailboxSession client prior ≠ none →
      soc.mailboxSession other prior ≠ none → client = other) ∧
    ∀ prior entry addr value, prior ++ [entry] <+: system.log →
      entry.access = .write addr value →
      soc.mailboxSession entry.client prior ≠ none ∧
        (addr = soc.socMboxReg mboxExecute → value = 0x01 →
          pending (soc.socMboxReg mboxLock) prior = soc.callRequest entry.call) := by
  constructor
  · intro prior inside client other
    rcases reachable.of_prefix inside with ⟨earlier, reached, rfl⟩
    exact (soc.mailbox_invariant inner reached).exclusive client other
  · intro prior entry addr value inside written
    exact (soc.mailbox_invariant inner reachable).safe prior entry inside addr value written

/-- Two calls with requests of two words each. -/
def twoWordCall : ExecCall := ⟨0x1234, [0, 5], [0, 0]⟩

def otherCall : ExecCall := ⟨0x5678, [0, 9], [0, 0]⟩

/-- What has happened on a free mailbox when the first call is about to write
EXECUTE.  Between the read that took the lock and the read of `set_command`,
the other client has made its own call and has been refused. -/
def beforeStart : List (Entry Bool ExecCall Word Word) :=
  ⟨true, twoWordCall, .read (soc.socMboxReg mboxLock)
      (soc.lockReply Device.scripted ⟨false, readyScript⟩)⟩ ::
    ⟨false, otherCall, .read (soc.socMboxReg mboxLock)
      (soc.lockReply Device.scripted ⟨true, readyScript⟩)⟩ ::
    (.read (soc.socMboxReg mboxLock) (soc.lockReply Device.scripted ⟨true, readyScript⟩) ::
      Access.ofWrites (soc.callRequest twoWordCall)).map (⟨true, twoWordCall, ·⟩)

/-- The two clients are one in front of the other in a reachable system. -/
theorem beforeStart_reachable :
    ∃ system : System Bool ExecCall Word Word (Device.Locked (Word → Nat → Word)) ExecOutcome,
      system.Reachable (construct none none none).scriptedMailbox
        (construct none none none).execBody ∧
      (construct none none none).beforeStart ++ [⟨true, twoWordCall,
        .write ((construct none none none).socMboxReg mboxExecute) 0x01⟩] <+: system.log := by
  let soc := construct none none none
  have taken := soc.mailbox_read_lock Device.scripted ⟨false, readyScript⟩
  obtain ⟨next, begins⟩ : ∃ next, soc.execBody twoWordCall = .read (soc.socMboxReg mboxLock) next :=
    ⟨_, rfl⟩
  have started : (soc.execBody twoWordCall).run soc.scriptedMailbox ⟨false, readyScript⟩ = _ :=
    soc.run_exec_free Device.scripted twoWordCall.cmd twoWordCall.req twoWordCall.resp
      ⟨false, readyScript⟩ ⟨by decide, by decide⟩ rfl
  have refused : (soc.execBody otherCall).run soc.scriptedMailbox ⟨true, readyScript⟩ = _ :=
    soc.run_exec_held Device.scripted otherCall.cmd otherCall.req otherCall.resp
      ⟨true, readyScript⟩ ⟨by decide, by decide⟩ rfl
  -- what the first client does after the read that took the lock
  rw [begins, Program.run_read] at started
  have traces := congrArg Run.trace started
  rw [Run.after_trace, Run.after_trace, List.singleton_append, startTrace, List.cons_append]
    at traces
  have rest := (List.cons.inj traces).2
  rcases System.Reachable.interrupted soc.scriptedMailbox soc.execBody ⟨false, readyScript⟩
    (show false ≠ true by decide) twoWordCall otherCall begins with ⟨system, reachable, log⟩
  change soc.scriptedMailbox.read ⟨false, readyScript⟩ (soc.socMboxReg mboxLock) = _ at taken
  rw [taken] at rest log
  dsimp only at rest log
  rw [refused] at log
  dsimp only at log
  rw [rest] at log
  refine ⟨system, reachable, ?_⟩
  rw [log]
  exact ⟨_, rfl⟩

/-- One of two clients starts its command while the other one's call has come
and gone: the session is the first one's, and the mailbox holds its request. -/
theorem exec_mutual_exclusion_first :
    (construct none none none).mailboxSession true (construct none none none).beforeStart ≠ none ∧
      (construct none none none).mailboxSession false (construct none none none).beforeStart =
        none ∧
      pending ((construct none none none).socMboxReg mboxLock)
        (construct none none none).beforeStart =
        (construct none none none).callRequest twoWordCall := by
  let soc := construct none none none
  rcases beforeStart_reachable with ⟨system, reachable, inside⟩
  have exclusion := soc.exec_mutual_exclusion Device.scripted system reachable
  have safe := exclusion.2 _ _ _ _ inside rfl
  refine ⟨safe.1, ?_, safe.2 rfl rfl⟩
  by_contra open'
  exact absurd (exclusion.1 _ ((List.prefix_append _ _).trans inside) true false safe.1 open')
    (by decide)

end CaliptraSoC

end McuRom
