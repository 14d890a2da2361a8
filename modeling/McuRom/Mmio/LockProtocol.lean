import McuRom.Mmio.Interleaving
import McuRom.Mmio.Monitor

namespace McuRom
namespace Mmio

/-!
# Sessions under a hardware lock

Clients share a device behind a lock bit.  A client that reads the lock
register and finds the bit clear has opened a session; writing zero to the
release register closes it.  Between the two the client may write, and it
starts a command by writing one to the release register.

`lockMonitor` is the protocol of a single client.  It relies on one fact about
the others: while a session is open, the lock bit reads as set.  If every call
respects the monitor from every state, then in every interleaving at most one
session is open, only its client writes, and the writes a command is started
with are that client's request.  What one client relies on is what the others
guarantee, and the lock bit of the device ties the two together.
-/

section Protocol

variable {C K A : Type} {w : Nat} [DecidableEq C] [DecidableEq A]
variable (lockAddr releaseAddr : A)

/-- A read of the lock register that finds it free. -/
def takes : Access A (BitVec w) → Bool
  | .read addr value => addr = lockAddr ∧ value &&& 1#w = 0#w
  | .write _ _ => false

/-- A zero written to the release register. -/
def releases : Access A (BitVec w) → Bool
  | .read _ _ => false
  | .write addr value => addr = releaseAddr ∧ value = 0#w

/-- A client's open session holds the writes it has made since it took the
lock; `none` means that it has no session. -/
def advance (session : Option (List (A × BitVec w))) (access : Access A (BitVec w)) :
    Option (List (A × BitVec w)) :=
  if takes lockAddr access then some []
  else if releases releaseAddr access then none
  else session.map (· ++ Access.writes [access])

/-- The session of a client after a history. -/
def session (client : C) (log : List (Entry C K A (BitVec w))) : Option (List (A × BitVec w)) :=
  log.foldl (fun session entry =>
    if entry.client = client then advance lockAddr releaseAddr session entry.access else session)
    none

/-- What the device has been given since anybody last took the lock. -/
def pending (log : List (Entry C K A (BitVec w))) : List (A × BitVec w) :=
  log.foldl (fun written entry =>
    if takes lockAddr entry.access then [] else written ++ Access.writes [entry.access]) []

theorem session_concat (client : C) (log : List (Entry C K A (BitVec w)))
    (entry : Entry C K A (BitVec w)) :
    session lockAddr releaseAddr client (log ++ [entry]) =
      if entry.client = client then
        advance lockAddr releaseAddr (session lockAddr releaseAddr client log) entry.access
      else session lockAddr releaseAddr client log := by
  simp only [session, List.foldl_append, List.foldl_cons, List.foldl_nil]

variable {lockAddr releaseAddr} in
/-- When no other client has a session, an access leaves at most that of the
client who made it. -/
theorem session_concat_of_alone {log : List (Entry C K A (BitVec w))}
    {entry : Entry C K A (BitVec w)}
    (alone : ∀ other, entry.client ≠ other → session lockAddr releaseAddr other log = none)
    (other : C) :
    session lockAddr releaseAddr other (log ++ [entry]) =
      if entry.client = other then
        advance lockAddr releaseAddr (session lockAddr releaseAddr entry.client log) entry.access
      else none := by
  rw [session_concat]
  by_cases same : entry.client = other
  · rw [if_pos same, if_pos same, same]
  · rw [if_neg same, if_neg same, alone other same]

variable {lockAddr releaseAddr} in
theorem client_of_session_concat {log : List (Entry C K A (BitVec w))}
    {entry : Entry C K A (BitVec w)}
    (alone : ∀ other, entry.client ≠ other → session lockAddr releaseAddr other log = none)
    {other : C} (occupied : session lockAddr releaseAddr other (log ++ [entry]) ≠ none) :
    entry.client = other := by
  by_contra different
  rw [session_concat_of_alone alone, if_neg different] at occupied
  exact occupied rfl

omit [DecidableEq C] in
theorem pending_concat (log : List (Entry C K A (BitVec w))) (entry : Entry C K A (BitVec w)) :
    pending lockAddr (log ++ [entry]) =
      if takes lockAddr entry.access then []
      else pending lockAddr log ++ Access.writes [entry.access] := by
  simp only [pending, List.foldl_append, List.foldl_cons, List.foldl_nil]

theorem advance_of_not_takes {lockAddr : A} (releaseAddr : A) {addr : A} {value : BitVec w}
    (notTaken : takes lockAddr (.read addr value) = false)
    (session : Option (List (A × BitVec w))) :
    advance lockAddr releaseAddr session (.read addr value) = session := by
  rw [advance, notTaken]
  cases session with
  | none => rfl
  | some written => exact congrArg some (List.append_nil written)

theorem advance_of_takes {lockAddr : A} (releaseAddr : A) {access : Access A (BitVec w)}
    (taken : takes lockAddr access = true) (session : Option (List (A × BitVec w))) :
    advance lockAddr releaseAddr session access = some [] :=
  if_pos taken

/-- A write in a session either closes it or becomes part of it. -/
theorem advance_write (written : List (A × BitVec w)) (addr : A) (value : BitVec w) :
    advance lockAddr releaseAddr (some written) (.write addr value) =
      if addr = releaseAddr ∧ value = 0#w then none else some (written ++ [(addr, value)]) := by
  simp only [advance, takes, releases, Bool.false_eq_true, if_false, decide_eq_true_eq]
  split <;> rfl

/-- One client's protocol for a given request.  A read may not find the lock
free while a session is open; a write needs a session, and a start needs the
session to consist of the request. -/
def lockMonitor (request : List (A × BitVec w)) :
    Monitor A (BitVec w) (Option (List (A × BitVec w))) where
  onRead q addr value :=
    if q.isSome ∧ takes lockAddr (.read addr value) then none
    else some (advance lockAddr releaseAddr q (.read addr value))
  onWrite q addr value :=
    match q with
    | none => none
    | some written =>
      if addr = releaseAddr ∧ value = 1#w ∧ written ≠ request then none
      else some (advance lockAddr releaseAddr (some written) (.write addr value))

section Monitor

variable (request written : List (A × BitVec w))

/-- In a session every read is harmless, and the lock bit reads as set. -/
theorem obeys_readReg_of_session (addr : A) :
    (Program.readReg addr).Obeys (lockMonitor lockAddr releaseAddr request)
      (fun value q => q = some written ∧ takes lockAddr (.read addr value) = false)
      (some written) := by
  intro value after admitted
  cases taken : takes lockAddr (.read addr value) with
  | true =>
      simp only [lockMonitor, taken, Option.isSome_some, and_self, if_true] at admitted
      cases admitted
  | false =>
      simp only [lockMonitor, taken, Bool.false_eq_true, and_false, if_false,
        advance_of_not_takes releaseAddr taken] at admitted
      cases admitted
      exact ⟨rfl, taken⟩

/-- A register other than the lock may be read in any state. -/
theorem lockMonitor_onRead_of_ne {addr : A} (different : addr ≠ lockAddr)
    (q : Option (List (A × BitVec w))) (value : BitVec w) :
    (lockMonitor lockAddr releaseAddr request).onRead q addr value = some q := by
  have notTaken : takes lockAddr (.read addr value) = false := by
    simp only [takes, different, false_and, decide_false]
  simp only [lockMonitor, notTaken, Bool.false_eq_true, and_false, if_false,
    advance_of_not_takes releaseAddr notTaken]

variable {lockAddr releaseAddr request} in
/-- A write that is permitted is made in a session, starts the request only if
the session is the request, and ends or extends the session. -/
theorem lockMonitor_onWrite_cases {q after : Option (List (A × BitVec w))} {addr : A}
    {value : BitVec w}
    (permitted : (lockMonitor lockAddr releaseAddr request).onWrite q addr value = some after) :
    ∃ written, q = some written ∧
      (addr = releaseAddr → value = 1#w → written = request) ∧
      after = if addr = releaseAddr ∧ value = 0#w then none
        else some (written ++ [(addr, value)]) := by
  cases q with
  | none => cases permitted
  | some written =>
      simp only [lockMonitor] at permitted
      split at permitted
      · cases permitted
      · rename_i unforced
        refine ⟨written, rfl, ?_, ?_⟩
        · intro isStart isOne
          by_contra differs
          exact unforced ⟨isStart, isOne, differs⟩
        · rw [← advance_write lockAddr]
          exact (Option.some.inj permitted).symm

/-- Writes to registers other than the release register extend a session. -/
theorem obeys_writeAll_of_session (list : List (A × BitVec w))
    (apart : ∀ entry ∈ list, entry.1 ≠ releaseAddr) :
    (Program.writeAll list).Obeys (lockMonitor lockAddr releaseAddr request)
      (fun _ q => q = some (written ++ list)) (some written) := by
  induction list generalizing written with
  | nil => exact congrArg some (List.append_nil written).symm
  | cons entry rest ih =>
      have different := apart entry List.mem_cons_self
      refine ⟨some (written ++ [entry]), ?_, ?_⟩
      · simp only [lockMonitor, different, false_and, if_false, advance_write]
      · have later := ih (written ++ [entry]) fun next member =>
          apart next (List.mem_cons_of_mem _ member)
        rw [List.append_assoc] at later
        exact later

/-- A session that consists of the request may be started. -/
theorem obeys_start_of_session (visible : 1#w ≠ 0#w) :
    (Program.writeReg releaseAddr 1#w).Obeys (lockMonitor lockAddr releaseAddr request)
      (fun _ q => q ≠ none) (some request) := by
  refine ⟨some (request ++ [(releaseAddr, 1#w)]), ?_, Option.some_ne_none _⟩
  simp only [lockMonitor, ne_eq, not_true_eq_false, and_false, if_false, advance_write, visible]

/-- A zero may be written anywhere in a session. -/
theorem obeys_zero_of_session (visible : 1#w ≠ 0#w) (addr : A) :
    (Program.writeReg addr 0#w).Obeys (lockMonitor lockAddr releaseAddr request)
      (fun _ _ => True) (some written) := by
  refine ⟨advance lockAddr releaseAddr (some written) (.write addr 0#w), ?_, trivial⟩
  simp only [lockMonitor, visible.symm, false_and, and_false, if_false]

end Monitor

/-- A write is made in an open session, and starts nothing but the request of
the call it belongs to. -/
def EntrySafe (request : K → List (A × BitVec w)) (prior : List (Entry C K A (BitVec w)))
    (entry : Entry C K A (BitVec w)) : Prop :=
  ∀ addr value, entry.access = .write addr value →
    session lockAddr releaseAddr entry.client prior ≠ none ∧
      (addr = releaseAddr → value = 1#w → pending lockAddr prior = request entry.call)

/-- Every access of a history was safe when it was made. -/
def LogSafe (request : K → List (A × BitVec w)) (log : List (Entry C K A (BitVec w))) : Prop :=
  ∀ prior entry, prior ++ [entry] <+: log → EntrySafe lockAddr releaseAddr request prior entry

theorem LogSafe.concat {lockAddr releaseAddr : A} {request : K → List (A × BitVec w)}
    {log : List (Entry C K A (BitVec w))} {entry : Entry C K A (BitVec w)}
    (safe : LogSafe lockAddr releaseAddr request log)
    (last : EntrySafe lockAddr releaseAddr request log entry) :
    LogSafe lockAddr releaseAddr request (log ++ [entry]) := by
  intro prior other inside
  rcases List.prefix_concat_iff.mp inside with whole | earlier
  · obtain ⟨rfl, same⟩ := List.append_inj' whole rfl
    cases same
    exact last
  · exact safe prior other earlier

/-! ## The invariant -/

variable {σ R : Type} (inner : Device A (BitVec w) σ) (body : K → Program A (BitVec w) R)
variable (request : K → List (A × BitVec w))

/-- Each running client is in a monitor state it can go on from; sessions
exclude each other, hold the lock bit, and agree with what the device has been
given. -/
structure Invariant (system : System C K A (BitVec w) (Device.Locked σ) R) : Prop where
  obeys : ∀ client call program, system.running client = some (call, program) →
    program.Obeys (lockMonitor lockAddr releaseAddr (request call)) (fun _ _ => True)
      (session lockAddr releaseAddr client system.log)
  exclusive : ∀ client other, session lockAddr releaseAddr client system.log ≠ none →
    session lockAddr releaseAddr other system.log ≠ none → client = other
  locked : ∀ client, session lockAddr releaseAddr client system.log ≠ none →
    system.device.lock = true
  given : ∀ client written, session lockAddr releaseAddr client system.log = some written →
    pending lockAddr system.log = written
  safe : LogSafe lockAddr releaseAddr request system.log

theorem Invariant.initial {system : System C K A (BitVec w) (Device.Locked σ) R}
    (initial : system.Initial) : Invariant lockAddr releaseAddr request system := by
  rcases system with ⟨device, running, log⟩
  rcases initial with ⟨idle, empty⟩
  cases empty
  constructor
  · intro client call program current
    rw [idle client] at current
    cases current
  · exact fun _ _ impossible => absurd rfl impossible
  · exact fun _ impossible => absurd rfl impossible
  · exact fun _ _ impossible => by cases impossible
  · intro prior entry impossible
    simp at impossible

/-- A client in its new monitor state, the others where they were. -/
theorem obeys_goOn {system : System C K A (BitVec w) (Device.Locked σ) R}
    {client : C} {call : K} {program : Program A (BitVec w) R} {access : Access A (BitVec w)}
    (inv : Invariant lockAddr releaseAddr request system)
    (obeys : program.Obeys (lockMonitor lockAddr releaseAddr (request call)) (fun _ _ => True)
      (advance lockAddr releaseAddr (session lockAddr releaseAddr client system.log) access)) :
    ∀ other otherCall rest, system.goOn client call program other = some (otherCall, rest) →
      rest.Obeys (lockMonitor lockAddr releaseAddr (request otherCall)) (fun _ _ => True)
        (session lockAddr releaseAddr other (system.log ++ [⟨client, call, access⟩])) := by
  intro other otherCall rest current
  rw [session_concat]
  by_cases same : client = other
  · subst same
    rw [system.goOn_self client call program] at current
    cases current
    rw [if_pos rfl]
    exact obeys
  · rw [system.goOn_of_ne (Ne.symm same) call program] at current
    rw [if_neg same]
    exact inv.obeys other otherCall rest current

variable {lockAddr releaseAddr request}

/-- While the lock bit is set, a read of the lock register does not take it. -/
theorem not_takes_of_lock (visible : 1#w ≠ 0#w) {device : Device.Locked σ}
    (held : device.lock = true) (addr : A) :
    takes lockAddr
      (.read addr ((Device.withLock lockAddr releaseAddr inner).read device addr).1) = false := by
  by_cases same : addr = lockAddr
  · subst same
    rw [Device.withLock_read_lock, takes, held, Device.lockWord_and_one]
    simp [visible]
  · simp only [takes, same, false_and, decide_false]

/-- Taking a free lock opens the only session. -/
theorem Invariant.take (visible : 1#w ≠ 0#w)
    {system : System C K A (BitVec w) (Device.Locked σ) R}
    (inv : Invariant lockAddr releaseAddr request system) {client : C} {call : K} {addr : A}
    {next : BitVec w → Program A (BitVec w) R}
    (current : system.running client = some (call, .read addr next))
    (taken : takes lockAddr (.read addr
      ((Device.withLock lockAddr releaseAddr inner).read system.device addr).1) = true) :
    Invariant lockAddr releaseAddr request
      { device := ((Device.withLock lockAddr releaseAddr inner).read system.device addr).2
        running := system.goOn client call
          (next ((Device.withLock lockAddr releaseAddr inner).read system.device addr).1)
        log := system.log ++ [⟨client, call, .read addr
          ((Device.withLock lockAddr releaseAddr inner).read system.device addr).1⟩] } := by
  have free : ∀ other, session lockAddr releaseAddr other system.log = none := by
    intro other
    by_contra occupied
    have notTaken := @not_takes_of_lock A w _ lockAddr releaseAddr σ
      inner visible _ (inv.locked other occupied) addr
    rw [taken] at notTaken
    cases notTaken
  have isLock : addr = lockAddr := by
    simp only [takes, decide_eq_true_eq] at taken
    exact taken.1
  have alone : ∀ other, client ≠ other → session lockAddr releaseAddr other system.log = none :=
    fun other _ => free other
  have only := fun other => @client_of_session_concat C K A w _ _ lockAddr releaseAddr
    system.log ⟨client, call, .read addr
      ((Device.withLock lockAddr releaseAddr inner).read system.device addr).1⟩ alone other
  constructor
  · apply obeys_goOn lockAddr releaseAddr request inv
    apply inv.obeys client call _ current _ _
    rw [free client]
    rfl
  · exact fun first second left right => (only first left).symm.trans (only second right)
  · intro _ _
    rw [isLock, Device.withLock_read_lock]
  · intro other written open'
    have same := only other (by rw [open']; exact Option.some_ne_none written)
    rw [session_concat_of_alone alone, if_pos same, advance_of_takes releaseAddr taken] at open'
    cases open'
    rw [pending_concat, if_pos taken]
  · exact inv.safe.concat fun _ _ impossible => by cases impossible

/-- Any other read leaves every session as it is. -/
theorem Invariant.pass {system : System C K A (BitVec w) (Device.Locked σ) R}
    (inv : Invariant lockAddr releaseAddr request system) {client : C} {call : K} {addr : A}
    {next : BitVec w → Program A (BitVec w) R}
    (current : system.running client = some (call, .read addr next))
    (notTaken : takes lockAddr (.read addr
      ((Device.withLock lockAddr releaseAddr inner).read system.device addr).1) = false) :
    Invariant lockAddr releaseAddr request
      { device := ((Device.withLock lockAddr releaseAddr inner).read system.device addr).2
        running := system.goOn client call
          (next ((Device.withLock lockAddr releaseAddr inner).read system.device addr).1)
        log := system.log ++ [⟨client, call, .read addr
          ((Device.withLock lockAddr releaseAddr inner).read system.device addr).1⟩] } := by
  have sessions : ∀ other, session lockAddr releaseAddr other (system.log ++ [⟨client, call,
      .read addr ((Device.withLock lockAddr releaseAddr inner).read system.device addr).1⟩]) =
      session lockAddr releaseAddr other system.log := by
    intro other
    rw [session_concat, advance_of_not_takes releaseAddr notTaken, ite_self]
  constructor
  · apply obeys_goOn lockAddr releaseAddr request inv
    apply inv.obeys client call _ current _ _
    simp only [lockMonitor, notTaken, Bool.false_eq_true, and_false, if_false]
  · intro first second left right
    rw [sessions] at left right
    exact inv.exclusive first second left right
  · intro other occupied
    rw [sessions] at occupied
    have held := inv.locked other occupied
    by_cases isLock : addr = lockAddr
    · rw [isLock, Device.withLock_read_lock]
    · rw [Device.withLock_read_of_ne lockAddr releaseAddr inner system.device isLock]
      exact held
  · intro other written open'
    rw [sessions] at open'
    rw [pending_concat, notTaken]
    exact (List.append_nil _).trans (inv.given other written open')
  · exact inv.safe.concat fun _ _ impossible => by cases impossible

/-- A write is made in the writer's session, which is the only one. -/
theorem Invariant.write {system : System C K A (BitVec w) (Device.Locked σ) R}
    (inv : Invariant lockAddr releaseAddr request system) {client : C} {call : K} {addr : A}
    {value : BitVec w} {next : Program A (BitVec w) R}
    (current : system.running client = some (call, .write addr value next)) :
    Invariant lockAddr releaseAddr request
      { device := (Device.withLock lockAddr releaseAddr inner).write system.device addr value
        running := system.goOn client call next
        log := system.log ++ [⟨client, call, .write addr value⟩] } := by
  rcases inv.obeys client call _ current with ⟨after, permitted, rest⟩
  rcases lockMonitor_onWrite_cases permitted with ⟨written, opened, started, moved⟩
  have occupied : session lockAddr releaseAddr client system.log ≠ none := by
    rw [opened]
    exact Option.some_ne_none written
  have given := inv.given client written opened
  have alone : ∀ other, client ≠ other → session lockAddr releaseAddr other system.log = none := by
    intro other different
    by_contra busy
    exact different (inv.exclusive client other occupied busy)
  have only := fun other => @client_of_session_concat C K A w _ _ lockAddr releaseAddr
    system.log ⟨client, call, .write addr value⟩ alone other
  have own : advance lockAddr releaseAddr (session lockAddr releaseAddr client system.log)
      (.write addr value) = after := by
    rw [opened, advance_write, moved]
  constructor
  · apply obeys_goOn lockAddr releaseAddr request inv
    rw [own]
    exact rest
  · exact fun first second left right => (only first left).symm.trans (only second right)
  · intro other busy
    have same := only other busy
    rw [session_concat_of_alone alone, if_pos same, own, moved] at busy
    have kept : ¬ (addr = releaseAddr ∧ value = 0#w) := fun closes => by
      rw [if_pos closes] at busy
      exact busy rfl
    simp only [Device.withLock, kept, if_false]
    exact inv.locked client occupied
  · intro other list open'
    have same := only other (by rw [open']; exact Option.some_ne_none list)
    rw [session_concat_of_alone alone, if_pos same, own, moved] at open'
    rw [pending_concat, given]
    split at open'
    · cases open'
    · cases open'
      rfl
  · refine inv.safe.concat fun writtenAddr writtenValue equal => ?_
    cases equal
    exact ⟨occupied, fun isStart isOne => given.trans (started isStart isOne)⟩

/-- Every step of every client keeps the invariant. -/
theorem Invariant.step (visible : 1#w ≠ 0#w)
    (respects : ∀ call q, (body call).Obeys (lockMonitor lockAddr releaseAddr (request call))
      (fun _ _ => True) q)
    {before after : System C K A (BitVec w) (Device.Locked σ) R}
    (step : System.Step (Device.withLock lockAddr releaseAddr inner) body before after)
    (inv : Invariant lockAddr releaseAddr request before) :
    Invariant lockAddr releaseAddr request after := by
  cases step with
  | enter client call idle =>
      refine ⟨fun other otherCall program current => ?_, inv.exclusive, inv.locked, inv.given,
        inv.safe⟩
      change before.goOn client call (body call) other = some (otherCall, program) at current
      by_cases same : other = client
      · subst same
        rw [before.goOn_self] at current
        cases current
        exact respects call _
      · rw [before.goOn_of_ne same] at current
        exact inv.obeys other otherCall program current
  | leave client call value finished =>
      refine ⟨fun other otherCall program current => ?_, inv.exclusive, inv.locked, inv.given,
        inv.safe⟩
      by_cases same : other = client
      · subst same
        simp only [Function.update_self] at current
        cases current
      · simp only [Function.update_of_ne same] at current
        exact inv.obeys other otherCall program current
  | read client call addr next current =>
      cases taken : takes lockAddr (.read addr
        ((Device.withLock lockAddr releaseAddr inner).read before.device addr).1) with
      | true => exact inv.take inner visible current taken
      | false => exact inv.pass inner current taken
  | write client call addr value next current => exact inv.write inner current

/-- If every call respects the protocol, so does every interleaving. -/
theorem invariant_of_reachable (visible : 1#w ≠ 0#w)
    (respects : ∀ call q, (body call).Obeys (lockMonitor lockAddr releaseAddr (request call))
      (fun _ _ => True) q)
    {system : System C K A (BitVec w) (Device.Locked σ) R}
    (reachable : system.Reachable (Device.withLock lockAddr releaseAddr inner) body) :
    Invariant lockAddr releaseAddr request system :=
  reachable.invariant (fun _ initial => Invariant.initial lockAddr releaseAddr request initial)
    fun _ _ step inv => inv.step inner body visible respects step

end Protocol

end Mmio
end McuRom
