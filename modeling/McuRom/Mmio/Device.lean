import McuRom.Mmio.Program

namespace McuRom
namespace Mmio

/-!
# Devices and polling

Four devices cover the hardware a driver is verified against.

* `Device.storage` is a plain register file.
* `Device.scripted` answers the `k`-th read of a register by the `k`-th entry
  of a stream.  Every reply sequence a device can produce in one execution is
  such a stream, so quantifying over scripts quantifies over device
  behaviours.
* `Device.route` sends each address to one of two devices.
* `Device.withLock` adds a hardware lock bit to an arbitrary device: a read of
  the lock register returns the old bit and sets it, and a zero written to the
  release register clears it.

The second half relates a bounded polling loop to the replies of the polled
register, for any device.
-/

variable {A W σ τ α : Type}

namespace Device

/-- Registers that hold what was last written to them. -/
def storage [DecidableEq A] : Device A W (A → W) where
  read file addr := (file addr, file)
  write file addr value := Function.update file addr value

/-- A device that answers each register from its own stream and ignores
writes.  The state holds the replies that are still to come. -/
def scripted [DecidableEq A] : Device A W (A → Nat → W) where
  read script addr :=
    (script addr 0, Function.update script addr fun count => script addr (count + 1))
  write script _ _ := script

/-- Two devices on one bus, selected by address. -/
def route (first : A → Bool) (left : Device A W σ) (right : Device A W τ) :
    Device A W (σ × τ) where
  read state addr :=
    if first addr then ((left.read state.1 addr).1, (left.read state.1 addr).2, state.2)
    else ((right.read state.2 addr).1, state.1, (right.read state.2 addr).2)
  write state addr value :=
    if first addr then (left.write state.1 addr value, state.2)
    else (state.1, right.write state.2 addr value)

/-- The state of a device that also has a lock bit. -/
structure Locked (σ : Type) where
  lock : Bool
  rest : σ

/-- The reply to the `count`-th of several consecutive reads of a register. -/
def replies (dev : Device A W σ) (addr : A) : σ → Nat → W
  | state, 0 => (dev.read state addr).1
  | state, count + 1 => replies dev addr (dev.read state addr).2 count

/-- The state after consecutive reads of one register. -/
def afterReads (dev : Device A W σ) (addr : A) : σ → Nat → σ
  | state, 0 => state
  | state, count + 1 => afterReads dev addr (dev.read state addr).2 count

theorem afterReads_succ (dev : Device A W σ) (addr : A) (state : σ) (count : Nat) :
    dev.afterReads addr state (count + 1) =
      (dev.read (dev.afterReads addr state count) addr).2 := by
  induction count generalizing state with
  | zero => rfl
  | succ count ih => exact ih (dev.read state addr).2

theorem replies_eq_read (dev : Device A W σ) (addr : A) (state : σ) (count : Nat) :
    dev.replies addr state count = (dev.read (dev.afterReads addr state count) addr).1 := by
  induction count generalizing state with
  | zero => rfl
  | succ count ih => exact ih (dev.read state addr).2

end Device

/-! ## Scripted replies -/

namespace Device

variable [DecidableEq A]

@[simp] theorem scripted_read (script : A → Nat → W) (addr : A) :
    scripted.read script addr =
      (script addr 0, Function.update script addr fun count => script addr (count + 1)) := rfl

@[simp] theorem scripted_write (script : A → Nat → W) (addr : A) (value : W) :
    scripted.write script addr value = script := rfl

@[simp] theorem scripted_writeAll (script : A → Nat → W) (list : List (A × W)) :
    scripted.writeAll script list = script := by
  induction list with
  | nil => rfl
  | cons entry rest ih => exact ih

/-- Drop the first replies of one register. -/
def advance (script : A → Nat → W) (addr : A) (count : Nat) : A → Nat → W :=
  Function.update script addr fun later => script addr (count + later)

@[simp] theorem advance_self (script : A → Nat → W) (addr : A) (count later : Nat) :
    advance script addr count addr later = script addr (count + later) := by
  simp only [advance, Function.update_self]

theorem advance_of_ne (script : A → Nat → W) {addr other : A} (different : other ≠ addr)
    (count : Nat) : advance script addr count other = script other :=
  Function.update_of_ne different _ _

theorem scripted_read_state (script : A → Nat → W) (addr : A) :
    (scripted.read script addr).2 = advance script addr 1 := by
  simp only [scripted_read, advance, Nat.add_comm 1]

theorem scripted_afterReads (script : A → Nat → W) (addr : A) (count : Nat) :
    scripted.afterReads addr script count = advance script addr count := by
  induction count generalizing script with
  | zero => simp [afterReads, advance]
  | succ count ih =>
      change scripted.afterReads addr (scripted.read script addr).2 count = _
      rw [ih, scripted_read_state]
      funext other later
      by_cases same : other = addr
      · subst other
        simp only [advance_self]
        congr 1
        omega
      · simp only [advance_of_ne _ same]

@[simp] theorem scripted_replies (script : A → Nat → W) (addr : A) (count : Nat) :
    scripted.replies addr script count = script addr count := by
  rw [replies_eq_read, scripted_afterReads]
  simp only [scripted_read, advance_self, Nat.add_zero]

end Device

/-! ## Two devices on one bus -/

namespace Device

variable (first : A → Bool) (left : Device A W σ) (right : Device A W τ)

theorem route_read_left {addr : A} (inFirst : first addr = true) (state : σ × τ) :
    (route first left right).read state addr =
      ((left.read state.1 addr).1, (left.read state.1 addr).2, state.2) :=
  if_pos inFirst

theorem route_read_right {addr : A} (inSecond : first addr = false) (state : σ × τ) :
    (route first left right).read state addr =
      ((right.read state.2 addr).1, state.1, (right.read state.2 addr).2) := by
  simp only [route, inSecond, Bool.false_eq_true, if_false]

theorem route_write_left {addr : A} (inFirst : first addr = true) (state : σ × τ) (value : W) :
    (route first left right).write state addr value = (left.write state.1 addr value, state.2) :=
  if_pos inFirst

theorem route_write_right {addr : A} (inSecond : first addr = false) (state : σ × τ) (value : W) :
    (route first left right).write state addr value = (state.1, right.write state.2 addr value) := by
  simp only [route, inSecond, Bool.false_eq_true, if_false]

theorem route_replies_right {addr : A} (inSecond : first addr = false) (state : σ × τ)
    (count : Nat) :
    (route first left right).replies addr state count = right.replies addr state.2 count := by
  induction count generalizing state with
  | zero => simp only [replies, route_read_right first left right inSecond]
  | succ count ih => simp only [replies, route_read_right first left right inSecond, ih]

theorem route_afterReads_right {addr : A} (inSecond : first addr = false) (state : σ × τ)
    (count : Nat) :
    (route first left right).afterReads addr state count =
      (state.1, right.afterReads addr state.2 count) := by
  induction count generalizing state with
  | zero => rfl
  | succ count ih => simp only [afterReads, route_read_right first left right inSecond, ih]

end Device

/-! ## A lock bit in front of a device -/

namespace Device

variable {w : Nat} [DecidableEq A]

/-- The word a lock register shows: bit zero is the lock, the other bits are
whatever the underlying device puts there. -/
def lockWord (background : BitVec w) (lock : Bool) : BitVec w :=
  (background &&& ~~~1#w) ||| (if lock then 1#w else 0#w)

/-- Reading the lock register takes the lock if it was free and never reaches
the underlying state.  Only a zero written to the release register gives the
lock back. -/
def withLock (lockAddr releaseAddr : A) (dev : Device A (BitVec w) σ) :
    Device A (BitVec w) (Locked σ) where
  read state addr :=
    if addr = lockAddr then
      (lockWord (dev.read state.rest addr).1 state.lock, { state with lock := true })
    else ((dev.read state.rest addr).1, { state with rest := (dev.read state.rest addr).2 })
  write state addr value :=
    { lock := if addr = releaseAddr ∧ value = 0#w then false else state.lock
      rest := dev.write state.rest addr value }

variable (lockAddr releaseAddr : A) (dev : Device A (BitVec w) σ)

theorem withLock_read_lock (state : Locked σ) :
    (withLock lockAddr releaseAddr dev).read state lockAddr =
      (lockWord (dev.read state.rest lockAddr).1 state.lock, { state with lock := true }) :=
  if_pos rfl

theorem withLock_read_of_ne (state : Locked σ) {addr : A} (different : addr ≠ lockAddr) :
    (withLock lockAddr releaseAddr dev).read state addr =
      ((dev.read state.rest addr).1, { state with rest := (dev.read state.rest addr).2 }) :=
  if_neg different

theorem withLock_write_of_ne (state : Locked σ) {addr : A} (different : addr ≠ releaseAddr)
    (value : BitVec w) :
    (withLock lockAddr releaseAddr dev).write state addr value =
      { state with rest := dev.write state.rest addr value } := by
  simp only [withLock, different, false_and, if_false]

theorem withLock_write_of_ne_zero (state : Locked σ) (addr : A) {value : BitVec w}
    (nonzero : value ≠ 0#w) :
    (withLock lockAddr releaseAddr dev).write state addr value =
      { state with rest := dev.write state.rest addr value } := by
  simp only [withLock, nonzero, and_false, if_false]

theorem withLock_replies_of_ne (state : Locked σ) {addr : A} (different : addr ≠ lockAddr)
    (count : Nat) :
    (withLock lockAddr releaseAddr dev).replies addr state count =
      dev.replies addr state.rest count := by
  induction count generalizing state with
  | zero => simp only [replies, withLock_read_of_ne lockAddr releaseAddr dev state different]
  | succ count ih =>
      simp only [replies, withLock_read_of_ne lockAddr releaseAddr dev state different, ih]

theorem withLock_afterReads_of_ne (state : Locked σ) {addr : A} (different : addr ≠ lockAddr)
    (count : Nat) :
    (withLock lockAddr releaseAddr dev).afterReads addr state count =
      { state with rest := dev.afterReads addr state.rest count } := by
  induction count generalizing state with
  | zero => rfl
  | succ count ih =>
      simp only [afterReads, withLock_read_of_ne lockAddr releaseAddr dev state different, ih]

/-- While the lock is held, every LOCK read gives the same word, and nothing
behind the lock notices. -/
theorem withLock_replies_held (rest : σ) (count : Nat) :
    (withLock lockAddr releaseAddr dev).replies lockAddr ⟨true, rest⟩ count =
      lockWord (dev.read rest lockAddr).1 true := by
  induction count with
  | zero => simp only [replies, withLock_read_lock]
  | succ count ih =>
      simp only [replies, withLock_read_lock]
      exact ih

/-- Writes that never reach the release register leave the lock alone. -/
theorem withLock_writeAll (state : Locked σ) (list : List (A × BitVec w))
    (keeps : ∀ entry ∈ list, entry.1 ≠ releaseAddr ∨ entry.2 ≠ 0#w) :
    (withLock lockAddr releaseAddr dev).writeAll state list =
      { state with rest := dev.writeAll state.rest list } := by
  induction list generalizing state with
  | nil => rfl
  | cons entry rest ih =>
      have head := keeps entry List.mem_cons_self
      have step : (withLock lockAddr releaseAddr dev).write state entry.1 entry.2 =
          { state with rest := dev.write state.rest entry.1 entry.2 } := by
        rcases head with different | nonzero
        · exact withLock_write_of_ne lockAddr releaseAddr dev state different _
        · exact withLock_write_of_ne_zero lockAddr releaseAddr dev state _ nonzero
      change (withLock lockAddr releaseAddr dev).writeAll
        ((withLock lockAddr releaseAddr dev).write state entry.1 entry.2) rest = _
      rw [step, ih _ fun later member => keeps later (List.mem_cons_of_mem _ member)]
      rfl

/-- The lock bit is bit zero of the word, whatever surrounds it. -/
theorem lockWord_and_one (background : BitVec w) (lock : Bool) :
    lockWord background lock &&& 1#w = if lock then 1#w else 0#w := by
  ext i hi
  cases lock with
  | false => simp [lockWord]
  | true =>
      simp [lockWord]
      omega

/-- The lock bit after a trace, computed from the accesses alone. -/
def lockAfter : Bool → List (Access A (BitVec w)) → Bool
  | lock, [] => lock
  | lock, .read addr _ :: rest => lockAfter (if addr = lockAddr then true else lock) rest
  | lock, .write addr value :: rest =>
      lockAfter (if addr = releaseAddr ∧ value = 0#w then false else lock) rest

theorem lockAfter_append (lock : Bool) (first second : List (Access A (BitVec w))) :
    lockAfter lockAddr releaseAddr lock (first ++ second) =
      lockAfter lockAddr releaseAddr (lockAfter lockAddr releaseAddr lock first) second := by
  induction first generalizing lock with
  | nil => rfl
  | cons access rest ih => cases access <;> exact ih _

/-- A held lock stays held along accesses that contain no release. -/
theorem lockAfter_of_no_release (trace : List (Access A (BitVec w)))
    (keeps : Access.write releaseAddr 0#w ∉ trace) :
    lockAfter lockAddr releaseAddr true trace = true := by
  induction trace with
  | nil => rfl
  | cons access rest ih =>
      have later := ih fun member => keeps (List.mem_cons_of_mem _ member)
      cases access with
      | read addr value =>
          simp only [lockAfter, ite_self]
          exact later
      | write addr value =>
          have different : ¬ (addr = releaseAddr ∧ value = 0#w) := by
            rintro ⟨rfl, rfl⟩
            exact keeps List.mem_cons_self
          simp only [lockAfter, different, if_false]
          exact later

/-- Reads of other registers do not move the lock. -/
theorem lockAfter_of_reads (lock : Bool) (trace : List (Access A (BitVec w)))
    (reads : ∀ access ∈ trace, ∃ addr value, access = .read addr value ∧ addr ≠ lockAddr) :
    lockAfter lockAddr releaseAddr lock trace = lock := by
  induction trace with
  | nil => rfl
  | cons access rest ih =>
      rcases reads access List.mem_cons_self with ⟨addr, value, rfl, different⟩
      rw [lockAfter, if_neg different]
      exact ih fun later member => reads later (List.mem_cons_of_mem _ member)

/-- The lock bit a program leaves is determined by its trace. -/
theorem run_withLock_lock (program : Program A (BitVec w) α) (state : Locked σ) :
    (program.run (withLock lockAddr releaseAddr dev) state).state.lock =
      lockAfter lockAddr releaseAddr state.lock
        (program.run (withLock lockAddr releaseAddr dev) state).trace := by
  induction program generalizing state with
  | ret value => rfl
  | read addr next ih =>
      have step : ((withLock lockAddr releaseAddr dev).read state addr).2.lock =
          if addr = lockAddr then true else state.lock := by
        simp only [withLock]
        split <;> rfl
      simp only [Program.run_read, Run.after_state, Run.after_trace, List.singleton_append,
        lockAfter, ih, step]
  | write addr value next ih =>
      simp only [Program.run_write, Run.after_state, Run.after_trace, List.singleton_append,
        lockAfter, ih]
      rfl

end Device

end Mmio
end McuRom
