import McuRom.Mmio.Channel
import McuRom.Mmio.Scheduled
import McuRom.Rom.I3c

namespace McuRom

open Mmio

/-!
# Byte streams over I3C

The bus drains the transmit FIFO and fills the receive FIFO while the driver
runs, any number of times between any two of its accesses.  The driver looks
at a level first and acts afterwards; in between the bus can only make more
room, or supply more bytes, so no byte is lost or reordered.
-/

namespace I3c

/-- The FIFOs of the controller with their histories, and its other bits. -/
structure Lines (txQueued rxQueued : Fifo Byte 16) where
  tx : Channel Byte 16 txQueued
  rx : Channel Byte 16 rxQueued
  bits : Word → Word

/-- What the bus does. -/
inductive BusStep where
  | drain
  | fill (byte : Byte)
deriving DecidableEq, Repr

namespace Lines

variable {txQueued rxQueued : Fifo Byte 16}

def start (txQueued rxQueued : Fifo Byte 16) (bits : Word → Word) : Lines txQueued rxQueued :=
  ⟨.start txQueued, .start rxQueued, bits⟩

variable (lines : Lines txQueued rxQueued)

def step : BusStep → Lines txQueued rxQueued
  | .drain => { lines with tx := lines.tx.collect }
  | .fill byte => { lines with rx := lines.rx.offer byte }

def happens (steps : List BusStep) : Lines txQueued rxQueued := steps.foldl step lines

/-- A field in the low bits of a word, with other bits around it. -/
def withField (around mask field : Word) : Word := (around &&& ~~~mask) ||| field

end Lines

variable (i3c : I3c) {txQueued rxQueued : Fifo Byte 16}

/-- The controller's side of the FIFOs. -/
def device : Device Word Word (Lines txQueued rxQueued) where
  read lines addr :=
    if addr = i3c.reg regTxFifoStatus then
      (Lines.withField (lines.bits addr) 0x1F (BitVec.ofNat 32 lines.tx.level), lines)
    else if addr = i3c.reg regRxFifoStatus then
      (Lines.withField (lines.bits addr) 0x1F (BitVec.ofNat 32 lines.rx.level), lines)
    else if addr = i3c.reg regRxFifo then
      (Lines.withField (lines.bits addr) 0xFF ((lines.rx.take.1.getD 0).setWidth 32),
        { lines with rx := lines.rx.take.2 })
    else (lines.bits addr, lines)
  write lines addr value :=
    if addr = i3c.reg regTxFifo then { lines with tx := lines.tx.put (value.setWidth 8) }
    else { lines with bits := Function.update lines.bits addr value }

/-- The controller with the bus acting before every access. -/
def onBus : Device Word Word (Scheduled (List BusStep) (Lines txQueued rxQueued)) :=
  Device.scheduled Lines.happens i3c.device

variable (bits : Word → Word) (schedule : Nat → List BusStep) (fuel : Nat)

/-- A transfer to the bus from given queues on. -/
def writeRun (txQueued rxQueued : Fifo Byte 16) (data : List Byte) :
    Run Word Word (Scheduled (List BusStep) (Lines txQueued rxQueued))
      (Option I3cTransferResult) :=
  (i3c.write fuel data).run i3c.onBus ⟨schedule, .start txQueued rxQueued bits⟩

/-- A transfer from the bus. -/
def readRun (txQueued rxQueued : Fifo Byte 16) (size : SizeT) :
    Run Word Word (Scheduled (List BusStep) (Lines txQueued rxQueued))
      (Option (I3cTransferResult × List Byte)) :=
  (i3c.read fuel size).run i3c.onBus ⟨schedule, .start txQueued rxQueued bits⟩

/-- From any access on, such a step is made before one of the next `fuel`. -/
def Regular (fuel : Nat) (made : BusStep → Prop) (events : Nat → List BusStep) : Prop :=
  ∀ now, ∃ count < fuel, ∃ step ∈ events (now + count), made step

/-- A write never meets a full FIFO; it returns if the bus keeps draining, and
when it returns, what has been drained and what is queued are what was queued
before and the data. -/
structure WritesInOrder (txQueued rxQueued : Fifo Byte 16) (data : List Byte) : Prop where
  neverFull : (i3c.writeRun bits schedule fuel txQueued rxQueued data).state.device.tx.misused =
    false
  returns : Regular fuel (fun step => step = .drain) schedule →
    ∃ result, (i3c.writeRun bits schedule fuel txQueued rxQueued data).result = some result
  returned : ∀ result,
    (i3c.writeRun bits schedule fuel txQueued rxQueued data).result = some result →
    (i3c.writeRun bits schedule fuel txQueued rxQueued data).state.device.tx.left ++
        (i3c.writeRun bits schedule fuel txQueued rxQueued data).state.device.tx.fifo.entries =
      txQueued.entries ++ data ∧
    result.bytesTransferred = sizeT data.length

/-- A read never meets an empty FIFO; it returns if the bus keeps filling, and
when it returns, the buffer and what is queued are what was queued before and
what has arrived. -/
structure ReadsInOrder (txQueued rxQueued : Fifo Byte 16) (size : SizeT) : Prop where
  neverEmpty : (i3c.readRun bits schedule fuel txQueued rxQueued size).state.device.rx.misused =
    false
  returns : Regular fuel (fun step => ∃ byte, step = .fill byte) schedule →
    ∃ result, (i3c.readRun bits schedule fuel txQueued rxQueued size).result = some result
  returned : ∀ result buffer,
    (i3c.readRun bits schedule fuel txQueued rxQueued size).result = some (result, buffer) →
    buffer.length = size.toNat ∧
      buffer ++
          (i3c.readRun bits schedule fuel txQueued rxQueued size).state.device.rx.fifo.entries =
        rxQueued.entries ++
          (i3c.readRun bits schedule fuel txQueued rxQueued size).state.device.rx.entered

/-! ## The bus between two accesses -/

namespace Lines

/-- The bus only takes from the transmit FIFO and only adds to the receive
FIFO. -/
structure Moves (before after : Lines txQueued rxQueued) : Prop where
  txEntered : after.tx.entered = before.tx.entered
  txMisused : after.tx.misused = before.tx.misused
  txLevel : after.tx.level ≤ before.tx.level
  rxLeft : after.rx.left = before.rx.left
  rxMisused : after.rx.misused = before.rx.misused
  rxLevel : before.rx.level ≤ after.rx.level

theorem Moves.refl (lines : Lines txQueued rxQueued) : Moves lines lines :=
  ⟨rfl, rfl, Nat.le_refl _, rfl, rfl, Nat.le_refl _⟩

theorem Moves.trans {first second third : Lines txQueued rxQueued} (left : Moves first second)
    (right : Moves second third) : Moves first third where
  txEntered := right.txEntered.trans left.txEntered
  txMisused := right.txMisused.trans left.txMisused
  txLevel := Nat.le_trans right.txLevel left.txLevel
  rxLeft := right.rxLeft.trans left.rxLeft
  rxMisused := right.rxMisused.trans left.rxMisused
  rxLevel := Nat.le_trans left.rxLevel right.rxLevel

variable (lines : Lines txQueued rxQueued)

theorem step_moves (step : BusStep) : Moves lines (lines.step step) := by
  cases step with
  | drain =>
      rcases lines.tx.collect_keeps with ⟨entered, misused, level⟩
      exact ⟨entered, misused, level, rfl, rfl, Nat.le_refl _⟩
  | fill byte =>
      rcases lines.rx.offer_keeps byte with ⟨left, misused, level⟩
      exact ⟨rfl, rfl, Nat.le_refl _, left, misused, level⟩

theorem happens_moves (steps : List BusStep) : Moves lines (lines.happens steps) := by
  induction steps generalizing lines with
  | nil => exact .refl lines
  | cons first rest ih => exact (lines.step_moves first).trans (ih (lines.step first))

/-- A field is read back through its mask. -/
theorem withField_and {mask field : Word} (inside : field &&& mask = field) (around : Word) :
    withField around mask field &&& mask = field := by
  have cleared : ~~~mask &&& mask = 0#32 := by
    rw [BitVec.and_comm]
    exact BitVec.and_not_self mask
  rw [withField, BitVec.and_or_distrib_right, inside, BitVec.and_assoc, cleared, BitVec.and_zero,
    BitVec.zero_or]

theorem level_and {level : Nat} (bounded : level ≤ 16) :
    BitVec.ofNat 32 level &&& 0x1F = BitVec.ofNat 32 level := by
  apply BitVec.eq_of_toNat_eq
  rw [BitVec.toNat_and, BitVec.toNat_ofNat]
  change _ &&& (2 ^ 5 - 1) = _
  rw [Nat.and_two_pow_sub_one_eq_mod]
  omega

theorem byte_and (byte : Byte) : byte.setWidth 32 &&& (0xFF : Word) = byte.setWidth 32 := by
  have bounded := byte.isLt
  apply BitVec.eq_of_toNat_eq
  rw [BitVec.toNat_and, BitVec.toNat_setWidth]
  change _ &&& (2 ^ 8 - 1) = _
  rw [Nat.and_two_pow_sub_one_eq_mod]
  omega

theorem byte_back (byte : Byte) : (byte.setWidth 32 : Word).setWidth 8 = byte := by
  have bounded := byte.isLt
  apply BitVec.eq_of_toNat_eq
  rw [BitVec.toNat_setWidth, BitVec.toNat_setWidth]
  omega

end Lines

/-! ## Accesses to the controller -/

variable {i3c}
variable (state : Scheduled (List BusStep) (Lines txQueued rxQueued))

/-- The lines when the next access is made. -/
def atAccess : Lines txQueued rxQueued := state.device.happens (state.events 0)

theorem atAccess_moves : Lines.Moves state.device (atAccess state) :=
  state.device.happens_moves _

/-- The state behind an access that leaves the given lines. -/
def behind (lines : Lines txQueued rxQueued) : Scheduled (List BusStep) (Lines txQueued rxQueued) :=
  ⟨fun count => state.events (count + 1), lines⟩

/-- Reading a level takes it from the lines as they are then. -/
theorem run_level {offset : Word} (around : Word) {level : Nat} (bounded : level ≤ 16)
    (looked : i3c.onBus.read state (i3c.reg offset) =
      (Lines.withField around 0x1F (BitVec.ofNat 32 level), behind state (atAccess state))) :
    (i3c.readReg offset >>= fun status => pure (status &&& 0x1F)).run i3c.onBus state =
      ⟨[.read (i3c.reg offset) (Lines.withField around 0x1F (BitVec.ofNat 32 level))],
        BitVec.ofNat 32 level, behind state (atAccess state)⟩ := by
  rw [Program.run_bind, readReg, Program.run_readReg, looked]
  dsimp only
  rw [Lines.withField_and (Lines.level_and bounded)]
  rfl

variable (i3c) in
theorem run_txFifoLevel : ∃ trace, i3c.txFifoLevel.run i3c.onBus state =
    ⟨trace, BitVec.ofNat 32 (atAccess state).tx.level, behind state (atAccess state)⟩ := by
  refine ⟨_, run_level state ((atAccess state).bits (i3c.reg regTxFifoStatus))
    (atAccess state).tx.level_le ?_⟩
  simp only [onBus, Device.scheduled, device, if_true]
  rfl

theorem rx_ne_tx : i3c.reg regRxFifoStatus ≠ i3c.reg regTxFifoStatus := offset_ne _ (by decide)

variable (i3c) in
theorem run_rxFifoLevel : ∃ trace, i3c.rxFifoLevel.run i3c.onBus state =
    ⟨trace, BitVec.ofNat 32 (atAccess state).rx.level, behind state (atAccess state)⟩ := by
  refine ⟨_, run_level state ((atAccess state).bits (i3c.reg regRxFifoStatus))
    (atAccess state).rx.level_le ?_⟩
  simp only [onBus, Device.scheduled, device, rx_ne_tx, if_true, if_false]
  rfl

/-- While the driver polls, only the bus moves. -/
theorem run_wait (poll : Driver Word) (blocked : Word → Bool)
    (ready : Lines txQueued rxQueued → Prop)
    (polls : ∀ later, ∃ trace value,
      poll.run i3c.onBus later = ⟨trace, value, behind later (atAccess later)⟩ ∧
        (blocked value = false → ready (atAccess later))) :
    Lines.Moves state.device
        ((Program.waitWhile poll blocked fuel).run i3c.onBus state).state.device ∧
      (((Program.waitWhile poll blocked fuel).run i3c.onBus state).result = true →
        ready ((Program.waitWhile poll blocked fuel).run i3c.onBus state).state.device) := by
  refine Program.run_waitWhile
    (fun later : Scheduled (List BusStep) (Lines txQueued rxQueued) =>
      Lines.Moves state.device later.device)
    (fun later => ready later.device) ?_ ?_ fuel (.refl _)
  · intro later moved
    rcases polls later with ⟨trace, value, polled, _⟩
    rw [polled]
    exact moved.trans (later.device.happens_moves _)
  · intro later _ free
    rcases polls later with ⟨trace, value, polled, room⟩
    rw [polled] at free ⊢
    exact room free

theorem level_toNat {level : Nat} (bounded : level ≤ 16) :
    (BitVec.ofNat 32 level).toNat = level := by
  rw [BitVec.toNat_ofNat]
  omega

/-- When the driver has waited for space, there is room for a byte. -/
theorem polls_tx (later : Scheduled (List BusStep) (Lines txQueued rxQueued)) :
    ∃ trace value,
      i3c.txFifoLevel.run i3c.onBus later = ⟨trace, value, behind later (atAccess later)⟩ ∧
        (decide (16 ≤ value) = false → (atAccess later).tx.level < 16) := by
  rcases i3c.run_txFifoLevel later with ⟨trace, polled⟩
  refine ⟨trace, _, polled, fun free => ?_⟩
  rw [decide_eq_false_iff_not, BitVec.le_def, level_toNat (atAccess later).tx.level_le] at free
  exact Nat.not_le.mp free

/-- When it has waited for data, there is a byte. -/
theorem polls_rx (later : Scheduled (List BusStep) (Lines txQueued rxQueued)) :
    ∃ trace value,
      i3c.rxFifoLevel.run i3c.onBus later = ⟨trace, value, behind later (atAccess later)⟩ ∧
        (decide (value = 0) = false → 0 < (atAccess later).rx.level) := by
  rcases i3c.run_rxFifoLevel later with ⟨trace, polled⟩
  refine ⟨trace, _, polled, fun free => ?_⟩
  apply Nat.pos_of_ne_zero
  intro none
  rw [none] at free
  cases free

/-! ## Transfers -/

/-- Writing the transmit FIFO puts a byte into it. -/
theorem write_txFifo (byte : Byte) :
    i3c.onBus.write state (i3c.reg regTxFifo) (byte.setWidth 32) =
      behind state { atAccess state with tx := (atAccess state).tx.put byte } := by
  simp only [onBus, Device.scheduled, device, if_true, Lines.byte_back]
  rfl

variable (i3c) in
/-- Reading the receive FIFO takes a byte from it. -/
theorem read_rxFifo {byte : Byte} (oldest : (atAccess state).rx.take.1 = some byte) :
    ((i3c.onBus.read state (i3c.reg regRxFifo)).1 &&& 0xFF).setWidth 8 = byte ∧
      (i3c.onBus.read state (i3c.reg regRxFifo)).2 =
        behind state { atAccess state with rx := (atAccess state).rx.take.2 } := by
  have notTx : i3c.reg regRxFifo ≠ i3c.reg regTxFifoStatus := offset_ne _ (by decide)
  have notRx : i3c.reg regRxFifo ≠ i3c.reg regRxFifoStatus := offset_ne _ (by decide)
  have looked : i3c.onBus.read state (i3c.reg regRxFifo) =
      (Lines.withField ((atAccess state).bits (i3c.reg regRxFifo)) 0xFF (byte.setWidth 32),
        behind state { atAccess state with rx := (atAccess state).rx.take.2 }) := by
    unfold atAccess at oldest ⊢
    simp only [onBus, Device.scheduled, device, if_neg notTx, if_neg notRx, if_true, oldest]
    rfl
  rw [looked]
  refine ⟨?_, rfl⟩
  rw [Lines.withField_and (Lines.byte_and byte), Lines.byte_back]

theorem count_succ (transferred : SizeT) (length : Nat) :
    transferred + 1 + sizeT length = transferred + sizeT (length + 1) := by
  rw [sizeT, sizeT, BitVec.ofNat_add, BitVec.add_assoc, BitVec.add_comm 1]
  rfl

variable (i3c) in
/-- Every byte waits for space and is put behind the bytes before it.  The
induction is on the data; the bus moves before each access. -/
theorem run_writeBytes (data : List Byte) (result : I3cTransferResult)
    (clean : state.device.tx.misused = false) :
    ((i3c.writeBytes fuel data result).run i3c.onBus state).state.device.tx.misused = false ∧
      ∀ final, ((i3c.writeBytes fuel data result).run i3c.onBus state).result = some final →
        ((i3c.writeBytes fuel data result).run i3c.onBus state).state.device.tx.entered =
            state.device.tx.entered ++ data ∧
          final.bytesTransferred = result.bytesTransferred + sizeT data.length := by
  induction data generalizing result state with
  | nil =>
      refine ⟨clean, fun final returned => ?_⟩
      cases returned
      exact ⟨(List.append_nil _).symm, (BitVec.add_zero _).symm⟩
  | cons byte rest ih =>
      rcases run_wait fuel state i3c.txFifoLevel (fun level => 16 ≤ level)
        (fun lines => lines.tx.level < 16) polls_tx with ⟨moved, space⟩
      rw [writeBytes, Program.run_bind]
      generalize (Program.waitWhile i3c.txFifoLevel (fun level => 16 ≤ level) fuel).run
        i3c.onBus state = wait at moved space ⊢
      cases waited : wait.result with
      | false => exact ⟨moved.txMisused.trans clean, fun _ impossible => by cases impossible⟩
      | true =>
          have before := moved.trans (atAccess_moves wait.state)
          have room := Nat.lt_of_le_of_lt (atAccess_moves wait.state).txLevel (space waited)
          rcases Channel.put_room room byte with ⟨entered, _, misused, _⟩
          have later := ih
            (behind wait.state
              { atAccess wait.state with tx := (atAccess wait.state).tx.put byte })
            { result with bytesTransferred := result.bytesTransferred + 1 }
            (misused.trans (before.txMisused.trans clean))
          rw [if_pos rfl, Program.run_bind, writeReg, Program.run_writeReg, write_txFifo]
          refine ⟨later.1, fun final returned => ?_⟩
          rcases later.2 final returned with ⟨written, counted⟩
          refine ⟨written.trans ?_, counted.trans ?_⟩
          · change ((atAccess wait.state).tx.put byte).entered ++ rest = _
            rw [entered, before.txEntered, List.append_assoc]
            rfl
          · exact count_succ result.bytesTransferred rest.length

variable (i3c) in
/-- Every byte waits for data and is taken in order.  The induction is on the
bytes that are still missing. -/
theorem run_readBytes (count : Nat) (buffer : List Byte) (result : I3cTransferResult)
    (clean : state.device.rx.misused = false) :
    ((i3c.readBytes fuel count buffer result).run i3c.onBus state).state.device.rx.misused =
        false ∧
      ∀ final stored, ((i3c.readBytes fuel count buffer result).run i3c.onBus state).result =
          some (final, stored) →
        ∃ bytes, stored = buffer ++ bytes ∧ bytes.length = count ∧
          ((i3c.readBytes fuel count buffer result).run i3c.onBus state).state.device.rx.left =
            state.device.rx.left ++ bytes := by
  induction count generalizing buffer result state with
  | zero =>
      refine ⟨clean, fun final stored returned => ?_⟩
      cases returned
      exact ⟨[], (List.append_nil _).symm, rfl, (List.append_nil _).symm⟩
  | succ count ih =>
      rcases run_wait fuel state i3c.rxFifoLevel (fun level => level = 0)
        (fun lines => 0 < lines.rx.level) polls_rx with ⟨moved, data⟩
      rw [readBytes, Program.run_bind]
      generalize (Program.waitWhile i3c.rxFifoLevel (fun level => level = 0) fuel).run
        i3c.onBus state = wait at moved data ⊢
      cases waited : wait.result with
      | false => exact ⟨moved.rxMisused.trans clean, fun _ _ impossible => by cases impossible⟩
      | true =>
          have before := moved.trans (atAccess_moves wait.state)
          have filled := Nat.lt_of_lt_of_le (data waited) (atAccess_moves wait.state).rxLevel
          rcases Channel.take_some filled with ⟨byte, oldest, left, _, misused, _⟩
          rcases i3c.read_rxFifo wait.state oldest with ⟨value, taken⟩
          have later := ih
            (behind wait.state
              { atAccess wait.state with rx := (atAccess wait.state).rx.take.2 })
            (buffer ++ [byte]) { result with bytesTransferred := result.bytesTransferred + 1 }
            (misused.trans (before.rxMisused.trans clean))
          rw [if_pos rfl, Program.run_bind, readReg, Program.run_readReg, taken]
          dsimp only
          rw [value]
          refine ⟨later.1, fun final stored returned => ?_⟩
          rcases later.2 final stored returned with ⟨bytes, same, length, taken⟩
          refine ⟨byte :: bytes, ?_, congrArg Nat.succ length, taken.trans ?_⟩
          · rw [same, List.append_assoc]
            rfl
          · change (atAccess wait.state).rx.take.2.left ++ bytes = _
            rw [left, before.rxLeft, List.append_assoc]
            rfl

/-! ## Transfers return

A bus that makes its step in every stretch of `fuel` accesses does not keep
the driver waiting for longer. -/

theorem Regular.later {made : BusStep → Prop} {events : Nat → List BusStep}
    (regular : Regular fuel made events) : Regular fuel made (fun count => events (count + 1)) := by
  intro now
  rcases regular (now + 1) with ⟨count, inside, found⟩
  refine ⟨count, inside, ?_⟩
  rw [Nat.add_right_comm] at found
  exact found

/-- What a step establishes and the bus keeps holds behind every list of steps
with such a step. -/
theorem Lines.happens_reaches {made : BusStep → Prop} (reached : Lines txQueued rxQueued → Prop)
    (makes : ∀ lines step, made step → reached (Lines.step lines step))
    (keeps : ∀ before after, Moves before after → reached before → reached after)
    (lines : Lines txQueued rxQueued) {steps : List BusStep} (found : ∃ step ∈ steps, made step) :
    reached (lines.happens steps) := by
  induction steps generalizing lines with
  | nil =>
      rcases found with ⟨_, impossible, _⟩
      cases impossible
  | cons first rest ih =>
      rcases found with ⟨step, member, here⟩
      rcases List.mem_cons.mp member with same | later
      · subst same
        exact keeps _ _ ((lines.step step).happens_moves rest) (makes lines step here)
      · exact ih (lines.step first) ⟨step, later, here⟩

theorem Lines.drained (lines : Lines txQueued rxQueued) {steps : List BusStep}
    (drains : ∃ step ∈ steps, step = .drain) : (lines.happens steps).tx.level < 16 := by
  refine happens_reaches (fun lines => lines.tx.level < 16) ?_ ?_ lines drains
  · intro lines step same
    rw [same]
    exact lines.tx.collect_lt (by decide)
  · intro before after moves room
    exact Nat.lt_of_le_of_lt moves.txLevel room

theorem Lines.filled (lines : Lines txQueued rxQueued) {steps : List BusStep}
    (fills : ∃ step ∈ steps, ∃ byte, step = .fill byte) : 0 < (lines.happens steps).rx.level := by
  refine happens_reaches (fun lines => 0 < lines.rx.level) ?_ ?_ lines fills
  · intro lines step fill
    rcases fill with ⟨byte, same⟩
    rw [same]
    exact lines.rx.offer_pos (by decide) byte
  · intro before after moves available
    exact Nat.lt_of_lt_of_le available moves.rxLevel

/-- Polling a level shifts the schedule by one access. -/
theorem polled_events {poll : Driver Word}
    (polls : ∀ later : Scheduled (List BusStep) (Lines txQueued rxQueued), ∃ trace value,
      poll.run i3c.onBus later = ⟨trace, value, behind later (atAccess later)⟩) (count : Nat) :
    (Program.polled poll i3c.onBus count state).events = fun now => state.events (now + count) := by
  induction count generalizing state with
  | zero => rfl
  | succ count ih =>
      rcases polls state with ⟨trace, value, looked⟩
      rw [Program.polled, ih, looked]
      funext now
      exact congrArg state.events (Nat.add_assoc now count 1)

/-- A wait ends if the steps it waits for keep being made. -/
theorem wait_ends (poll : Driver Word) (blocked : Word → Bool) {made : BusStep → Prop}
    (polls : ∀ later : Scheduled (List BusStep) (Lines txQueued rxQueued), ∃ trace value,
      poll.run i3c.onBus later = ⟨trace, value, behind later (atAccess later)⟩ ∧
        ((∃ step ∈ later.events 0, made step) → blocked value = false))
    (regular : Regular fuel made state.events) :
    ((Program.waitWhile poll blocked fuel).run i3c.onBus state).result = true ∧
      Regular fuel made
        ((Program.waitWhile poll blocked fuel).run i3c.onBus state).state.events := by
  have looks : ∀ later : Scheduled (List BusStep) (Lines txQueued rxQueued), ∃ trace value,
      poll.run i3c.onBus later = ⟨trace, value, behind later (atAccess later)⟩ := by
    intro later
    rcases polls later with ⟨trace, value, looked, _⟩
    exact ⟨trace, value, looked⟩
  constructor
  · rcases regular 0 with ⟨count, inside, found⟩
    refine (Program.waitWhile_ends_iff fuel state).mpr ⟨count, inside, ?_⟩
    rcases polls (Program.polled poll i3c.onBus count state) with ⟨trace, value, looked, free⟩
    rw [looked]
    apply free
    rw [polled_events state looks]
    exact found
  · refine (Program.run_waitWhile
      (fun later : Scheduled (List BusStep) (Lines txQueued rxQueued) =>
        Regular fuel made later.events) (fun _ => True) ?_ (fun _ _ _ => trivial) fuel
      regular).1
    intro later holds
    rcases looks later with ⟨trace, value, looked⟩
    rw [looked]
    exact Regular.later fuel holds

variable (i3c) in
theorem writeBytes_returns (data : List Byte) (result : I3cTransferResult)
    (drains : Regular fuel (fun step => step = .drain) state.events) :
    ∃ final, ((i3c.writeBytes fuel data result).run i3c.onBus state).result = some final := by
  induction data generalizing result state with
  | nil => exact ⟨result, rfl⟩
  | cons byte rest ih =>
      have ends := wait_ends fuel state i3c.txFifoLevel (fun level => 16 ≤ level)
        (fun later => by
          rcases i3c.run_txFifoLevel later with ⟨trace, looked⟩
          refine ⟨trace, _, looked, fun found => ?_⟩
          rw [decide_eq_false_iff_not, BitVec.le_def, level_toNat (atAccess later).tx.level_le]
          exact Nat.not_le.mpr (later.device.drained found)) drains
      rw [writeBytes, Program.run_bind, if_pos ends.1, Program.run_bind, writeReg,
        Program.run_writeReg]
      exact ih _ _ (Regular.later fuel ends.2)

variable (i3c) in
theorem readBytes_returns (count : Nat) (buffer : List Byte) (result : I3cTransferResult)
    (fills : Regular fuel (fun step => ∃ byte, step = .fill byte) state.events) :
    ∃ final, ((i3c.readBytes fuel count buffer result).run i3c.onBus state).result =
      some final := by
  induction count generalizing buffer result state with
  | zero => exact ⟨(result, buffer), rfl⟩
  | succ count ih =>
      have ends := wait_ends fuel state i3c.rxFifoLevel (fun level => level = 0)
        (fun later => by
          rcases i3c.run_rxFifoLevel later with ⟨trace, looked⟩
          refine ⟨trace, _, looked, fun found => ?_⟩
          rw [decide_eq_false_iff_not]
          intro none
          have level := level_toNat (atAccess later).rx.level_le
          rw [none] at level
          exact Nat.ne_of_lt (later.device.filled found) level) fills
      rw [readBytes, Program.run_bind, if_pos ends.1, Program.run_bind, readReg,
        Program.run_readReg]
      exact ih _ _ _ (Regular.later fuel ends.2)

/-- Transfers in both directions are ordered and lossless, however the bus
moves between the accesses, and return if it moves often enough. -/
theorem transfers_in_order (txQueued rxQueued : Fifo Byte 16) (data : List Byte) (size : SizeT) :
    i3c.WritesInOrder bits schedule fuel txQueued rxQueued data ∧
      i3c.ReadsInOrder bits schedule fuel txQueued rxQueued size := by
  have written := i3c.run_writeBytes fuel
    ⟨schedule, Lines.start txQueued rxQueued bits⟩ data ⟨0, true, 0⟩ rfl
  have filled := i3c.run_readBytes fuel
    ⟨schedule, Lines.start txQueued rxQueued bits⟩ size.toNat [] ⟨0, true, 0⟩ rfl
  constructor
  · refine ⟨written.1, fun drains => ?_, fun result returned => ?_⟩
    · exact i3c.writeBytes_returns fuel ⟨schedule, .start txQueued rxQueued bits⟩ data
        ⟨0, true, 0⟩ drains
    · rcases written.2 result returned with ⟨entered, counted⟩
      refine ⟨?_, counted.trans (BitVec.zero_add _)⟩
      rw [Channel.ordered]
      exact congrArg _ entered
  · refine ⟨filled.1, fun fills => ?_, fun result buffer returned => ?_⟩
    · exact i3c.readBytes_returns fuel ⟨schedule, .start txQueued rxQueued bits⟩ size.toNat []
        ⟨0, true, 0⟩ fills
    · rcases filled.2 result buffer returned with ⟨bytes, same, length, left⟩
      rw [List.nil_append] at same
      subst same
      refine ⟨length, ?_⟩
      rw [← Channel.ordered]
      exact congrArg (· ++ _) left.symm

/-- A bus that drains a byte and fills in a 7 before every access. -/
def busyBus : Nat → List BusStep := fun _ => [.drain, .fill 7]

/-- A FIFO in which a 9 is queued. -/
def oneQueued : Fifo Byte 16 := ⟨[9], by decide⟩

/-- On this bus two bytes are written and two are read, and no wait takes more
than one poll. -/
theorem transfers_in_order_busyBus :
    (∃ result,
      ((⟨0⟩ : I3c).writeRun (fun _ => 0) busyBus 1 oneQueued oneQueued [1, 2]).result =
        some result ∧ result.bytesTransferred = 2) ∧
    ((⟨0⟩ : I3c).writeRun (fun _ => 0) busyBus 1 oneQueued oneQueued [1, 2]).state.device.tx.left ++
        ((⟨0⟩ : I3c).writeRun (fun _ => 0) busyBus 1 oneQueued oneQueued
          [1, 2]).state.device.tx.fifo.entries = [9, 1, 2] ∧
    ∃ result buffer,
      ((⟨0⟩ : I3c).readRun (fun _ => 0) busyBus 1 oneQueued oneQueued 2).result =
        some (result, buffer) ∧ buffer.length = 2 := by
  have inOrder := @transfers_in_order ⟨0⟩ (fun _ => 0) busyBus 1 oneQueued oneQueued [1, 2] 2
  rcases inOrder.1.returns fun now => ⟨0, Nat.one_pos, .drain, List.mem_cons_self, rfl⟩ with
    ⟨result, written⟩
  rcases inOrder.2.returns fun now =>
      ⟨0, Nat.one_pos, .fill 7, List.mem_cons_of_mem _ List.mem_cons_self, 7, rfl⟩ with
    ⟨⟨other, buffer⟩, filled⟩
  rcases inOrder.1.returned result written with ⟨bytes, counted⟩
  exact ⟨⟨result, written, counted⟩, bytes, other, buffer, filled,
    (inOrder.2.returned other buffer filled).1⟩

end I3c

end McuRom
