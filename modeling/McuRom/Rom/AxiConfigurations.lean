import Mathlib.Data.List.Nodup
import McuRom.Mmio.WriteOnce
import McuRom.Rom.SocBlocks

namespace McuRom

open Mmio

/-!
# Configuring the AXI users more than once

`set_axi_users` writes each user before it locks it, so that whoever comes
first has settled a register for all later configurations.  Only the DMA user
has no lock and follows the last one.
-/

/-- The users with a register and a lock. -/
inductive AxiUser where
  | mbox (index : Fin 5)
  | fuse
  | trng
deriving DecidableEq, Repr

namespace AxiUser

def all : List AxiUser := (List.finRange 5).map mbox ++ [fuse, trng]

def userReg : AxiUser → Word
  | mbox index => socInterface.reg (Soc.cptraMboxValidAxiUserBase + sizeT index * 4)
  | fuse => socInterface.reg Soc.cptraFuseValidAxiUser
  | trng => socInterface.reg Soc.cptraTrngValidAxiUser

def lockReg : AxiUser → Word
  | mbox index => socInterface.reg (Soc.cptraMboxAxiUserLockBase + sizeT index * 4)
  | fuse => socInterface.reg Soc.cptraFuseAxiUserLock
  | trng => socInterface.reg Soc.cptraTrngAxiUserLock

/-- The value a configuration has for a user. -/
def supplied : AxiUser → AxiUsers → Option Word
  | mbox index, users => users.mboxUsers index
  | fuse, users => some users.fuseUser
  | trng, users => some users.trngUser

end AxiUser

/-- The register of the DMA user, which has no lock. -/
def dmaReg : Word := socInterface.reg Soc.ssCaliptraDmaAxiUser

/-- Each user's lock register protects its register. -/
def socLocks : LockMap Word where
  isLock addr := AxiUser.all.any fun user => user.lockReg == addr
  lockOf addr := (AxiUser.all.find? fun user => user.userReg == addr).map AxiUser.lockReg

/-- The registers of the SoC interface, with locks that are set by a one, and
an arbitrary device on the rest of the bus. -/
def lockableSoc {τ : Type} (others : Device Word Word τ) :
    Device Word Word ((Word → Word) × τ) :=
  Device.route isSoc (Device.writeOnce socLocks 1) others

/-- Configurations one after the other. -/
def setAllAxiUsers (globals : Globals) : List AxiUsers → Driver (Except Halt Unit)
  | [] => pure (.ok ())
  | users :: later =>
    Driver.unlessHalted (socInterface.setAxiUsers globals users) (setAllAxiUsers globals later)

/-- A locked user is as before.  Any other user is the given one and locked,
or as before and not locked if there is none. -/
def AxiUser.SettledBy (user : AxiUser) (before after : Word → Word) (value : Option Word) : Prop :=
  (before user.lockReg = 1 →
    after user.userReg = before user.userReg ∧ after user.lockReg = 1) ∧
  (before user.lockReg ≠ 1 →
    match value with
    | some value => after user.userReg = value ∧ after user.lockReg = 1
    | none => after user.userReg = before user.userReg ∧ after user.lockReg = before user.lockReg)

/-- The first configuration that has a value for a user decides about it, and
the last configuration about the DMA user; no other register changes. -/
structure FirstWins (before : Word → Word) (first : AxiUsers) (later : List AxiUsers)
    {τ : Type} (run : Run Word Word ((Word → Word) × τ) (Except Halt Unit)) : Prop where
  completes : run.result = .ok ()
  mbox : ∀ index : Fin 5, (AxiUser.mbox index).SettledBy before run.state.1
    ((first :: later).findSome? fun users => users.mboxUsers index)
  fuse : AxiUser.fuse.SettledBy before run.state.1 (some first.fuseUser)
  trng : AxiUser.trng.SettledBy before run.state.1 (some first.trngUser)
  dma : run.state.1 dmaReg = (later.getLastD first).dmaUser
  unchanged : ∀ addr, (∀ user : AxiUser, addr ≠ user.userReg ∧ addr ≠ user.lockReg) →
    addr ≠ dmaReg → run.state.1 addr = before addr

/-! ## The registers -/

namespace AxiUser

theorem mem_all (user : AxiUser) : user ∈ all := by
  cases user with
  | mbox index =>
      exact List.mem_append_left _ (List.mem_map_of_mem (List.mem_finRange index))
  | fuse => decide
  | trng => decide

theorem nodup_all : all.Nodup := by decide

/-- The fifteen registers are fifteen addresses. -/
theorem nodup_regs : (all.map userReg ++ all.map lockReg ++ [dmaReg]).Nodup := by decide

theorem userReg_inj {first second : AxiUser} (same : first.userReg = second.userReg) :
    first = second := by
  have users := (List.nodup_append.mp (List.nodup_append.mp nodup_regs).1).1
  exact List.inj_on_of_nodup_map users first.mem_all second.mem_all same

theorem lockReg_inj {first second : AxiUser} (same : first.lockReg = second.lockReg) :
    first = second := by
  have locks := (List.nodup_append.mp (List.nodup_append.mp nodup_regs).1).2.1
  exact List.inj_on_of_nodup_map locks first.mem_all second.mem_all same

theorem userReg_ne_lockReg (first second : AxiUser) : first.userReg ≠ second.lockReg :=
  (List.nodup_append.mp (List.nodup_append.mp nodup_regs).1).2.2 _
    (List.mem_map_of_mem first.mem_all) _ (List.mem_map_of_mem second.mem_all)

theorem regs_ne_dmaReg (user : AxiUser) : user.userReg ≠ dmaReg ∧ user.lockReg ≠ dmaReg := by
  have apart := (List.nodup_append.mp nodup_regs).2.2
  constructor
  · exact apart _ (List.mem_append_left _ (List.mem_map_of_mem user.mem_all)) _
      (List.mem_singleton_self _)
  · exact apart _ (List.mem_append_right _ (List.mem_map_of_mem user.mem_all)) _
      (List.mem_singleton_self _)

theorem isSoc_regs (user : AxiUser) : isSoc user.userReg = true ∧ isSoc user.lockReg = true := by
  cases user with
  | mbox index =>
      revert index
      decide
  | fuse => decide
  | trng => decide

theorem lockOf_regs (user : AxiUser) :
    socLocks.lockOf user.userReg = some user.lockReg ∧ socLocks.lockOf user.lockReg = none ∧
      socLocks.isLock user.lockReg = true := by
  cases user with
  | mbox index =>
      revert index
      decide
  | fuse => decide
  | trng => decide

end AxiUser

/-! ## One configuration as a list of writes -/

namespace AxiUser

/-- What a configuration writes for a user. -/
def writes (users : AxiUsers) (user : AxiUser) : List (Word × Word) :=
  match user.supplied users with
  | none => []
  | some value => [(user.userReg, value), (user.lockReg, 1)]

end AxiUser

/-- What a configuration writes to the SoC interface. -/
def AxiUsers.writes (users : AxiUsers) : List (Word × Word) :=
  AxiUser.all.flatMap (AxiUser.writes users) ++ [(dmaReg, users.dmaUser)]

section Runs

variable {τ : Type} (others : Device Word Word τ)

/-- The program comes to its end, and what it does to the SoC interface is to
write these registers in order. -/
def Configures (program : Driver (Except Halt Unit)) (writes : List (Word × Word)) : Prop :=
  ∀ (file : Word → Word) (rest : τ),
    (program.run (lockableSoc others) (file, rest)).result = .ok () ∧
      (program.run (lockableSoc others) (file, rest)).state.1 =
        (Device.writeOnce socLocks 1).writeAll file writes

variable {others} {program : Driver (Except Halt Unit)} {writes : List (Word × Word)}

variable (others) in
theorem configures_done : Configures others (pure (.ok ())) [] := fun _ _ => ⟨rfl, rfl⟩

/-- Console output goes elsewhere. -/
theorem Configures.console (configures : Configures others program writes)
    (gWriter : Option Writer) (chars : List Char) :
    Configures others (Program.writeAll (uartWrites gWriter chars) >>= fun () => program)
      writes := by
  intro file rest
  have aside := Program.run_route_right (Device.writeOnce socLocks 1) others
    (SocSetter.within_print gWriter chars) (file, rest)
  rw [Program.run_bind, lockableSoc, aside]
  exact configures file _

theorem Configures.println (configures : Configures others program writes)
    (gWriter : Option Writer) (str : String) :
    Configures others (println gWriter str >>= fun () => program) writes := by
  rw [println_eq]
  exact configures.console gWriter _

theorem Configures.print (configures : Configures others program writes)
    (gWriter : Option Writer) (str : String) :
    Configures others (print gWriter str >>= fun () => program) writes := by
  rw [print_eq]
  exact configures.console gWriter _

theorem Configures.write {addr : Word} (inSoc : isSoc addr = true) (value : Word)
    (configures : Configures others program writes) :
    Configures others (Program.writeReg addr value >>= fun () => program)
      ((addr, value) :: writes) := by
  intro file rest
  have written := Device.route_write_left isSoc (Device.writeOnce socLocks 1) others inSoc
    (file, rest) value
  rw [Program.run_bind, Program.run_writeReg, lockableSoc, written, Device.writeAll_cons]
  exact configures _ rest

theorem Configures.unlessHalted {next : Driver (Except Halt Unit)} {later : List (Word × Word)}
    (configures : Configures others program writes) (continues : Configures others next later) :
    Configures others (Driver.unlessHalted program next) (writes ++ later) := by
  intro file rest
  rcases configures file rest with ⟨result, state⟩
  rcases continues (program.run (lockableSoc others) (file, rest)).state.1
    (program.run (lockableSoc others) (file, rest)).state.2 with ⟨finalResult, finalState⟩
  rw [Driver.unlessHalted, Program.run_bind, result, Device.writeAll_append, ← state]
  exact ⟨finalResult, finalState⟩

/-- An index of the array is an index of the block. -/
theorem configures_setAxiUserBlock (globals : Globals) {base : Word} {index : Fin 5}
    (inSoc : isSoc (socInterface.reg (base + sizeT index * 4)) = true) (value : Word) :
    Configures others (socInterface.setAxiUserBlock globals base (sizeT index) value)
      [(socInterface.reg (base + sizeT index * 4), value)] := by
  have small : ∀ slot : Fin 5, ¬ 5 ≤ sizeT slot := by decide
  rw [Soc.setAxiUserBlock, if_neg (small index)]
  exact (configures_done others).write inSoc value

variable (others) in
theorem configures_setMboxUsers (globals : Globals) (users : AxiUsers) (slots : List (Fin 5)) :
    Configures others (socInterface.setMboxUsers globals users.mboxUsers slots)
      ((slots.map AxiUser.mbox).flatMap (AxiUser.writes users)) := by
  induction slots with
  | nil => exact configures_done others
  | cons index rest ih =>
      rw [Soc.setMboxUsers, List.map_cons, List.flatMap_cons, AxiUser.writes, AxiUser.supplied]
      cases users.mboxUsers index with
      | none => exact ih
      | some user =>
          have registers := (AxiUser.mbox index).isSoc_regs
          have locks := (configures_setAxiUserBlock globals registers.2 1).unlessHalted ih
          exact ((configures_setAxiUserBlock globals registers.1 user).unlessHalted
            (locks.println _ _)).print _ _

variable (others) in
theorem configures_setAxiUsers (globals : Globals) (users : AxiUsers) :
    Configures others (socInterface.setAxiUsers globals users) users.writes := by
  have list : users.writes = ((List.finRange 5).map AxiUser.mbox).flatMap (AxiUser.writes users) ++
      [(AxiUser.fuse.userReg, users.fuseUser), (AxiUser.fuse.lockReg, 1),
        (AxiUser.trng.userReg, users.trngUser), (AxiUser.trng.lockReg, 1),
        (dmaReg, users.dmaUser)] := by
    rw [AxiUsers.writes, AxiUser.all, List.flatMap_append, List.append_assoc]
    rfl
  have dma := (configures_done others).write (show isSoc dmaReg = true by decide) users.dmaUser
  have trngLock := (dma.println globals.gWriter "[mcu-rom] Setting DMA user").write
    AxiUser.trng.isSoc_regs.2 1
  have trng := (trngLock.println globals.gWriter "[mcu-rom] Locking TRNG user").write
    AxiUser.trng.isSoc_regs.1 users.trngUser
  have fuseLock := (trng.println globals.gWriter "[mcu-rom] Setting TRNG user").write
    AxiUser.fuse.isSoc_regs.2 1
  have fuse := (fuseLock.println globals.gWriter "[mcu-rom] Locking fuse user").write
    AxiUser.fuse.isSoc_regs.1 users.fuseUser
  rw [list]
  exact (configures_setMboxUsers others globals users (List.finRange 5)).unlessHalted
    (fuse.println globals.gWriter "[mcu-rom] Setting fuse user")

variable (others) in
theorem configures_setAllAxiUsers (globals : Globals) (calls : List AxiUsers) :
    Configures others (setAllAxiUsers globals calls) (calls.flatMap AxiUsers.writes) := by
  induction calls with
  | nil => exact configures_done others
  | cons users later ih => exact (configures_setAxiUsers others globals users).unlessHalted ih

end Runs

/-! ## What the writes settle -/

section Writes

variable (file : Word → Word)

/-- The registers of a user. -/
def AxiUser.cell (user : AxiUser) : Word × Word := (file user.userReg, file user.lockReg)

/-- The SoC interface after writes. -/
def afterWrites (writes : List (Word × Word)) : Word → Word :=
  (Device.writeOnce socLocks 1).writeAll file writes

theorem afterWrites_append (first second : List (Word × Word)) :
    afterWrites file (first ++ second) = afterWrites (afterWrites file first) second :=
  Device.writeAll_append ..

namespace AxiUser

theorem mem_writes {users : AxiUsers} {user : AxiUser} {entry : Word × Word}
    (member : entry ∈ user.writes users) : entry.1 = user.userReg ∨ entry.1 = user.lockReg := by
  unfold writes at member
  cases supply : user.supplied users with
  | none =>
      rw [supply] at member
      cases member
  | some value =>
      rw [supply] at member
      rcases List.mem_pair.mp member with rfl | rfl
      · exact Or.inl rfl
      · exact Or.inr rfl

/-- The writes for a user settle its registers with the value it is given. -/
theorem cell_writes_self (users : AxiUsers) (user : AxiUser) :
    user.cell (afterWrites file (user.writes users)) =
      settle 1 (user.cell file) (user.supplied users) := by
  unfold writes
  cases user.supplied users with
  | none => rfl
  | some value =>
      rcases user.lockOf_regs with ⟨owned, noLock, isLock⟩
      exact Device.writeOnce_settles owned noLock isLock (userReg_ne_lockReg user user) value

/-- They do not reach the registers of another one. -/
theorem cell_writes_of_ne (users : AxiUsers) {user other : AxiUser} (different : user ≠ other) :
    user.cell (afterWrites file (other.writes users)) = user.cell file := by
  have userReg := @Device.writeOnce_writeAll_of_ne Word Word _ _ socLocks 1 file user.userReg
    (other.writes users) (by
      intro entry member same
      rcases mem_writes member with isUser | isLock
      · exact different (userReg_inj (same.trans isUser))
      · exact userReg_ne_lockReg user other (same.trans isLock))
  have lockReg := @Device.writeOnce_writeAll_of_ne Word Word _ _ socLocks 1 file user.lockReg
    (other.writes users) (by
      intro entry member same
      rcases mem_writes member with isUser | isLock
      · exact userReg_ne_lockReg other user (same.trans isUser).symm
      · exact different (lockReg_inj (same.trans isLock)))
  exact Prod.ext userReg lockReg

/-- Among the users of a list, each is settled by its own writes. -/
theorem cell_flatMap (users : AxiUsers) (user : AxiUser) {list : List AxiUser}
    (nodup : list.Nodup) :
    user.cell (afterWrites file (list.flatMap (writes users))) =
      if user ∈ list then settle 1 (user.cell file) (user.supplied users) else user.cell file := by
  induction list generalizing file with
  | nil => rfl
  | cons head tail ih =>
      have parts := List.nodup_cons.mp nodup
      rw [List.flatMap_cons, afterWrites_append, ih _ parts.2]
      by_cases same : user = head
      · subst same
        rw [if_neg parts.1, if_pos List.mem_cons_self, cell_writes_self]
      · have membership : user ∈ head :: tail ↔ user ∈ tail := by
          rw [List.mem_cons, or_iff_right same]
        rw [cell_writes_of_ne file users same, if_congr membership rfl rfl]

theorem cell_configuration (users : AxiUsers) (user : AxiUser) :
    user.cell (afterWrites file users.writes) =
      settle 1 (user.cell file) (user.supplied users) := by
  have settled := cell_flatMap file users user nodup_all
  have apart := user.regs_ne_dmaReg
  rw [if_pos user.mem_all] at settled
  rw [AxiUsers.writes, afterWrites_append, ← settled]
  generalize afterWrites file (all.flatMap (writes users)) = middle
  change ((Device.writeOnce socLocks 1).write middle dmaReg _ user.userReg,
    (Device.writeOnce socLocks 1).write middle dmaReg _ user.lockReg) = _
  rw [Device.writeOnce_write_of_ne apart.1, Device.writeOnce_write_of_ne apart.2]
  rfl

theorem cell_configurations (user : AxiUser) (calls : List AxiUsers) :
    user.cell (afterWrites file (calls.flatMap AxiUsers.writes)) =
      (calls.map user.supplied).foldl (settle 1) (user.cell file) := by
  induction calls generalizing file with
  | nil => rfl
  | cons users later ih =>
      rw [List.flatMap_cons, afterWrites_append, ih, cell_configuration, List.map_cons,
        List.foldl_cons]

theorem settledBy_configurations (user : AxiUser) (calls : List AxiUsers) :
    user.SettledBy file (afterWrites file (calls.flatMap AxiUsers.writes))
      (calls.findSome? user.supplied) := by
  have cells := cell_configurations file user calls
  have found : (calls.map user.supplied).findSome? id = calls.findSome? user.supplied := by
    rw [List.findSome?_map]
    rfl
  constructor
  · intro isLocked
    rw [foldl_settle_locked (show (user.cell file).2 = 1 from isLocked)] at cells
    exact ⟨congrArg Prod.fst cells, (congrArg Prod.snd cells).trans isLocked⟩
  · intro isOpen
    rw [foldl_settle_open (show (user.cell file).2 ≠ 1 from isOpen), found] at cells
    cases first : calls.findSome? user.supplied with
    | none =>
        rw [first] at cells
        exact ⟨congrArg Prod.fst cells, congrArg Prod.snd cells⟩
    | some value =>
        rw [first] at cells
        exact ⟨congrArg Prod.fst cells, congrArg Prod.snd cells⟩

end AxiUser

/-- The DMA user has no lock, and is no lock. -/
theorem dma_configuration (users : AxiUsers) :
    afterWrites file users.writes dmaReg = users.dmaUser := by
  have written := @Device.writeOnce_write_free Word Word _ _ socLocks 1
    (afterWrites file (AxiUser.all.flatMap (AxiUser.writes users))) dmaReg (by decide) (by decide)
    users.dmaUser
  have last := congrFun written dmaReg
  rw [Function.update_self] at last
  rw [AxiUsers.writes, afterWrites_append]
  exact last

theorem dma_configurations (first : AxiUsers) (later : List AxiUsers) :
    afterWrites file ((first :: later).flatMap AxiUsers.writes) dmaReg =
      (later.getLastD first).dmaUser := by
  induction later generalizing file first with
  | nil =>
      rw [List.flatMap_cons, List.flatMap_nil, List.append_nil, dma_configuration]
      rfl
  | cons next rest ih =>
      rw [List.flatMap_cons, afterWrites_append, ih, List.getLastD_cons]

theorem unchanged_configurations (calls : List AxiUsers) {addr : Word}
    (noUser : ∀ user : AxiUser, addr ≠ user.userReg ∧ addr ≠ user.lockReg) (noDma : addr ≠ dmaReg) :
    afterWrites file (calls.flatMap AxiUsers.writes) addr = file addr := by
  apply Device.writeOnce_writeAll_of_ne
  intro entry member same
  rcases List.mem_flatMap.mp member with ⟨users, _, inside⟩
  rcases List.mem_append.mp inside with forUser | forDma
  · rcases List.mem_flatMap.mp forUser with ⟨user, _, written⟩
    rcases AxiUser.mem_writes written with isUser | isLock
    · exact (noUser user).1 (same.trans isUser)
    · exact (noUser user).2 (same.trans isLock)
  · rw [List.mem_singleton.mp forDma] at same
    exact noDma same

end Writes

/-- Whatever the registers held, the first configuration wins. -/
theorem setAllAxiUsers_firstWins {τ : Type} (others : Device Word Word τ) (globals : Globals)
    (first : AxiUsers) (later : List AxiUsers) (file : Word → Word) (rest : τ) :
    FirstWins file first later
      ((setAllAxiUsers globals (first :: later)).run (lockableSoc others) (file, rest)) := by
  rcases configures_setAllAxiUsers others globals (first :: later) file rest with ⟨result, state⟩
  have settled (user : AxiUser) := user.settledBy_configurations file (first :: later)
  unfold afterWrites at settled
  rw [← state] at settled
  constructor
  · exact result
  · exact fun index => settled (.mbox index)
  · exact settled .fuse
  · exact settled .trng
  · rw [state]
    exact dma_configurations file first later
  · intro addr noUser noDma
    rw [state]
    exact unchanged_configurations file (first :: later) noUser noDma

end McuRom
