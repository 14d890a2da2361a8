import McuRom.Rom.AxiUsers

namespace McuRom

open Mmio

/-!
# What the mailbox user check says

Configuring and then verifying succeeds exactly when no lock that was already
set contradicts the users asked for.  The verification looks at the slots that
the ROM's arrays have, five in each mailbox; the driver exposes eight, and the
other three may hold anything.
-/

variable (gWriter : Option Writer)

/-! ## Configure, then verify -/

/-- `verify_mcu_mbox_axi_users(mci, configure_mcu_mbox_axi_users(mci, u0, u1))` -/
def configureAndVerify (mbox0Users mbox1Users : MboxArray Word) : Driver (McuResult Unit) := do
  let config ← configureMcuMboxAxiUsers gWriter romEnv.mci mbox0Users mbox1Users
  verifyMcuMboxAxiUsers gWriter romEnv.mci config

/-- A slot can take what it is strapped with: it is unlocked, or it has to be
configured and already holds the user. -/
def Accepts (user : Word) (slot : Word × Bool) : Prop :=
  if user ≠ 0 then slot.2 = false ∨ slot.1 = user else slot.2 = false

/-- A slot that was configured passes its check exactly if it could take its
user. -/
theorem slotMatches_configured (user : Word) (slot : Word × Bool) :
    SlotMatches (if user ≠ 0 then some user else none) (if user ≠ 0 then true else false)
        (if user ≠ 0 then configureSlot user slot else slot) ↔ Accepts user slot := by
  by_cases used : user ≠ 0
  · rw [Accepts, if_pos used, if_pos used, if_pos used, if_pos used, SlotMatches, configureSlot]
    constructor
    · rintro ⟨held, _⟩
      cases locked : slot.2 with
      | true =>
          rw [locked, if_pos rfl] at held
          exact Or.inr (held user rfl)
      | false => exact Or.inl rfl
    · intro accepts
      refine ⟨?_, rfl⟩
      rintro value ⟨⟩
      rcases accepts with free | held
      · rw [free, if_neg Bool.false_ne_true]
      · rw [held, ite_self]
  · rw [Accepts, if_neg used, if_neg used, if_neg used, if_neg used, SlotMatches]
    constructor
    · intro both
      exact both.2
    · intro free
      refine ⟨?_, free⟩
      intro value impossible
      cases impossible

/-- The round trip succeeds exactly if every slot could take its user. -/
theorem configureAndVerify_ok_iff (mbox0Users mbox1Users : MboxArray Word) (state : HardwareState) :
    ((configureAndVerify gWriter mbox0Users mbox1Users).run lockableMci state).result = .ok () ↔
      ∀ slot : Slot, Accepts (strapped mbox0Users mbox1Users slot) (slotView state.1 slot) := by
  rcases run_configureMcuMboxAxiUsers gWriter mbox0Users mbox1Users state with ⟨users, locks, view⟩
  rw [configureAndVerify, Program.run_bind, Run.after_result,
    (decides_verifyMcuMboxAxiUsers _ gWriter _).ok_iff]
  apply forall_congr'
  intro slot
  rw [users slot, locks slot, view slot]
  exact slotMatches_configured _ _

/-! ## What the check looks at -/

namespace McuMboxAxiUserConfig

variable (expected : McuMboxAxiUserConfig)

/-- The user expected of a slot; slots beyond the arrays are not configured. -/
def userAt (mbox : Mbox) (index : Nat) : Option Word :=
  if inside : index < mcuMboxUsers then expected.users (mbox, ⟨index, inside⟩) else none

/-- The lock expected of a slot; slots beyond the arrays are unlocked. -/
def lockAt (mbox : Mbox) (index : Nat) : Bool :=
  if inside : index < mcuMboxUsers then expected.locks (mbox, ⟨index, inside⟩) else false

/-- In both mailboxes, the slots below `count` are as the configuration says. -/
def Covers (regs : Word → Word) (count : Nat) : Prop :=
  ∀ (mbox : Mbox) (index : Nat), index < count →
    SlotMatches (expected.userAt mbox index) (expected.lockAt mbox index)
      (regs (mbox.userReg index), Device.lockBit (regs (mbox.lockReg index)))

/-- The verifier accepts exactly if the slots of its arrays are as they
should be. -/
theorem verify_ok_iff_covers (state : HardwareState) :
    ((verifyMcuMboxAxiUsers gWriter romEnv.mci expected).run lockableMci state).result = .ok () ↔
      expected.Covers state.1 mcuMboxUsers := by
  rw [(decides_verifyMcuMboxAxiUsers state gWriter expected).ok_iff]
  constructor
  · intro all mbox index inside
    have slot := all (mbox, ⟨index, inside⟩)
    rw [userAt, lockAt, dif_pos inside, dif_pos inside]
    exact slot
  · rintro covers ⟨mbox, i⟩
    have slot := covers mbox i i.isLt
    rw [userAt, lockAt, dif_pos i.isLt, dif_pos i.isLt] at slot
    exact slot

/-- Slot 5 is exposed by the driver.  Locked under an empty configuration it
passes the check. -/
theorem verify_misses_slot :
    let empty : McuMboxAxiUserConfig :=
      ⟨fun _ => none, fun _ => none, fun _ => false, fun _ => false⟩
    let tampered : Word → Word := fun addr => if addr = Mbox.mbox0.lockReg 5 then 1 else 0
    ((verifyMcuMboxAxiUsers none romEnv.mci empty).run lockableMci (tampered, fun _ _ => 0)).result =
        .ok () ∧
      ¬ empty.Covers tampered Mci.mboxAxiUserLen.toNat := by
  intro empty tampered
  constructor
  · rw [(decides_verifyMcuMboxAxiUsers _ none empty).ok_iff]
    have unlocked : ∀ slot : Slot, (slotView tampered slot).2 = false := by
      rintro ⟨mbox, i⟩
      revert i
      cases mbox <;> decide
    rintro ⟨mbox, i⟩
    refine ⟨?_, ?_⟩
    · cases mbox <;> (intro value impossible; cases impossible)
    · rw [unlocked]
      cases mbox <;> rfl
  · intro covers
    have slot := covers .mbox0 5 (by decide)
    exact absurd slot.2 (by decide)

end McuMboxAxiUserConfig

end McuRom
