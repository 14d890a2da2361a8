import McuRom.Common.Types

namespace McuRom

open Mmio

/-!
# Error codes and results

`McuError` lists the codes of `error.hpp` with their numeric values; the
numbers are what a fatal error writes to hardware.  `McuResult` is the result
type drivers return.
-/

/-- MCU Error codes -/
inductive McuError where
  | success
  | genericException | invalidParameter | timeout | notSupported
  | lcInvalidState | lcTransitionFailed
  | otpReadError | otpWriteError | otpLocked
  | flashReadError | flashWriteError | flashEraseError | flashInvalidAddress
  | imageInvalidSignature | imageInvalidManifest | imageVerificationFailed
  | mboxLockFailed | mboxTimeout | mboxCmdFailed | mboxInvalidResponse
  | i3cInitFailed | i3cTransferFailed
  | bootFailed | bootInvalidResetReason
deriving DecidableEq, Repr

namespace McuError

/-- The enumerator's value, `static_cast<std::uint32_t>(error)`. -/
def code : McuError → Word
  | success => 0
  | genericException => 0x0001
  | invalidParameter => 0x0002
  | timeout => 0x0003
  | notSupported => 0x0004
  | lcInvalidState => 0x0100
  | lcTransitionFailed => 0x0101
  | otpReadError => 0x0200
  | otpWriteError => 0x0201
  | otpLocked => 0x0202
  | flashReadError => 0x0300
  | flashWriteError => 0x0301
  | flashEraseError => 0x0302
  | flashInvalidAddress => 0x0303
  | imageInvalidSignature => 0x0400
  | imageInvalidManifest => 0x0401
  | imageVerificationFailed => 0x0402
  | mboxLockFailed => 0x0500
  | mboxTimeout => 0x0501
  | mboxCmdFailed => 0x0502
  | mboxInvalidResponse => 0x0503
  | i3cInitFailed => 0x0600
  | i3cTransferFailed => 0x0601
  | bootFailed => 0x0700
  | bootInvalidResetReason => 0x0701

end McuError

/-- The result of a driver call: a value or an error code. -/
abbrev McuResult (α : Type) := Except McuError α

/-- `if (result.is_err()) return result;` followed by the rest of the
function. -/
def Driver.andThen {α β : Type} (call : Driver (McuResult α))
    (rest : α → Driver (McuResult β)) : Driver (McuResult β) :=
  call >>= fun result =>
    match result with
    | .error e => pure (.error e)
    | .ok value => rest value

theorem Driver.run_andThen_ok {α β σ : Type} (dev : Device Word Word σ)
    {call : Driver (McuResult α)} (rest : α → Driver (McuResult β)) {state : σ} {value : α}
    (succeeded : (call.run dev state).result = .ok value) :
    (Driver.andThen call rest).run dev state =
      ((rest value).run dev (call.run dev state).state).after (call.run dev state).trace := by
  rw [Driver.andThen, Program.run_bind, succeeded]

theorem Driver.run_andThen_error {α β σ : Type} (dev : Device Word Word σ)
    {call : Driver (McuResult α)} (rest : α → Driver (McuResult β)) {state : σ} {e : McuError}
    (failed : (call.run dev state).result = .error e) :
    (Driver.andThen call rest).run dev state =
      ⟨(call.run dev state).trace, .error e, (call.run dev state).state⟩ := by
  rw [Driver.andThen, Program.run_bind, failed]
  simp

theorem Driver.completes_andThen_ok {α β σ : Type} {dev : Device Word Word σ}
    {allowed : Access Word Word → Prop} {call : Driver (McuResult α)}
    {rest : α → Driver (McuResult β)} {state middle final : σ} {value : α} {result : McuResult β}
    (first : call.Completes dev allowed state (.ok value) middle)
    (second : (rest value).Completes dev allowed middle result final) :
    (Driver.andThen call rest).Completes dev allowed state result final :=
  Program.Completes.bind first second

theorem Driver.completes_andThen_error {α β σ : Type} {dev : Device Word Word σ}
    {allowed : Access Word Word → Prop} {call : Driver (McuResult α)}
    {rest : α → Driver (McuResult β)} {state final : σ} {e : McuError}
    (failed : call.Completes dev allowed state (.error e) final) :
    (Driver.andThen call rest).Completes dev allowed state (.error e) final :=
  Program.Completes.bind failed (Program.completes_ret _ _)

end McuRom
