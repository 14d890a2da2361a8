import McuRom.Mmio.Monitor
import McuRom.Mmio.LockProtocol
import McuRom.Common.Error
import McuRom.Common.Ownership
import McuRom.Common.ResultObject
import McuRom.Romtime.SocManager
import McuRom.Romtime.Print
import McuRom.Romtime.FlowHistory
import McuRom.Romtime.SlotRegisters
import McuRom.Romtime.Interrupts
import McuRom.Rom.RomEnv
import McuRom.Rom.RomStart
import McuRom.Mailbox.Session
import McuRom.Mailbox.FailedCalls
import McuRom.Mailbox.Release
import McuRom.Mailbox.Integrity
import McuRom.Mailbox.Delivery
import McuRom.Mailbox.Exclusion
import McuRom.Mailbox.Ownership
import McuRom.Mailbox.Decoding
import McuRom.Mailbox.Length
import McuRom.Mailbox.Restart
import McuRom.Rom.DroppedErrors
import McuRom.Rom.FatalReport
import McuRom.Rom.FlashAccess
import McuRom.Rom.OtpPartitionLock
import McuRom.Rom.OtpTransfer
import McuRom.Rom.PollBudgets
import McuRom.Rom.ResetDispatch
import McuRom.Rom.AntiRollback
import McuRom.Rom.AxiUserChecks
import McuRom.Rom.PkHash
import McuRom.Rom.SocBlocks
import McuRom.Rom.AxiConfigurations
import McuRom.Rom.I3cStreams
import McuRom.Rom.LibcStubs
import McuRom.Rom.Startup
import McuRom.Runtime.SystemCapsule
import McuRom.Romtime.Crc8Allocation
import McuRom.Romtime.Crc8Errors
import McuRom.Mailbox.Sequence
import McuRom.Rom.BootChain
import McuRom.Rom.Independence
import McuRom.Romtime.MciSession
import McuRom.Rom.I3cSession
import McuRom.Rom.Lifecycle
import McuRom.Rom.OtpSessions
import McuRom.Rom.FirmwareReady
import McuRom.Mailbox.Corruption
import McuRom.Rom.BootLog
import McuRom.Rom.BootTime
import McuRom.Rom.LibcStrings
import McuRom.Rom.StartupSafety
import McuRom.Rom.Exceptions
