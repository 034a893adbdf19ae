import Watermeter.NorFlash
import Watermeter.Config
import Watermeter.RingLog
import Watermeter.Transition
import Watermeter.FlashMap
import Watermeter.DevConfig
import Watermeter.StoreSpec
import Watermeter.StoreFlash
import Watermeter.StoreScan
import Watermeter.StoreDevice
import Watermeter.StoreRecovery
import Watermeter.OtaImage
import Watermeter.OtaDevice
import Watermeter.OtaInvariant
import Watermeter.StoreConfine
import Watermeter.StoreProgram
import Watermeter.StoreProgramRuns
import Watermeter.Debounce
import Watermeter.Counter
import Watermeter.CounterPulses
import Watermeter.CounterRestarts
import Watermeter.ZclWrite
import Watermeter.CounterTotals
import Watermeter.Application
import Watermeter.Leak
import Watermeter.LeakAlarm
import Watermeter.LeakEpisodes
import Watermeter.FlashConfinement
import Watermeter.UpdateSurvival
import Watermeter.SettingsDurable
import Watermeter.OtaClient
import Watermeter.ImageSpared
import Watermeter.DownloadSafety
import Watermeter.DownloadRuns
import Watermeter.PowerLoss
import Watermeter.TornRecord
import Watermeter.Recoverable
import Watermeter.PowerLossRuns
import Watermeter.PowerLossAtomic
import Watermeter.StepRange
import Watermeter.SummationMirror
import Watermeter.StepMixed
import Watermeter.TickClock
import Watermeter.ReportableChange
import Watermeter.Reporting
import Watermeter.ReportSlot
import Watermeter.ReportTimers
import Watermeter.ReportSpacing
import Watermeter.ReportHeartbeat
import Watermeter.OtaExit
import Watermeter.FactoryReset
import Watermeter.ReportPass
import Watermeter.ChangeLaw
import Watermeter.WriteData
import Watermeter.CfgReport
import Watermeter.Rearming
import Watermeter.ReportPointers
import Watermeter.WriteCommands
import Watermeter.StepMirror
import Watermeter.ClickSeries
import Watermeter.Button
import Watermeter.ButtonClicks
import Watermeter.TimerPool
import Watermeter.AppTimers
import Watermeter.TimerHandles
import Watermeter.DownloadPoll
import Watermeter.ShiftRegister
import Watermeter.ChecksumBurst
import Watermeter.PyStruct
import Watermeter.ImageTools
import Watermeter.ImageToolsAgree
import Watermeter.ImageAccepted
import Watermeter.ButtonHold
import Watermeter.ZoneEnrolment
import Watermeter.SwitchPersist
import Watermeter.TimerPeriods
import Watermeter.Blinker
import Watermeter.LedBlink
import Watermeter.IdentifyTimers
import Watermeter.IdentifyBlink
import Watermeter.CrashLogic
import Watermeter.SlotLog
import Watermeter.NvDriver
import Watermeter.NvLayout
import Watermeter.NvImage
import Watermeter.NvItems
import Watermeter.NvSectors
import Watermeter.NvWrite
import Watermeter.NvMove
import Watermeter.NvRuns
import Watermeter.NvReset
import Watermeter.NvSettings
import Watermeter.EvTimer
import Watermeter.EvTimerTime
import Watermeter.EvTimerRuns
import Watermeter.FrameCount
import Watermeter.FrameCountSave
import Watermeter.FrameCountRuns
import Watermeter.Dozing
import Watermeter.Sleep
import Watermeter.SleepRuns
import Watermeter.TwoPass
import Watermeter.ZclFormats
import Watermeter.ZclPayloads
