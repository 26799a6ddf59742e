import PowerManager.AckController.Basic
import PowerManager.AckController.Deadline
import PowerManager.AckController.Lifetime
import PowerManager.AckController.Race
import PowerManager.Announcements
import PowerManager.ByteCodec
import PowerManager.CString
import PowerManager.CallbackMachine
import PowerManager.Client.Api
import PowerManager.Client.Counting
import PowerManager.Client.Monitor
import PowerManager.Client.ProcessId
import PowerManager.Client.Subscriptions
import PowerManager.Client.Termination
import PowerManager.ConditionVariable
import PowerManager.DecimalText
import PowerManager.DeepSleepController.Abort
import PowerManager.DeepSleepController.Attempts
import PowerManager.DeepSleepController.Basic
import PowerManager.DeepSleepController.Latch
import PowerManager.DeepSleepController.Simulation
import PowerManager.DeepSleepController.Threads
import PowerManager.DeepSleepController.WakeupSettings
import PowerManager.Deliveries
import PowerManager.Hysteresis
import PowerManager.Implementation.Acknowledgements
import PowerManager.Implementation.Basic
import PowerManager.Implementation.Changes
import PowerManager.Implementation.Clients
import PowerManager.Implementation.DelayPeriods
import PowerManager.Implementation.Delays
import PowerManager.Implementation.Refinement
import PowerManager.Implementation.Requests
import PowerManager.Implementation.Rest
import PowerManager.Implementation.SelfLock
import PowerManager.Implementation.Steps
import PowerManager.LocalTime
import PowerManager.LockMachine
import PowerManager.Locks
import PowerManager.Machine
import PowerManager.NetworkStandby
import PowerManager.Notifications
import PowerManager.NotifiedOnce
import PowerManager.Plugin
import PowerManager.Plugin.Lifetime
import PowerManager.Plugin.SleepTimer
import PowerManager.Plugin.WakeUp
import PowerManager.PowerController
import PowerManager.PowerController.BootAgreement
import PowerManager.PowerController.Create
import PowerManager.PowerController.Restart
import PowerManager.PowerController.Storage
import PowerManager.PowerController.WakeupTime
import PowerManager.PowerImpl
import PowerManager.Progress
import PowerManager.RealStates
import PowerManager.RebootController
import PowerManager.RebootController.RfcReaders
import PowerManager.Settings
import PowerManager.Settings.BeforeReboot
import PowerManager.Settings.Repair
import PowerManager.Settings.Torn
import PowerManager.Shell
import PowerManager.ThermalController.Basic
import PowerManager.ThermalController.ClockSpeed
import PowerManager.ThermalController.ConfigProperty
import PowerManager.ThermalController.Declocking
import PowerManager.ThermalController.Levels
import PowerManager.ThermalController.PollLoop
import PowerManager.ThermalController.Shutdown
import PowerManager.ThermalController.Statics
import PowerManager.ThermalController.Sysfs
import PowerManager.ThermalController.WallClock
import PowerManager.ThermalController.Zones
import PowerManager.Transition
import PowerManager.Transition.History
import PowerManager.Traversal
import PowerManager.Types
import PowerManager.WakeupSources
import PowerManager.WatchMachine
