import ClimateNode.Machine.CheckedInt
import ClimateNode.Machine.Rounding
import ClimateNode.Machine.WrittenPrefix
import ClimateNode.Machine.Decimal
import ClimateNode.Machine.TextFields
import ClimateNode.Machine.Runs
import ClimateNode.Machine.Observation
import ClimateNode.Machine.WrapTime
import ClimateNode.Machine.SlidingWindow
import ClimateNode.Machine.Scale
import ClimateNode.Machine.Hysteresis
import ClimateNode.Machine.CyclicBuffer
import ClimateNode.Machine.Crc
import ClimateNode.Machine.CrcLinear
import ClimateNode.Machine.LittleEndian
import ClimateNode.Core.Types
import ClimateNode.Core.Filter
import ClimateNode.Core.MovingAverage
import ClimateNode.Core.Dewpoint
import ClimateNode.Core.DewpointAccuracy
import ClimateNode.Core.Controller
import ClimateNode.Core.ControllerInvariant
import ClimateNode.Core.Debounce
import ClimateNode.Core.CrashIsolation
import ClimateNode.Core.ReturnedCodes
import ClimateNode.Core.IdealController
import ClimateNode.Core.ControllerRefinement
import ClimateNode.Core.ControllerRuns
import ClimateNode.Core.Diagnostics
import ClimateNode.Core.FaultEpisodes
import ClimateNode.Service.Storage
import ClimateNode.Service.StorageImages
import ClimateNode.Service.Logger
import ClimateNode.Service.LoggerWriters
import ClimateNode.Service.LoggerQueue
import ClimateNode.Service.Modbus
import ClimateNode.Service.ModbusFrames
import ClimateNode.Service.ResponseBuilder
import ClimateNode.Service.ModbusRegs
import ClimateNode.Service.RegisterBuffer
import ClimateNode.Service.ModbusServer
import ClimateNode.Service.RequestSlot
import ClimateNode.Service.PolledBursts
import ClimateNode.Service.PolledAgreement
import ClimateNode.Service.ServerArray
import ClimateNode.Service.ServerAccounting
import ClimateNode.Service.RegisterDevice
import ClimateNode.Service.LogTexts
import ClimateNode.Service.LogFields
import ClimateNode.Platform.Flash
import ClimateNode.Platform.HostFlash
import ClimateNode.Platform.TornSlot
import ClimateNode.Platform.Uart
import ClimateNode.Platform.Transmitter
import ClimateNode.Platform.RingReception
import ClimateNode.Platform.RingStream
import ClimateNode.App.App
import ClimateNode.App.AppRuns
import ClimateNode.App.SafeLockout
import ClimateNode.App.RelayAgreement
import ClimateNode.App.RelaySwitching
import ClimateNode.App.BrownOut
import ClimateNode.App.Scheduler
import ClimateNode.App.ReleaseRule
import ClimateNode.App.IdealScheduler
import ClimateNode.App.SchedulerRate
import ClimateNode.App.MainMcu
import ClimateNode.App.EffectiveConfig
import ClimateNode.App.Replies
import ClimateNode.App.ResponseBuffer
import ClimateNode.App.ExceptionCodes
import ClimateNode.App.RegisterReads
import ClimateNode.App.ConfigReadBack
import ClimateNode.App.Durability
import ClimateNode.App.RequestDelivery
import ClimateNode.App.RingDelivery
import ClimateNode.App.UartSharing
import ClimateNode.App.RegisterView
import ClimateNode.App.RequestLog
import ClimateNode.App.Bus
import ClimateNode.App.BusTransactions
import ClimateNode.App.IdealSampling
import ClimateNode.App.IdealNode
import ClimateNode.App.IdealNodeRuns
import ClimateNode.App.HostLog
import ClimateNode.Driver.MockSensor
import ClimateNode.Driver.Sht31
import ClimateNode.App.Sht31Node
import ClimateNode.App.HostRunner
import ClimateNode.App.HostRuns
import ClimateNode.App.SampleGates
import ClimateNode.App.WatchdogFeed
import ClimateNode.App.SamplePeriod
