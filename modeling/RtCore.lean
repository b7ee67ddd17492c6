import RtCore.Foundation.Run
import RtCore.Foundation.Worklist
import RtCore.Sensors.DerivedSensors
import RtCore.Sensors.PublishedValues
import RtCore.Can.Canbus
import RtCore.Smp.CanTransport
import RtCore.Smp.BleResponses
import RtCore.Cdmp.Wire
import RtCore.Cdmp.Transactions
import RtCore.Cdmp.StateVersions
import RtCore.Cdmp.StateConvergence
import RtCore.Cdmp.StateHandlers
import RtCore.Cdmp.DeviceTable
import RtCore.Cdmp.Unit
import RtCore.Cdmp.Dispatch
import RtCore.Cdmp.Sessions
import RtCore.Cdmp.DeviceEvents
import RtCore.Cdmp.DiscoveryAnswers
import RtCore.Cdmp.Claims
import RtCore.Cbor.Serializer
import RtCore.Cbor.Zcbor
import RtCore.Cdmp.Bus
import RtCore.Cdmp.GoingOnline
import RtCore.Fs.File
import RtCore.Fs.StreamBuf
import RtCore.Fs.Buffering
import RtCore.Fs.Paths
import RtCore.Assets.AssetWriter
import RtCore.Assets.ListingPages
import RtCore.Logging.NetworkStop
import RtCore.Logging.LastRequest
import RtCore.Logging.RestartMonitor
import RtCore.Logging.TriggerSet
import RtCore.Logging.WriterSupervisor
import RtCore.Configuration.ConfigMgmtGroup
import RtCore.Configuration.ConfigurationStore
import RtCore.Configuration.RunningConfiguration
import RtCore.Configuration.UploadLog
import RtCore.Configuration.DownloadLog
import RtCore.Logging.LogEndTimes
import RtCore.Logging.RecordTimes
import RtCore.Mdf.Blocks
import RtCore.Mdf.HeaderLayout
import RtCore.Mdf.Records
import RtCore.Mdf.Structure
import RtCore.Mdf.Log
import RtCore.Mdf.Recorder
import RtCore.Mdf.Finalization
import RtCore.Mdf.Completion
import RtCore.Fs.CallHistory
import RtCore.Logging.LoggerTargets
import RtCore.Logging.LogSession
import RtCore.Logging.LogFiles
import RtCore.Smp.CanPacer
import RtCore.Dfu.ImageIdentity
import RtCore.Dfu.IdentityCheck
import RtCore.Dfu.ImageConfirmation
import RtCore.Dfu.ConfirmationSafety
import RtCore.Can.CanbusConfiguration
import RtCore.Cbor.CanbusConfig
import RtCore.Cbor.LoggingControlConfig
import RtCore.Cbor.Reference
import RtCore.Cbor.SensorsConfig
import RtCore.Configuration.StoredConfigurations
import RtCore.Configuration.KeptValues
import RtCore.Logging.ControlConfiguration
import RtCore.Sensors.RestoredSensors
import RtCore.Sensors.SensorsCborParser
import RtCore.Sensors.PipelineBuilder
import RtCore.Sensors.OrderErrors
import RtCore.Logging.TriggerEdges
import RtCore.Can.SignalCodec
import RtCore.Sensors.RateGroups
import RtCore.Sensors.SettleTimer
import RtCore.Sensors.ControlSensorReader
import RtCore.Sensors.CanFrameRouter
import RtCore.Sensors.SignalLookup
import RtCore.Logging.FormulaMeaning
import RtCore.Foundation.CivilTime
import RtCore.Logging.LogFileNaming
import RtCore.Logging.LogWriterRuns
import RtCore.Logging.LogWriterHistory
