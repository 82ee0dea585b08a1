import OpenDataCon.CBPort.BinaryBits
import OpenDataCon.CBPort.Block
import OpenDataCon.CBPort.BlockErrors
import OpenDataCon.CBPort.CommsLost
import OpenDataCon.CBPort.Connection
import OpenDataCon.CBPort.ControlAgreement
import OpenDataCon.CBPort.ControlLink
import OpenDataCon.CBPort.ExecutedControls
import OpenDataCon.CBPort.MasterCommands
import OpenDataCon.CBPort.MasterControls
import OpenDataCon.CBPort.MasterScan
import OpenDataCon.CBPort.MomentaryChanges
import OpenDataCon.CBPort.Outstation
import OpenDataCon.CBPort.OutstationRequests
import OpenDataCon.CBPort.OutstationScan
import OpenDataCon.CBPort.PayloadStrings
import OpenDataCon.CBPort.PointConf
import OpenDataCon.CBPort.PointTable
import OpenDataCon.CBPort.Points
import OpenDataCon.CBPort.SOEAddressing
import OpenDataCon.CBPort.SOEEvent
import OpenDataCon.CBPort.SOEPack
import OpenDataCon.CBPort.SOEPayload
import OpenDataCon.CBPort.SOEPoll
import OpenDataCon.CBPort.SOEQueue
import OpenDataCon.CBPort.SOERoundTrip
import OpenDataCon.CBPort.SOETimes
import OpenDataCon.CBPort.SOEValues
import OpenDataCon.CBPort.ScanAgreement
import OpenDataCon.CBPort.SelectBeforeOperate
import OpenDataCon.CBPort.TableLayout
import OpenDataCon.CBPort.TimeUpdates
import OpenDataCon.Configuration.ChangeDetection
import OpenDataCon.Configuration.ChangedConfs
import OpenDataCon.Configuration.ConfigParser
import OpenDataCon.Configuration.Handlers
import OpenDataCon.Configuration.Parking
import OpenDataCon.Configuration.Reload
import OpenDataCon.Configuration.Reloading
import OpenDataCon.Configuration.Removal
import OpenDataCon.Configuration.Wiring
import OpenDataCon.Connectors.CommsLost
import OpenDataCon.Connectors.ConnectionDemand
import OpenDataCon.Connectors.IndexRemapping
import OpenDataCon.Connectors.MultiCallback
import OpenDataCon.Connectors.Network
import OpenDataCon.Connectors.PromisedCalls
import OpenDataCon.Connectors.QualityFlags
import OpenDataCon.Connectors.RateLimits
import OpenDataCon.Connectors.StatusCallbacks
import OpenDataCon.Connectors.TransformChain
import OpenDataCon.Connectors.Transforms
import OpenDataCon.DNP3Port.ChannelHandler
import OpenDataCon.DNP3Port.CommsRideThroughTimer
import OpenDataCon.DNP3Port.IINFlags
import OpenDataCon.DNP3Port.IntegrityScans
import OpenDataCon.DNP3Port.LinkNotices
import OpenDataCon.DNP3Port.OnDemand
import OpenDataCon.DNP3Port.TypeConversion
import OpenDataCon.EventJSON.Base64
import OpenDataCon.EventJSON.Decoding
import OpenDataCon.EventJSON.Fields
import OpenDataCon.EventJSON.Numbers
import OpenDataCon.EventJSON.OctetStrings
import OpenDataCon.EventJSON.Payloads
import OpenDataCon.Events.Decimals
import OpenDataCon.Events.EventInfo
import OpenDataCon.Events.PayloadStrings
import OpenDataCon.Events.Strings
import OpenDataCon.FileTransfer.Aborting
import OpenDataCon.FileTransfer.Confirmed
import OpenDataCon.FileTransfer.Draining
import OpenDataCon.FileTransfer.Events
import OpenDataCon.FileTransfer.FileEvents
import OpenDataCon.FileTransfer.Histories
import OpenDataCon.FileTransfer.InOrder
import OpenDataCon.FileTransfer.Network
import OpenDataCon.FileTransfer.Receiver
import OpenDataCon.FileTransfer.Resync
import OpenDataCon.FileTransfer.Retrigger
import OpenDataCon.FileTransfer.RoundTrip
import OpenDataCon.FileTransfer.Rx
import OpenDataCon.FileTransfer.Sender
import OpenDataCon.FileTransfer.Tx
import OpenDataCon.FileTransfer.WrongFile
import OpenDataCon.Foundations.Assembly
import OpenDataCon.Foundations.BinaryPolynomials
import OpenDataCon.Foundations.BitFields
import OpenDataCon.Foundations.BitStrings
import OpenDataCon.Foundations.CheckedReads
import OpenDataCon.Foundations.Differences
import OpenDataCon.Foundations.Doubles
import OpenDataCon.Foundations.Exceptions
import OpenDataCon.Foundations.FlagTranslation
import OpenDataCon.Foundations.FuelledRecursion
import OpenDataCon.Foundations.Handover
import OpenDataCon.Foundations.IndexedChanges
import OpenDataCon.Foundations.LastValues
import OpenDataCon.Foundations.LinearChecks
import OpenDataCon.Foundations.Linearization
import OpenDataCon.Foundations.Loops
import OpenDataCon.Foundations.LossReports
import OpenDataCon.Foundations.NewestEntries
import OpenDataCon.Foundations.OrderedTraversals
import OpenDataCon.Foundations.Outcomes
import OpenDataCon.Foundations.PriorityQueues
import OpenDataCon.Foundations.RateBuckets
import OpenDataCon.Foundations.Redelivery
import OpenDataCon.Foundations.Resequencing
import OpenDataCon.Foundations.Runs
import OpenDataCon.Foundations.Separators
import OpenDataCon.Foundations.Substitution
import OpenDataCon.Foundations.Traces
import OpenDataCon.Foundations.Validation
import OpenDataCon.Foundations.WaitTimers
import OpenDataCon.Foundations.WrappedCounters
import OpenDataCon.HTTP.QueryParameters
import OpenDataCon.HTTP.RequestBody
import OpenDataCon.HTTP.RequestParser
import OpenDataCon.HTTP.RequestSyntax
import OpenDataCon.HTTP.UrlDecoding
import OpenDataCon.JSON.Leaves
import OpenDataCon.JSON.Texts
import OpenDataCon.JSON.Values
import OpenDataCon.JSONPort.ControlDirection
import OpenDataCon.JSONPort.Decoding
import OpenDataCon.JSONPort.Framing
import OpenDataCon.JSONPort.Messages
import OpenDataCon.JSONPort.OutputTemplate
import OpenDataCon.JSONPort.Points
import OpenDataCon.LuaWrappers.IOTypeWrappers
import OpenDataCon.LuaWrappers.LuaState
import OpenDataCon.LuaWrappers.RoundTrip
import OpenDataCon.MD3Port.AnalogAgreement
import OpenDataCon.MD3Port.AnalogAnswers
import OpenDataCon.MD3Port.AnalogExchange
import OpenDataCon.MD3Port.AnalogPoints
import OpenDataCon.MD3Port.AnalogRange
import OpenDataCon.MD3Port.AnalogScan
import OpenDataCon.MD3Port.Blocks
import OpenDataCon.MD3Port.COSScan
import OpenDataCon.MD3Port.Checksum
import OpenDataCon.MD3Port.CommsLost
import OpenDataCon.MD3Port.ControlBlocks
import OpenDataCon.MD3Port.ControlCodecs
import OpenDataCon.MD3Port.ControlExchange
import OpenDataCon.MD3Port.Controls
import OpenDataCon.MD3Port.DOMCommands
import OpenDataCon.MD3Port.DOMResponses
import OpenDataCon.MD3Port.DigitalAnswers
import OpenDataCon.MD3Port.DigitalBlocks
import OpenDataCon.MD3Port.DigitalConvergence
import OpenDataCon.MD3Port.DigitalEvents
import OpenDataCon.MD3Port.DigitalPoints
import OpenDataCon.MD3Port.DigitalScan
import OpenDataCon.MD3Port.EventExchange
import OpenDataCon.MD3Port.EventOrder
import OpenDataCon.MD3Port.Framing
import OpenDataCon.MD3Port.HRERWords
import OpenDataCon.MD3Port.MasterAnswers
import OpenDataCon.MD3Port.MasterCommands
import OpenDataCon.MD3Port.OutstationRequests
import OpenDataCon.MD3Port.PerformedControls
import OpenDataCon.MD3Port.Resends
import OpenDataCon.MD3Port.TimeSet
import OpenDataCon.MasterQueue.Callbacks
import OpenDataCon.MasterQueue.CommandQueue
import OpenDataCon.MasterQueue.Commands
import OpenDataCon.MasterQueue.CommsLost
import OpenDataCon.MasterQueue.Ports
import OpenDataCon.MasterQueue.Timeouts
import OpenDataCon.MasterQueue.Turns
import OpenDataCon.ModbusPort.MasterPort
import OpenDataCon.ModbusPort.OutstationPort
import OpenDataCon.ModbusPort.PointConf
import OpenDataCon.Outstations.ControlsOnce
import OpenDataCon.Outstations.OldTimeStamps
import OpenDataCon.Outstations.Performing
import OpenDataCon.PyPort.AnyStrings
import OpenDataCon.PyPort.ControlStrings
import OpenDataCon.PyPort.EventParams
import OpenDataCon.PyPort.PublishedEvents
import OpenDataCon.Receivers.AnswersOnce
import OpenDataCon.Receivers.DNP3Ports
import OpenDataCon.Receivers.Effects
import OpenDataCon.Receivers.JSONPort
import OpenDataCon.Receivers.PyPort
import OpenDataCon.Scheduler.ASIOScheduler
import OpenDataCon.SimPort.BinaryControl
import OpenDataCon.SimPort.Encodings
import OpenDataCon.SimPort.Replay
import OpenDataCon.SimPort.TapChanger
import OpenDataCon.SocketManager.WriteOrder
