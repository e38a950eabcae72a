import HdmiCec.Bus.AcceptedSends
import HdmiCec.Bus.Addressing
import HdmiCec.Bus.AsyncSends
import HdmiCec.Bus.CallerFrames
import HdmiCec.Bus.Connection
import HdmiCec.Bus.FanOut
import HdmiCec.Bus.LifeCycle
import HdmiCec.Bus.Lifetimes
import HdmiCec.Bus.Mutexes
import HdmiCec.Bus.Outgoing
import HdmiCec.Bus.Ownership
import HdmiCec.Bus.Quiescence
import HdmiCec.Bus.Reentrancy
import HdmiCec.Bus.Retries
import HdmiCec.Bus.SendPaths
import HdmiCec.Bus.Shutdown
import HdmiCec.Bus.Threads
import HdmiCec.Bus.Workers
import HdmiCec.Bus.Writer
import HdmiCec.Bus.WriterModels
import HdmiCec.Core.AddressPrinting
import HdmiCec.Core.AddressText
import HdmiCec.Core.AudioMessages
import HdmiCec.Core.Canonical
import HdmiCec.Core.FrameBuffer
import HdmiCec.Core.MessageDecoder
import HdmiCec.Core.MessageProcessor
import HdmiCec.Core.OsdText
import HdmiCec.Core.PrintedFrames
import HdmiCec.Core.Printing
import HdmiCec.Core.Reencode
import HdmiCec.Core.RoundTrip
import HdmiCec.Core.Slicing
import HdmiCec.Core.Trailing
import HdmiCec.Core.Validity
import HdmiCec.Daemon.AddressQueries
import HdmiCec.Daemon.Arriving
import HdmiCec.Daemon.Carrying
import HdmiCec.Daemon.CecIARMBusMgr
import HdmiCec.Daemon.Collection
import HdmiCec.Daemon.Distribution
import HdmiCec.Daemon.Draining
import HdmiCec.Daemon.EndToEnd
import HdmiCec.Daemon.Escapes
import HdmiCec.Daemon.EventTransit
import HdmiCec.Daemon.Handlers
import HdmiCec.Daemon.LogLines
import HdmiCec.Daemon.LogText
import HdmiCec.Daemon.LogicalAddresses
import HdmiCec.Daemon.MultiApp
import HdmiCec.Daemon.Polls
import HdmiCec.Daemon.PseudoDriver
import HdmiCec.Daemon.Reception
import HdmiCec.Daemon.Send
import HdmiCec.DevMgr.Answers
import HdmiCec.DevMgr.DeviceManager
import HdmiCec.DevMgr.Dialogue
import HdmiCec.DevMgr.PluginLoader
import HdmiCec.DevMgr.PowerCallback
import HdmiCec.DevMgr.PowerMode
import HdmiCec.Driver.Arrivals
import HdmiCec.Driver.ClaimedAddresses
import HdmiCec.Driver.IarmDriver
import HdmiCec.Driver.InTransit
import HdmiCec.Driver.OpenClose
import HdmiCec.Driver.ReceiveHandler
import HdmiCec.Driver.Sentinel
import HdmiCec.Driver.Sessions
import HdmiCec.Host.DeviceStatus
import HdmiCec.Host.OsdNameCache
import HdmiCec.Host.StatusTable
import HdmiCec.Library.BoundedFifo
import HdmiCec.Library.BoundedList
import HdmiCec.Library.CharArray
import HdmiCec.Library.Conveyor
import HdmiCec.Library.Ledger
import HdmiCec.Library.LockOrder
import HdmiCec.Library.Notices
import HdmiCec.Library.Walk
import HdmiCec.Osal.EventQueueHistory
import HdmiCec.Osal.Stoppable
import HdmiCec.Osal.TimedWait
