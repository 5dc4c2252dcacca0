import SolidSyslog.Buffer.RingLayout
import SolidSyslog.Lib.Run
import SolidSyslog.Buffer.Fifo
import SolidSyslog.Event
import SolidSyslog.Lib.Ensures
import SolidSyslog.Lib.Latch
import SolidSyslog.Lib.Trace
import SolidSyslog.Service.Model
import SolidSyslog.Service.Conservation
import SolidSyslog.Service.Account
import SolidSyslog.Service.Order
import SolidSyslog.Service.Delivery
import SolidSyslog.Store.Device
import SolidSyslog.Store.BlockSequence
import SolidSyslog.Store.RecordStore
import SolidSyslog.Store.BlockStore
import SolidSyslog.Store.Rules
import SolidSyslog.Store.Freeze.Operations
import SolidSyslog.Store.SentFlag.Operations
import SolidSyslog.Store.RunBoundaries
import SolidSyslog.Store.MainTrace
import SolidSyslog.Store.Sequence.View
import SolidSyslog.Store.Sequence.Operations
import SolidSyslog.Store.Records
import SolidSyslog.Store.StoreView
import SolidSyslog.Store.StoreOperations
import SolidSyslog.Store.Performed
import SolidSyslog.Store.RunInvariant
import SolidSyslog.Store.Representation
import SolidSyslog.Store.Ceiling
import SolidSyslog.Store.Entry
import SolidSyslog.Store.NeverWedged
import SolidSyslog.Store.Bounds.Trace
import SolidSyslog.Store.Bounds.Parts
import SolidSyslog.Store.Bounds.Operations
import SolidSyslog.Lib.Mirror
import SolidSyslog.Store.Buffered.Model
import SolidSyslog.Store.Buffered.Records
import SolidSyslog.Store.Buffered.Operations
import SolidSyslog.Store.Buffered.MediaBounds
import SolidSyslog.Store.Buffered.ReadingEnds
import SolidSyslog.Store.Threshold.Monitor
import SolidSyslog.Store.Threshold.Parts
import SolidSyslog.Store.Threshold.Operations
import SolidSyslog.Service.Halting
import SolidSyslog.Service.HaltLaw
import SolidSyslog.Service.Reports
import SolidSyslog.Service.Reporting
import SolidSyslog.Service.ReportsKept
import SolidSyslog.Service.Status
import SolidSyslog.Store.Recovery
import SolidSyslog.Lib.Pool
import SolidSyslog.Store.Pools
import SolidSyslog.Lib.Interleaving
import SolidSyslog.LwipRaw.DnsResolver
import SolidSyslog.Lib.Handles
import SolidSyslog.Lib.Ring
import SolidSyslog.LwipRaw.TcpStream
import SolidSyslog.LwipRaw.TcpPcbs
import SolidSyslog.LwipRaw.TcpBytes
import SolidSyslog.Format.Formatter
import SolidSyslog.Sender.StreamSender
import SolidSyslog.Sender.Framing
import SolidSyslog.Tls.Fingerprint
import SolidSyslog.Tls.MbedTlsStream
import SolidSyslog.Tls.MbedTlsPairing
import SolidSyslog.Tls.Stream
import SolidSyslog.Tls.WolfSslStream
import SolidSyslog.Tls.Pairing
import SolidSyslog.Tls.MbedTlsPeer
import SolidSyslog.FileDevice.File
import SolidSyslog.FileDevice.FileBlockDevice
import SolidSyslog.FileDevice.BlockMap
import SolidSyslog.Store.Restart
import SolidSyslog.Lib.Escaping
import SolidSyslog.Lib.Utf8
import SolidSyslog.Format.Text
import SolidSyslog.Format.StructuredData
import SolidSyslog.Format.Header
import SolidSyslog.Format.Message
import SolidSyslog.Format.Truncation
import SolidSyslog.Format.FieldWidth
import SolidSyslog.Format.BoundedValue
import SolidSyslog.Format.ValueText
import SolidSyslog.Tls.FingerprintVerdict
import SolidSyslog.Sender.UdpPayload
import SolidSyslog.Sender.UdpSender
import SolidSyslog.Sender.UdpDelivery
import SolidSyslog.Lib.Crc
import SolidSyslog.Security.Crc16Policy
import SolidSyslog.Buffer.KeepsWhatFits
import SolidSyslog.Buffer.LossAccounting
import SolidSyslog.Lib.Rfc5424
import SolidSyslog.Format.SdParsing
import SolidSyslog.Lib.Rfc5424Message
import SolidSyslog.Format.MessageParsing
import SolidSyslog.Lib.CircularList
import SolidSyslog.Store.Shelf
import SolidSyslog.Store.Holding
import SolidSyslog.Store.ShelfReads
import SolidSyslog.Store.ShelfWrites
import SolidSyslog.Store.ShelfRestart
import SolidSyslog.Store.Queue
import SolidSyslog.Store.Ledger
import SolidSyslog.Store.LedgerMoves
import SolidSyslog.Store.Fates
import SolidSyslog.Store.Tally
import SolidSyslog.Store.LossReports
import SolidSyslog.Store.NoSilentLoss
import SolidSyslog.Store.CutPoints
import SolidSyslog.Store.CrashRecovery
import SolidSyslog.Rtos.SysUpTime
import SolidSyslog.Sender.UdpTrim
import SolidSyslog.FileDevice.BlockFilename
import SolidSyslog.Tls.FingerprintGrammar
import SolidSyslog.Buffer.PosixMessageQueue
import SolidSyslog.Sender.SwitchingSender
import SolidSyslog.Sender.SwitchedDelivery
import SolidSyslog.Lib.CompareExchange
import SolidSyslog.Counter.AtomicCounter
import SolidSyslog.FileDevice.StoreOnFiles
import SolidSyslog.Lib.Coupling
import SolidSyslog.Service.Parametric
import SolidSyslog.Service.Assembly
import SolidSyslog.Service.LoggerRuns
import SolidSyslog.Service.CatchingUp
import SolidSyslog.Store.Guarded
import SolidSyslog.Security.KeyedPolicy
import SolidSyslog.Security.KeyedRuns
import SolidSyslog.Security.SealedStore
import SolidSyslog.Security.Authenticity
import SolidSyslog.Tcp.Wire
import SolidSyslog.Tcp.SenderOverStream
