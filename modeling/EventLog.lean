import EventLog.Bytes
import EventLog.Error
import EventLog.Text.CodeUnits
import EventLog.Text.Pairing
import EventLog.Event
import EventLog.EventId
import EventLog.Check
import EventLog.Header
import EventLog.Hexdump
import EventLog.Sentinel
import EventLog.Sid
import EventLog.StringTable
import EventLog.StringTable.Ranges
import EventLog.Timestamp
import EventLog.Record
import EventLog.Charset
import EventLog.Charset.CharTable
import EventLog.Charset.Chinese
import EventLog.Charset.Japanese
import EventLog.Charset.Korean
import EventLog.Charset.SingleByte
import EventLog.Charset.Taiwanese
import EventLog.Codepage
import EventLog.Json
import EventLog.Json.Reader
import EventLog.Narrow
import EventLog.Record.ToJson
import EventLog.Record.ToXml
import EventLog.Recovery
import EventLog.Session
import EventLog.FilePath
import EventLog.FileTree
import EventLog.Session.Ways
import EventLog.Record.ToText
import EventLog.Dump.Arguments
import EventLog.Dump.Frame
import EventLog.Dump.Run
import EventLog.Main
import EventLog.Ring.Unrolled
import EventLog.Recovery.OnePass
import EventLog.Session.Action
import EventLog.Proofs.Source
import EventLog.Ring.Position
import EventLog.Proofs.Ring
import EventLog.Proofs.Walk
import EventLog.Proofs.Candidates
import EventLog.Proofs.Recovery
import EventLog.Proofs.Session
import EventLog.Proofs.PrimaryRecords
import EventLog.Proofs.RecoveredRecords
import EventLog.Effort
import EventLog.Proofs.Effort
import EventLog.Source.Silenced
import EventLog.Proofs.RecoveredOverlaps
import EventLog.Proofs.Silenced
import EventLog.Proofs.CompleteRecovery
import EventLog.Ring.Rotation
import EventLog.Proofs.Rotation
import EventLog.Proofs.RecordGrammar
import EventLog.Proofs.TextReading
import EventLog.Proofs.StringTables
import EventLog.Proofs.DeclaredStrings
import EventLog.Proofs.StoredEvents
import EventLog.Proofs.Lifecycle
import EventLog.Proofs.RecoveryModes
import EventLog.Proofs.Opening
import EventLog.Proofs.SentinelOverlap
import EventLog.Source.Impaired
import EventLog.Proofs.TornWalks
import EventLog.Proofs.Cancelled
import EventLog.Proofs.PartialResults
import EventLog.Xml.Reader
import EventLog.Proofs.XmlReading
import EventLog.Proofs.XmlWriting
import EventLog.Proofs.RecordXml
import EventLog.Record.Stream
import EventLog.Xml.Progress
import EventLog.Proofs.RecordStreams
import EventLog.Proofs.StreamFailures
import EventLog.Proofs.LegalCharacters
import EventLog.Proofs.Portions
import EventLog.Proofs.Legibility
import EventLog.Proofs.JsonReading
import EventLog.Proofs.RecordJson
import EventLog.Proofs.FileGrowth
import EventLog.Proofs.RecordFrames
import EventLog.Proofs.DumpFrames
import EventLog.Machine.Word
import EventLog.Machine.Cursor
import EventLog.Machine.Codecs
import EventLog.Machine.Record
import EventLog.Machine.Ring
import EventLog.Machine.Recovery
import EventLog.Machine.Session
import EventLog.Proofs.NoOverflow
import EventLog.Proofs.FixedStructures
import EventLog.Proofs.SidTexts
import EventLog.Proofs.TouchedFiles
import EventLog.Proofs.FailedRuns
import EventLog.Proofs.RingReads
import EventLog.Hexdump.Reader
import EventLog.Proofs.Hexdumps
import EventLog.Recovery.Coverage
import EventLog.Proofs.UnseenFailures
