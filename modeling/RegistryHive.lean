import RegistryHive.Bytes
import RegistryHive.Charset.Big5
import RegistryHive.Charset.Decoder
import RegistryHive.Charset.Gb18030
import RegistryHive.Charset.Hangul
import RegistryHive.Charset.ShiftJis
import RegistryHive.Charset.SingleByte
import RegistryHive.Codepage
import RegistryHive.DataBlock
import RegistryHive.Error
import RegistryHive.File
import RegistryHive.FileHeader
import RegistryHive.Hive
import RegistryHive.Hive.Key
import RegistryHive.Hive.SubKeys
import RegistryHive.Hive.Value
import RegistryHive.Image
import RegistryHive.KeyNameEntry
import RegistryHive.Navigation
import RegistryHive.Session
import RegistryHive.Source
import RegistryHive.Text.Quoted
import RegistryHive.Text.Runs
import RegistryHive.Text.Uppercase
import RegistryHive.ValueType
import RegistryHive.Proofs.Fetch
import RegistryHive.Proofs.Outcome
import RegistryHive.Proofs.Caches
import RegistryHive.Proofs.Operation
import RegistryHive.Proofs.Opening
import RegistryHive.Proofs.History
import RegistryHive.Proofs.BlockList
import RegistryHive.Proofs.Format
import RegistryHive.Proofs.Records
import RegistryHive.Proofs.Pieces
import RegistryHive.Proofs.NameEntries
import RegistryHive.Proofs.Blocks
import RegistryHive.Proofs.Building
import RegistryHive.Proofs.Layout
import RegistryHive.Proofs.RoundTrip
import RegistryHive.Proofs.Failures
import RegistryHive.Proofs.Guarded
import RegistryHive.Proofs.InRange
import RegistryHive.Proofs.Course
import RegistryHive.Proofs.Pacing
import RegistryHive.Proofs.Validation
import RegistryHive.Proofs.Promptness
import RegistryHive.Proofs.Usage
import RegistryHive.Proofs.Timeline
import RegistryHive.Proofs.Lifecycle
import RegistryHive.Proofs.Truncation
import RegistryHive.Proofs.Paths
import RegistryHive.Proofs.Placement
import RegistryHive.Proofs.Composition
import RegistryHive.Proofs.Calls
import RegistryHive.Proofs.Laziness
import RegistryHive.Proofs.Alike
import RegistryHive.Proofs.Counterparts
import RegistryHive.Proofs.Parallel
import RegistryHive.Proofs.Interchange
import RegistryHive.Proofs.Hints
import RegistryHive.Proofs.SiblingChains
import RegistryHive.Proofs.SubKeyReaders
import RegistryHive.Proofs.Lookups
import RegistryHive.Proofs.Decoding
import RegistryHive.Proofs.FourByteSequences
import RegistryHive.Proofs.MultiStrings
import RegistryHive.Proofs.TypedValues
import RegistryHive.Proofs.EntrySizes
import RegistryHive.Proofs.ScanSteps
import RegistryHive.Proofs.StreamRequests
import RegistryHive.Proofs.Values
