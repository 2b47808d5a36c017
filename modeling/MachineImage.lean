import MachineImage.Announcement
import MachineImage.CommandLine.Startup
import MachineImage.File.Tree
import MachineImage.Main
import MachineImage.Provision
import MachineImage.Wire.Transport
import MachineImage.Proofs.Exchange
import MachineImage.Proofs.Stage
import MachineImage.Proofs.Simulation
import MachineImage.Proofs.Parts
import MachineImage.Proofs.Course
import MachineImage.Proofs.StageOrder
import MachineImage.Proofs.Provenance
import MachineImage.Proofs.Sequence
import MachineImage.Proofs.UploadParts
import MachineImage.Proofs.Received
import MachineImage.Proofs.Verified
import MachineImage.Proofs.Encoded
import MachineImage.Proofs.Presigned
import MachineImage.Proofs.Continued
import MachineImage.Proofs.Conversion
import MachineImage.Proofs.Escaped
import MachineImage.Proofs.Forest
import MachineImage.Proofs.ManifestRead
import MachineImage.Proofs.SentOnce
import MachineImage.Proofs.Repetition
import MachineImage.Proofs.Replay
import MachineImage.Proofs.Answered
import MachineImage.Proofs.Replication
import MachineImage.Proofs.Distinct
import MachineImage.Proofs.Identified
import MachineImage.Proofs.Outermost
import MachineImage.Proofs.Truncated
import MachineImage.Proofs.Pretty
import MachineImage.Proofs.Announced
import MachineImage.Proofs.Address
import MachineImage.Proofs.Addressed
import MachineImage.Proofs.Lexeme
import MachineImage.Proofs.Octets
import MachineImage.Proofs.Passage
import MachineImage.Proofs.Search
import MachineImage.Proofs.Located
import MachineImage.Proofs.Marked
import MachineImage.Proofs.Spelled
import MachineImage.Proofs.SignedPath
import MachineImage.Proofs.Partition
import MachineImage.Proofs.Response
import MachineImage.Proofs.StatusCode
import MachineImage.Proofs.EncodedPath
import MachineImage.Proofs.Framed
import MachineImage.Proofs.Parameters
import MachineImage.Proofs.Normalized
import MachineImage.Proofs.Unambiguous
import MachineImage.Proofs.Folded
import MachineImage.Proofs.Ordered
import MachineImage.Proofs.HeaderFields
import MachineImage.Proofs.Segments
import MachineImage.Proofs.KeyLines
import MachineImage.Proofs.Topic
import MachineImage.Proofs.Secrecy
import MachineImage.Proofs.StatusRuns
import MachineImage.Proofs.Polling
import MachineImage.Proofs.Budget
import MachineImage.Proofs.Settings
import MachineImage.Proofs.Interleaved
import MachineImage.Proofs.Ampersand
import MachineImage.Proofs.Depth
