import VariableStore.Backend
import VariableStore.Backend.Api
import VariableStore.Config
import VariableStore.Number
import VariableStore.Store
import VariableStore.Store.Read
import VariableStore.Text.Encoded
import VariableStore.Proofs.Config
import VariableStore.Proofs.Endpoint
import VariableStore.Proofs.Envelope.BareText
import VariableStore.Proofs.Envelope.Bytes
import VariableStore.Proofs.Envelope.Coercion
import VariableStore.Proofs.Envelope.Empty
import VariableStore.Proofs.Envelope.JsonView
import VariableStore.Proofs.Envelope.Roundtrip
import VariableStore.Proofs.Envelope.Stability
import VariableStore.Proofs.Envelope.Validation
import VariableStore.Proofs.Memory
import VariableStore.Proofs.PendingOutputs
import VariableStore.Proofs.Records.Written
import VariableStore.Proofs.Reference.Search
import VariableStore.Proofs.Reference.WholeText
import VariableStore.Proofs.Session.Addressing
import VariableStore.Proofs.Session.Binary
import VariableStore.Proofs.Session.Errors
import VariableStore.Proofs.Session.Flush
import VariableStore.Proofs.Session.Gate
import VariableStore.Proofs.Session.Interchange
import VariableStore.Proofs.Session.Isolation
import VariableStore.Proofs.Session.OneLevel
import VariableStore.Proofs.Session.ReadModes
import VariableStore.Proofs.Session.Readable
import VariableStore.Proofs.Session.RecordLists
import VariableStore.Proofs.Session.Spellings
import VariableStore.Proofs.Session.WholeValue
import VariableStore.Proofs.Session.Wire
import VariableStore.Proofs.Text
import VariableStore.Proofs.Url.Segment
