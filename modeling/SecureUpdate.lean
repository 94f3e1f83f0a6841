import SecureUpdate.Bytes
import SecureUpdate.Dict
import SecureUpdate.Key.Threshold
import SecureUpdate.Cache.Store
import SecureUpdate.Client.Download
import SecureUpdate.Client.Lookup
import SecureUpdate.Error
import SecureUpdate.Files.Tree
import SecureUpdate.Glob.Pattern
import SecureUpdate.Hash.Sha256
import SecureUpdate.Hash.Sha512
import SecureUpdate.Json.Canonical
import SecureUpdate.Json.Reader
import SecureUpdate.Limits
import SecureUpdate.Metadata.Envelope
import SecureUpdate.Mirror.Failover
import SecureUpdate.Telemetry
import SecureUpdate.Text.Blank
import SecureUpdate.Text.Decimal
import SecureUpdate.Text.Duration
import SecureUpdate.Text.Hex
import SecureUpdate.Text.Percent
import SecureUpdate.Time.Reader
import SecureUpdate.Transport.Address
import SecureUpdate.Transport.Fetchers
import SecureUpdate.Trust.Acceptance
import SecureUpdate.Unicode.NormalForm
import SecureUpdate.Proofs.Chain
import SecureUpdate.Proofs.Trust.Accepted
import SecureUpdate.Proofs.Dict
import SecureUpdate.Proofs.Key.Tally
import SecureUpdate.Proofs.Trust.Authority
import SecureUpdate.Proofs.Client.Retrieval
import SecureUpdate.Proofs.Client.Delegators
import SecureUpdate.Proofs.Cache.Reliable
import SecureUpdate.Proofs.Client.Moves
import SecureUpdate.Proofs.Client.Refresh
import SecureUpdate.Proofs.Client.Agreement
import SecureUpdate.Proofs.Client.Floors
import SecureUpdate.Proofs.Client.Rollback
import SecureUpdate.Proofs.Metadata.Coverage
import SecureUpdate.Proofs.Client.Namesakes
import SecureUpdate.Proofs.Client.Coherence
import SecureUpdate.Proofs.Client.Currency
import SecureUpdate.Proofs.Delegation.Recursion
import SecureUpdate.Proofs.Delegation.Narrowing
import SecureUpdate.Proofs.Delegation.Bounds
import SecureUpdate.Proofs.Delegation.Extension
import SecureUpdate.Proofs.Client.Fleet
import SecureUpdate.Proofs.Mirror.Failover
import SecureUpdate.Proofs.Client.Passage
import SecureUpdate.Proofs.Client.Repetition
import SecureUpdate.Proofs.Client.Company
import SecureUpdate.Proofs.Client.Requests
import SecureUpdate.Proofs.Client.Provenance
import SecureUpdate.Proofs.Client.Restart
import SecureUpdate.Proofs.Json.Rereading
import SecureUpdate.Proofs.Json.Injectivity
import SecureUpdate.Proofs.Metadata.Rewriting
import SecureUpdate.Proofs.Key.Quorum
import SecureUpdate.Proofs.Trust.Freshness
import SecureUpdate.Proofs.Trust.Representation
import SecureUpdate.Trust.InPlace
import SecureUpdate.Proofs.Client.Rejection
import SecureUpdate.Proofs.Json.Retention
import SecureUpdate.Proofs.Time.Rereading
import SecureUpdate.Proofs.Metadata.Form
import SecureUpdate.Proofs.Metadata.Publication
import SecureUpdate.Proofs.Failure
import SecureUpdate.Proofs.Mirror.Order
import SecureUpdate.Proofs.Trust.Refusal
import SecureUpdate.Proofs.Client.Overlong
import SecureUpdate.Proofs.Client.Causes
import SecureUpdate.Proofs.Client.Bookkeeping
import SecureUpdate.Proofs.Client.Consistency
import SecureUpdate.Proofs.Files.Tree
import SecureUpdate.Proofs.Text.Percent
import SecureUpdate.Proofs.Mirror.Names
import SecureUpdate.Proofs.Files.Directory
import SecureUpdate.Proofs.Cache.Maps
import SecureUpdate.Proofs.Client.Download
import SecureUpdate.Proofs.Client.Counting
import SecureUpdate.Proofs.Transport.Ceiling
