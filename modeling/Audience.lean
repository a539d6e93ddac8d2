import Audience.Backend.Description
import Audience.Filter.Schema
import Audience.Flow.Machine
import Audience.Json.Writer
import Audience.Problem.Draft
import Audience.Proofs.Client.Outcomes
import Audience.Proofs.Engine.Failing
import Audience.Proofs.Engine.Fetching
import Audience.Proofs.Engine.Transparency
import Audience.Proofs.Engine.Moving
import Audience.Proofs.Engine.OneShot
import Audience.Proofs.Engine.Outgoing
import Audience.Proofs.Engine.Persisting
import Audience.Proofs.Engine.Renaming
import Audience.Proofs.Engine.Restoring
import Audience.Proofs.Event.Resetting
import Audience.Proofs.Event.Titles
import Audience.Proofs.Service.Tracing
import Audience.Proofs.Store.Convergence
import Audience.Proofs.Store.Persistence
import Audience.Proofs.Store.Rollback
import Audience.Proofs.Store.Undoing
import Audience.Proofs.Engine.FirstPage
import Audience.Proofs.Number.Quotient
import Audience.Proofs.Engine.Limits
import Audience.Proofs.Engine.Clamping
import Audience.Proofs.Engine.Naming
import Audience.Proofs.Engine.Retitling
import Audience.Proofs.Json.Correspondence
import Audience.Proofs.Document.Equality
import Audience.Proofs.Store.Noting
import Audience.Proofs.Store.Deduplication
import Audience.Proofs.Store.Resaving
import Audience.Proofs.Store.Staging
import Audience.Proofs.Filter.Noise
import Audience.Proofs.Service.Saving
import Audience.Proofs.Engine.Refining
import Audience.Proofs.Document.Query
import Audience.Proofs.Segment.Survival
import Audience.Proofs.Store.Decoding
import Audience.Proofs.Client.Paths
import Audience.Proofs.Title.Wrapping
import Audience.Proofs.Engine.Suggesting
import Audience.Proofs.Client.Wording
