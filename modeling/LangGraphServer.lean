import LangGraphServer.Lib.Run
import LangGraphServer.Checkpoint.Saver
import LangGraphServer.Checkpoint.Dicts
import LangGraphServer.Checkpoint.Eviction
import LangGraphServer.Checkpoint.Commit
import LangGraphServer.Checkpoint.Effect
import LangGraphServer.Checkpoint.Accounting
import LangGraphServer.Checkpoint.Reference
import LangGraphServer.Checkpoint.Budget
import LangGraphServer.Checkpoint.Threads
import LangGraphServer.Checkpoint.Refinement
import LangGraphServer.Checkpoint.Ancestry
import LangGraphServer.Coordination
import LangGraphServer.Lib.Coroutine
import LangGraphServer.Lib.Pool
import LangGraphServer.Lib.RelyGuarantee
import LangGraphServer.Server.Models
import LangGraphServer.Server.Storage
import LangGraphServer.Server.Machine
import LangGraphServer.Server.Execution
import LangGraphServer.Server.ThreadRoutes
import LangGraphServer.Server.RunRoutes
import LangGraphServer.Lib.Triples
import LangGraphServer.Server.StoreRules
import LangGraphServer.Server.Claims
import LangGraphServer.Server.Leases
import LangGraphServer.Server.LeaseSteps
import LangGraphServer.Server.LeaseTriples
import LangGraphServer.Server.LeaseStreams
import LangGraphServer.Server.LeaseRoutes
import LangGraphServer.Server.LeaseUpdates
import LangGraphServer.Server.LeaseDeletions
import LangGraphServer.Server.OneMutation
import LangGraphServer.Server.OwnedRuns
import LangGraphServer.Checkpoint.Recency
import LangGraphServer.Checkpoint.LeastRecent
import LangGraphServer.Checkpoint.Capacity
import LangGraphServer.Checkpoint.Reads
import LangGraphServer.Lib.Sequential
import LangGraphServer.Server.State
import LangGraphServer.Server.Alone
import LangGraphServer.Server.References
import LangGraphServer.Server.Refusals
import LangGraphServer.Server.Stateless
import LangGraphServer.Lib.Duty
import LangGraphServer.Server.LeaseReturns
import LangGraphServer.Lib.Protocol
import LangGraphServer.Server.Residue
import LangGraphServer.Lib.Census
import LangGraphServer.Server.Footprint
import LangGraphServer.Server.NothingLeft
import LangGraphServer.Lib.Watch
import LangGraphServer.Server.ExclusiveCreation
import LangGraphServer.Checkpoint.Bookings
import LangGraphServer.Checkpoint.Victims
import LangGraphServer.Checkpoint.Failures
import LangGraphServer.Checkpoint.Removals
import LangGraphServer.Checkpoint.Retries
import LangGraphServer.Server.Identifiers
import LangGraphServer.Server.BodyLimit
import LangGraphServer.Lib.Dialogue
import LangGraphServer.Lib.Drain
import LangGraphServer.Server.Forwarding
import LangGraphServer.Server.Transcripts
import LangGraphServer.Server.RunTranscripts
import LangGraphServer.Lib.EventStream
import LangGraphServer.Lib.Json
import LangGraphServer.Server.SseFraming
import LangGraphServer.Lib.Selection
import LangGraphServer.Server.Markers
import LangGraphServer.Lib.Agreement
import LangGraphServer.Server.Discovery
import LangGraphServer.Server.Lookups
import LangGraphServer.Server.SaverRefusals
import LangGraphServer.Server.Openings
import LangGraphServer.Server.CapacityErrors
import LangGraphServer.Server.Responses
import LangGraphServer.Server.ThreadPhases
import LangGraphServer.Server.ThreadEffects
import LangGraphServer.Server.DeletedThreads
import LangGraphServer.Server.DurableOwners
import LangGraphServer.Server.OwnerMoves
import LangGraphServer.Server.OwnerRuns
import LangGraphServer.Server.OwnerSequences
import LangGraphServer.Server.KeptOwners
import LangGraphServer.Lib.Custody
import LangGraphServer.Server.StatusPhases
import LangGraphServer.Server.BusyThreads
import LangGraphServer.Lib.Paging
import LangGraphServer.Server.HistoryPages
import LangGraphServer.Server.ClientReads
import LangGraphServer.Server.LeaseStateless
import LangGraphServer.Server.RunLimit
import LangGraphServer.Lib.Expiring
import LangGraphServer.Server.TimedStore
import LangGraphServer.Server.TimedRuns
import LangGraphServer.Checkpoint.CheckpointLimit
import LangGraphServer.Server.AssistantSearch
import LangGraphServer.Lib.Scoped
import LangGraphServer.Server.Lifespans
import LangGraphServer.Checkpoint.RoomyRuns
import LangGraphServer.Lib.Joined
import LangGraphServer.Server.RequestBodies
