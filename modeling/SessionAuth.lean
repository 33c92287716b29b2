import SessionAuth.Deployment
import SessionAuth.Event.Bus
import SessionAuth.Http.Service
import SessionAuth.Postgres.Grants
import SessionAuth.Postgres.Migrations
import SessionAuth.Postgres.Users
import SessionAuth.Redis.Cache
import SessionAuth.Redis.Sessions
import SessionAuth.Session.Sweeper
import SessionAuth.Settings.Load
import SessionAuth.Proofs.Session.Timeline
import SessionAuth.Proofs.Session.Index
import SessionAuth.Proofs.Authorization.Coherence
import SessionAuth.Proofs.Json.Record
import SessionAuth.Proofs.Password.Verify
import SessionAuth.Proofs.Program.Concurrent
import SessionAuth.Proofs.Service.Operation
import SessionAuth.Proofs.Service.Run
import SessionAuth.Proofs.Session.Revocation
import SessionAuth.Proofs.Token.RoundTrip
import SessionAuth.Proofs.UseCase.Authenticate
import SessionAuth.Proofs.UseCase.Conversation
import SessionAuth.Proofs.UseCase.SingleUse
import SessionAuth.Proofs.Authorization.Uncached
import SessionAuth.Proofs.Authorization.Parts
import SessionAuth.Proofs.UseCase.Consults
import SessionAuth.Proofs.Program.Coupled
import SessionAuth.Proofs.Token.Lifetime
import SessionAuth.Proofs.Authorization.Transparent
import SessionAuth.Proofs.Service.Transparency
import SessionAuth.Proofs.Service.InParts
import SessionAuth.Proofs.Authorization.Promises
import SessionAuth.Proofs.Authorization.LateFill
import SessionAuth.Proofs.Credentials.Promises
import SessionAuth.Proofs.Credentials.LateOpening
import SessionAuth.Proofs.Token.Acceptance
import SessionAuth.Proofs.Session.Purging
import SessionAuth.Proofs.Session.Backing
import SessionAuth.Proofs.UseCase.Validity
import SessionAuth.Proofs.Session.Lineage
import SessionAuth.Proofs.Service.Unchanged
import SessionAuth.Proofs.UseCase.Outcome
import SessionAuth.Proofs.Service.History
import SessionAuth.Proofs.Session.Lifetimes
import SessionAuth.Proofs.Service.Chain
import SessionAuth.Proofs.Service.Failure
import SessionAuth.Proofs.Session.Sparing
import SessionAuth.Proofs.Service.Authority
import SessionAuth.Proofs.Service.Confinement
import SessionAuth.Proofs.Service.Usable
import SessionAuth.Proofs.Event.Dispatch
import SessionAuth.Proofs.Event.Apart
import SessionAuth.Proofs.Http.Answering
import SessionAuth.Proofs.Http.Login
import SessionAuth.Proofs.Http.Protected
import SessionAuth.Proofs.Service.Blame
import SessionAuth.Proofs.UseCase.Coping
import SessionAuth.Proofs.Http.Blame
import SessionAuth.Proofs.Session.Exchange
import SessionAuth.Proofs.Session.Deletion
import SessionAuth.Proofs.Session.Tidying
import SessionAuth.Proofs.Session.Expiry
import SessionAuth.Proofs.Service.Expiry
import SessionAuth.Proofs.Collection.Latest
import SessionAuth.Proofs.Session.Ordering
import SessionAuth.Proofs.Service.Listing
import SessionAuth.Proofs.Program.Interference
import SessionAuth.Proofs.Session.Ending
import SessionAuth.Proofs.Event.Invalidation
import SessionAuth.Proofs.User.Paging
import SessionAuth.Proofs.Postgres.Pattern
import SessionAuth.Proofs.Postgres.Filtering
import SessionAuth.Proofs.Redis.Record
import SessionAuth.Proofs.Redis.Sweeping
import SessionAuth.Proofs.Redis.Pattern
import SessionAuth.Proofs.Session.Ticking
import SessionAuth.Proofs.Http.Labels
import SessionAuth.Proofs.Authorization.CachedPermissions
import SessionAuth.Proofs.Registration.SideBySide
