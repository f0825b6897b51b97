import NullMiddleware.Boundary
import NullMiddleware.Identity
import NullMiddleware.Logging.Rehearsal
import NullMiddleware.Middleware
import NullMiddleware.Session.Run
import NullMiddleware.Proofs.Latch.Run
import NullMiddleware.Proofs.Latch.Attempt
import NullMiddleware.Proofs.Latch.Fate
import NullMiddleware.Proofs.Latch.Granularity
import NullMiddleware.Proofs.Lifecycle.BusyPeriod
import NullMiddleware.Proofs.Context
import NullMiddleware.Proofs.Middleware.Run
import NullMiddleware.Proofs.Middleware.Nodes
import NullMiddleware.Proofs.Latch.Race
import NullMiddleware.Proofs.Lifecycle.Sharing
import NullMiddleware.Proofs.Lifecycle.Shutdown
import NullMiddleware.Proofs.Switchboard.Labels
import NullMiddleware.Proofs.Boundary
import NullMiddleware.Proofs.Middleware.Outcomes
import NullMiddleware.Proofs.Middleware.Ids
import NullMiddleware.Proofs.Process.Ids
import NullMiddleware.Proofs.Gid
import NullMiddleware.Proofs.Sequence
import NullMiddleware.Proofs.Process.Gids
import NullMiddleware.Proofs.Middleware.Refusals
import NullMiddleware.Proofs.Middleware.Names
import NullMiddleware.Proofs.Middleware.StepwiseCreation
import NullMiddleware.Proofs.Middleware.ShutdownRace
import NullMiddleware.Proofs.Switchboard.Tokens
import NullMiddleware.Proofs.Config
import NullMiddleware.Proofs.Middleware.Settings
import NullMiddleware.Proofs.Lifecycle.Disposal
import NullMiddleware.Proofs.Middleware.Chronicle
import NullMiddleware.Proofs.Middleware.StepwiseLifetime
import NullMiddleware.Proofs.Middleware.Lifetimes
import NullMiddleware.Proofs.Middleware.Turnover
import NullMiddleware.Proofs.Latch.Polls
import NullMiddleware.Proofs.Switchboard.Panics
import NullMiddleware.Proofs.Switchboard.Path
import NullMiddleware.Proofs.Switchboard.Chains
import NullMiddleware.Proofs.Middleware.Separation
import NullMiddleware.Proofs.Lifecycle.Batches
import NullMiddleware.Proofs.Environment
import NullMiddleware.Proofs.Logging
