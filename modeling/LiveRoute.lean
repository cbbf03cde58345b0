import LiveRoute.Execution.LoadableTrips
import LiveRoute.Execution.OutboxSweeps
import LiveRoute.Execution.TripIsolation
import LiveRoute.Dispatch.PlannerSession
import LiveRoute.Execution.Idempotency
import LiveRoute.Gateway.AcceptedProposals
import LiveRoute.Execution.PendingProposals
import LiveRoute.Authentication.TokenValidity
import LiveRoute.Authentication.Logout
import LiveRoute.Dispatch.SupervisorConsistency
import LiveRoute.Planner.ScratchAgreement
import LiveRoute.Transport.StreamClosing
import LiveRoute.Runtime.WorkTokens
import LiveRoute.Runtime.FreshProposals
import LiveRoute.Runtime.ReplanCauses
import LiveRoute.Transport.SnapshotRoundTrip
import LiveRoute.Transport.EventConversion
import LiveRoute.Planner.ReplanFacts
import LiveRoute.Providers.SeededHours
import LiveRoute.Routing.CacheRuns
import LiveRoute.Runtime.PriorityLanes
import LiveRoute.Gateway.SubscriptionHub
import LiveRoute.Runtime.CompletionReservations
import LiveRoute.Frontend.Directions
import LiveRoute.Runtime.ShardReplies
import LiveRoute.Dispatch.DeliveryRuns
