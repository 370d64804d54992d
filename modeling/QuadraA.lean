import QuadraA.E2E.SimultaneousInitiation
import QuadraA.E2E.BootstrapReplay
import QuadraA.Relay.PreKeyAcceptance
import QuadraA.Relay.SentMessages
import QuadraA.Runtime.RecoveryAgreement
import QuadraA.CliRs.RecoveryRefinement
import QuadraA.Runtime.ReplayBatches
import QuadraA.Runtime.RecoveryBarrier
import QuadraA.CliRs.SessionLocks
import QuadraA.Runtime.ConfigWrites
import QuadraA.CliRs.ConfigTransaction
import QuadraA.CliRs.ConfigTasks
import QuadraA.CliRs.Publication
import QuadraA.Relay.RetryExhaustion
import QuadraA.Relay.PreKeyCalls
import QuadraA.CliRs.ReplayBatches
import QuadraA.RuntimeRs.SendOutcomes
import QuadraA.CliRs.DeliveryReports
import QuadraA.CliRs.DaemonWaits
import QuadraA.Relay.TruthfulReports
import QuadraA.Relay.TokenAdmission
import QuadraA.Relay.RouteRequests
import QuadraA.Relay.FederationScope
import QuadraA.Relay.DiscoveryConsent
import QuadraA.Runtime.InboundAcks
import QuadraA.Transport.TimelyResponses
import QuadraA.Relay.RejectedEndorsements
import QuadraA.Runtime.DecryptedEnvelopes
import QuadraA.Messaging.ConcurrentChecks
import QuadraA.Runtime.RequestFraming
import QuadraA.Runtime.EncryptedSends
import QuadraA.RuntimeRs.AckedDeliveries
import QuadraA.Relay.RegistryIndexes
import QuadraA.Relay.PublishedDevices
import QuadraA.Messaging.OutboundStatus
import QuadraA.Relay.TrustQueryPages
import QuadraA.CoreRs.CollusionPenalty
import QuadraA.Trust.TrustComputer
import QuadraA.Trust.SybilDefense
import QuadraA.CoreRs.Identity
import QuadraA.Messaging.MessagePages
import QuadraA.Messaging.SignedEnvelopes
import QuadraA.Trust.InteractionHistory
import QuadraA.Messaging.SessionSearch
import QuadraA.CoreRs.JsonCbor
import QuadraA.Messaging.TokenBuckets
import QuadraA.Protocol.QuickAgentGroups
import QuadraA.Relay.SubscriptionBounds
import QuadraA.RuntimeRs.MessageViews
import QuadraA.RuntimeRs.DeliveryOrder
import QuadraA.RuntimeRs.ControlRequests
import QuadraA.CliRs.ClientRequests
import QuadraA.Runtime.PeerLocks
import QuadraA.E2E.SkippedKeys
