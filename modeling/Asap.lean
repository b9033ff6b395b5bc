import Asap.OrderedDict
import Asap.SqlTable
import Asap.DepthFirst
import Asap.DelegationStorage
import Asap.HashChain
import Asap.PythonValue
import Asap.AuditLog
import Asap.Interleaving
import Asap.AgentIdentity
import Asap.Capabilities
import Asap.ApprovalStore
import Asap.CapabilityEscalation
import Asap.AgentLifecycle
import Asap.AgentRegistration
import Asap.SlidingWindow
import Asap.JtiReplay
import Asap.HostJwt
import Asap.EnvelopeValidators
import Asap.CircuitBreaker
import Asap.ClientSend
import Asap.AgentJwt
import Asap.PythonJson
import Asap.JsonStability
import Asap.Isoformat
import Asap.AuditChain
import Asap.AuditConcurrency
import Asap.WsRecv
import Asap.WsClient
import Asap.WsDelivery
import Asap.WsAcks
import Asap.WsStream
import Asap.WsLifecycle
import Asap.WsLifecycleRuns
import Asap.WsServer
import Asap.WsPool
import Asap.Snapshots
import Asap.IsoOrder
import Asap.Metering
import Asap.Sla
import Asap.Framing
import Asap.LiteralSubstitution
import Asap.SseStream
import Asap.StreamErrors
import Asap.ClientBatch
import Asap.LambdaCodec
import Asap.Discovery
import Asap.ManifestCache
import Asap.ManifestSigning
import Asap.WebAuthn
import Asap.SelfAuth
import Asap.Market
import Asap.MarketRuns
import Asap.ModelFields
import Asap.Manifests
import Asap.JsonIndent
import Asap.ManifestRoundTrip
import Asap.Constraints
import Asap.ProtectedServer
import Asap.ReceiptCache
import Asap.AutoRegistration
import Asap.TypescriptClient
import Asap.TypescriptSessions
import Asap.RequestHandler
import Asap.ServerBatch
import Asap.RequestCompression
import Asap.Pipeline
import Asap.McpServer
import Asap.McpClient
import Asap.RegistryMerge
import Asap.IpAddress
import Asap.UrlGuards
import Asap.IssueForms
import Asap.IssueOps
import Asap.Withdrawals
import Asap.TraceHops
import Asap.DelegationTokens
import Asap.JwtTotality
import Asap.GrantAtomicity
import Asap.ApprovalRuns
import Asap.HostIndex
import Asap.PayloadTypes
import Asap.WsAckTypes
import Asap.UsageHooks
import Asap.MeteringTotals
import Asap.Rounding
import Asap.Percentile
import Asap.SlaConditions
import Asap.TokenBucket
import Asap.WebhookDelivery
import Asap.RateLimiter
import Asap.ManifestCacheRuns
import Asap.RemoteErrors
import Asap.BoundedExecutor
import Asap.WsServerLoop
import Asap.ContentNegotiation
import Asap.AgentLifetimes
import Asap.JwksCache
import Asap.Metrics
import Asap.LogRedaction
import Asap.Regex
import Asap.Challenge
import Asap.SpecMerge
import Asap.AuditCanonical
import Asap.RegistryBranches
import Asap.MetricsText
import Asap.PathTemplates
import Asap.TsRemoteErrors
import Asap.Fueled
import Asap.OpenapiMapping
import Asap.OpenapiReferences
import Asap.OpenapiIds
import Asap.CookieHeader
import Asap.OpenapiRequests
import Asap.OpenapiRouting
import Asap.RegexLanguage
import Asap.AgentUrns
import Asap.RegistryValidation
import Asap.RegistryFetch
import Asap.OAuth2Client
import Asap.TokenIntrospection
import Asap.TaskStates
import Asap.DelegationApi
