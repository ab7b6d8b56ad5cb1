import KongRust.Router.ExpressionText
import KongRust.Router.Acceptance
import KongRust.Router.Stream
import KongRust.RateLimit.Cleanup
import KongRust.RateLimit.Atomicity
import KongRust.Budget.Tail
import KongRust.Budget.OpenRows
import KongRust.Enforcement.Recovery
import KongRust.Budget.Fencing
import KongRust.Enforcement.Charging
import KongRust.Enforcement.QuotaCharges
import KongRust.Storage.Indexes
import KongRust.Cluster.Versions
import KongRust.Cluster.Pushes
import KongRust.Cluster.Reports
import KongRust.Admin.Convergence
import KongRust.Cluster.Registry
import KongRust.Admin.Export
import KongRust.Admin.Walks
import KongRust.Admin.Cache
import KongRust.Admin.Coverage
import KongRust.Pricing.Lookup
import KongRust.Postgres.Migrations
import KongRust.Postgres.Timestamps
import KongRust.Crud.Patches
import KongRust.Crud.Isolation
import KongRust.Proxy.Certificates
import KongRust.Proxy.RingRefresh
import KongRust.Proxy.LeastConnections
import KongRust.Proxy.RequestBody
import KongRust.Proxy.ClientIp
import KongRust.Ai.AnthropicStream
import KongRust.Ai.ToolCalls
import KongRust.Ai.GeminiStream
import KongRust.Ai.AnthropicAnswers
import KongRust.Ai.StreamTerminal
import KongRust.Ai.Fairness
import KongRust.Ai.Auth
import KongRust.Ai.PromptGuard
import KongRust.Ai.StreamPolicy
import KongRust.Ai.EventStream
import KongRust.Usage.Normalizer
import KongRust.Usage.Writer
import KongRust.Budget.AmountText
import KongRust.Budget.Overflow
import KongRust.Config.Apply
