import TaxLiability.Agent.BudgetDeny
import TaxLiability.Agent.BudgetDrift
import TaxLiability.Agent.Ceiling
import TaxLiability.Agent.Checkpointer
import TaxLiability.Agent.ChunkIds
import TaxLiability.Agent.CostLedger
import TaxLiability.Agent.Deadline
import TaxLiability.Agent.Evidence
import TaxLiability.Agent.Idempotency
import TaxLiability.Agent.Messages
import TaxLiability.Agent.Readiness
import TaxLiability.Agent.Refunds
import TaxLiability.Agent.Session
import TaxLiability.Agent.ShapeDocs
import TaxLiability.Agent.Sse
import TaxLiability.Agent.Synthesis
import TaxLiability.Agent.Threads
import TaxLiability.Agent.ToolCalls
import TaxLiability.Agent.Trajectory
import TaxLiability.Api.IdempotencyService
import TaxLiability.Api.Summary
import TaxLiability.Embeddings.Similar
import TaxLiability.Embeddings.TaxpayerEmbedding
import TaxLiability.Evals.CostGate
import TaxLiability.Evals.TrajectoryMatch
import TaxLiability.Lambda.TaxpayerLookupHandler
import TaxLiability.Lambda.TaxpayerRecord
import TaxLiability.Llm.Correlation
import TaxLiability.Llm.CostMiddleware
import TaxLiability.Llm.LlmProxyController
import TaxLiability.Machinery.BigDecimal
import TaxLiability.Machinery.Binary64
import TaxLiability.Machinery.Causal
import TaxLiability.Machinery.Decimal
import TaxLiability.Machinery.Glob
import TaxLiability.Machinery.Intervals
import TaxLiability.Machinery.Json
import TaxLiability.Machinery.JsonText
import TaxLiability.Machinery.Lines
import TaxLiability.Machinery.Marks
import TaxLiability.Machinery.Objects
import TaxLiability.Machinery.Python
import TaxLiability.Machinery.Retry
import TaxLiability.Machinery.Rounding
import TaxLiability.Machinery.Simulation
import TaxLiability.Machinery.StableSort
import TaxLiability.Machinery.Tally
import TaxLiability.Machinery.TokenBucket
import TaxLiability.Machinery.Transcript
import TaxLiability.Machinery.Upsert
import TaxLiability.Machinery.Url
import TaxLiability.Machinery.Uuid
import TaxLiability.Machinery.Validation
import TaxLiability.Mcp.Agreement
import TaxLiability.Mcp.Amounts
import TaxLiability.Mcp.Arguments
import TaxLiability.Mcp.Chat
import TaxLiability.Mcp.Dispatch
import TaxLiability.Mcp.Flatten
import TaxLiability.Mcp.Numeric
import TaxLiability.Mcp.Observability
import TaxLiability.Mcp.RagClients
import TaxLiability.Mcp.Replay
import TaxLiability.Mcp.Routes
import TaxLiability.Mcp.Spend
import TaxLiability.Mcp.Sse
import TaxLiability.Mcp.Tools
import TaxLiability.Observability.CorrelationIdFilter
import TaxLiability.Oidc.TrustPolicy
import TaxLiability.Orders.Amounts
import TaxLiability.Orders.Atomic
import TaxLiability.Orders.OrderController
import TaxLiability.Orders.OrderRepository
import TaxLiability.Orders.RefundLedger
import TaxLiability.Outbox.Delivery
import TaxLiability.Outbox.LastSent
import TaxLiability.Outbox.Order
import TaxLiability.Outbox.OutboxPublisher
import TaxLiability.Rag.Cache
import TaxLiability.Rag.Calls
import TaxLiability.Rag.Chunker
import TaxLiability.Rag.Cohere
import TaxLiability.Rag.Corpus
import TaxLiability.Rag.DocChunks
import TaxLiability.Rag.Embedder
import TaxLiability.Rag.Epochs
import TaxLiability.Rag.Fusion
import TaxLiability.Rag.Generation
import TaxLiability.Rag.Hybrid
import TaxLiability.Rag.Ingest
import TaxLiability.Rag.Mmr
import TaxLiability.Rag.Rerank
import TaxLiability.Rag.Service
import TaxLiability.ReadModel.Convergence
import TaxLiability.ReadModel.KafkaErrorHandling
import TaxLiability.ReadModel.Projection
import TaxLiability.ReadModel.ReadThrough
import TaxLiability.ReadModel.TaxpayerReadModel
import TaxLiability.ReadModel.Tenancy
import TaxLiability.Security.RateLimitFilter
import TaxLiability.Security.Throttle
import TaxLiability.Service.BracketResolvers
import TaxLiability.Service.ProgressiveStateBracketResolver
import TaxLiability.Service.TaxBracket
import TaxLiability.Service.TaxLiabilityService
import TaxLiability.Sidecar.Documents
import TaxLiability.Sidecar.LlmProxyClient
import TaxLiability.Sidecar.Models
import TaxLiability.Web.SafeLocalStorage
import TaxLiability.Web.TaxpayerChat
