import NightWatch.Safety.Egress
import NightWatch.Safety.GenerationRuns
import NightWatch.Safety.TicketRuns
import NightWatch.Proxy.EvidenceRuns
import NightWatch.ProdObserve.LedgerRuns
import NightWatch.ProdObserve.ReceiptShape
import NightWatch.Triage.EvidenceRuns
import NightWatch.Validation.ShardCoverage
import NightWatch.EvidenceRetention.Receipts
import NightWatch.Campaign.Budget
import NightWatch.Oracles.ProjectionRenaming
import NightWatch.Oracles.PassCoverage
import NightWatch.Portfolio.Replan
import NightWatch.Portfolio.AllocationRuns
import NightWatch.ProdPrivacy.ValueFree
import NightWatch.Oracles.ClusterRuns
import NightWatch.ReviewStore.StoreRuns
import NightWatch.Source.ClosureSoundness
import NightWatch.Source.BodyConstructs
import NightWatch.ChangeIntelligence.ImpactSelection
import NightWatch.Exploration.SafetyRuns
import NightWatch.Auth.BundleRuns
import NightWatch.SelfDevPromotion.ApplyRuns
import NightWatch.Source.ProtoExactness
import NightWatch.WorkingMemory.MemoryRuns
import NightWatch.WorkingMemory.Secrets
import NightWatch.AgentRuntime.CapRuns
import NightWatch.Proxy.AnswerSets
import NightWatch.AgentRuntime.ResumeCursors
import NightWatch.AgentRuntime.ResumedCeilings
import NightWatch.AgentRuntime.CampaignCompletion
import NightWatch.Triage.ExecutorHealth
import NightWatch.AgentRuntime.CheckpointBytes
import NightWatch.AgentRuntime.Reparsing
import NightWatch.AgentRuntime.WallTime
import NightWatch.AgentRuntime.Outages
import NightWatch.AgentRuntime.BilledSpend
import NightWatch.Proxy.LeaseExclusion
import NightWatch.Policy.EmbeddedScreening
import NightWatch.Portfolio.AllocationAudit
import NightWatch.Oracles.FindingIdentity
import NightWatch.Oracles.SumRelation
import NightWatch.Triage.JourneyGuard
import NightWatch.Triage.RejectedPlans
import NightWatch.Triage.DocumentIdentity
import NightWatch.Oracles.StateEquality
import NightWatch.Triage.ClusterInvariants
import NightWatch.Source.ProtoLines
import NightWatch.CampaignIntelligence.ReductionProof
import NightWatch.CampaignIntelligence.ClusterV2
import NightWatch.SemanticCoverage.GraphNormalization
import NightWatch.Journeys.ReplayVerdicts
import NightWatch.Campaign.ResumeTerminal
import NightWatch.Source.PhpTypeFlow
import NightWatch.ReproductionSurface.SourceSelection
