import KeelRouter.LeaseQuiescence
import KeelRouter.PressureBalance
import KeelRouter.ConfigRanking
import KeelRouter.RequestAccounting
import KeelRouter.AdmissionCeiling
import KeelRouter.RoutingTotality
import KeelRouter.PressurePick
import KeelRouter.OutputLimit
import KeelRouter.EstimateBounds
import KeelRouter.SnapshotInvariant
import KeelRouter.PassiveEjection
import KeelRouter.CapacityCheck
import KeelRouter.ScrapeNoninterference
import KeelRouter.ReferenceSimulation
import KeelRouter.StreamCharge
import KeelRouter.ReferenceStream
import KeelRouter.LabelLookup
import KeelRouter.HitRateWindow
import KeelRouter.DecayCredit
import KeelRouter.UsageInjection
import KeelRouter.ExpositionGrammar
import KeelRouter.PromptWords
import KeelRouter.UpstreamBases
import KeelRouter.RouteIsolation
import KeelRouter.EntryTable
import KeelRouter.CyclicWindow
import KeelRouter.RoundRobinFairness
import KeelRouter.TraceExplanation
import KeelRouter.HealthRaces
import KeelRouter.WarnOnce
import KeelRouter.TokenRatioAlarm
import KeelRouter.DriftAlarm
import KeelRouter.ResultConservation
import KeelRouter.BaselineTies
import KeelRouter.SystemLeases
import KeelRouter.SystemSafety
import KeelRouter.RequestTrace
import KeelRouter.SystemEstimates
import KeelRouter.FairShare
import KeelRouter.CeilingReport
import KeelRouter.SignalGauges
import KeelRouter.RequestForwarding
import KeelRouter.LoadRun
import KeelRouter.ResultFiles
import KeelRouter.TraceGenerator
import KeelRouter.LeakMonitor
import KeelRouter.ReferenceRequests
import KeelRouter.SystemDrain
