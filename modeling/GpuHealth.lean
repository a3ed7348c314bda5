import GpuHealth.Core.Runs
import GpuHealth.Core.Double
import GpuHealth.Core.CyclicBuffer
import GpuHealth.Types
import GpuHealth.Ring
import GpuHealth.Core.ListStats
import GpuHealth.Scorer
import GpuHealth.WindowScore
import GpuHealth.Scenarios.WindowRefinement
import GpuHealth.CText
import GpuHealth.Config
import GpuHealth.State
import GpuHealth.Nvml
import GpuHealth.Dcgm
import GpuHealth.Snapshot
import GpuHealth.Collector
import GpuHealth.Metrics
import GpuHealth.Scenarios.DcgmAbsence
import GpuHealth.Scenarios.Freshness
import GpuHealth.Scenarios.DcgmAvailability
import GpuHealth.Scenarios.LossPublication
import GpuHealth.Scenarios.PenaltyTable
import GpuHealth.Scenarios.ProbeFreshness
import GpuHealth.PollThreads
import GpuHealth.Scenarios.BaselineReload
import GpuHealth.Scenarios.EccWindow
import GpuHealth.Scenarios.LifetimeCounters
import GpuHealth.Enumeration
import GpuHealth.Scenarios.Identity
import GpuHealth.Core.LastWrite
import GpuHealth.HttpChild
import GpuHealth.Scenarios.Readiness
import GpuHealth.ConfigText
import GpuHealth.Scenarios.ConfigPrecedence
import GpuHealth.Scenarios.ConfigRange
import GpuHealth.ScoreOrder
import GpuHealth.Scenarios.HeatMonotone
import GpuHealth.Scenarios.DamageMonotone
import GpuHealth.Scenarios.GateReachable
import GpuHealth.Scenarios.CycleCoherence
import GpuHealth.Scenarios.ComparableProbe
import GpuHealth.Core.Framing
import GpuHealth.Ipc
import GpuHealth.Scenarios.IpcFraming
import GpuHealth.Scenarios.Liveness
import GpuHealth.ErrorTracking
import GpuHealth.Scenarios.ErrorAccounting
import GpuHealth.Scenarios.HardStreak
import GpuHealth.Scenarios.BackoffCadence
import GpuHealth.Core.Settings
import GpuHealth.StateText
import GpuHealth.Scenarios.BaselineAcceptance
import GpuHealth.Lifecycle
import GpuHealth.Scenarios.DcgmBalance
import GpuHealth.Scenarios.CommentLines
import GpuHealth.Core.Decimal
import GpuHealth.NumberText
import GpuHealth.Calendar
import GpuHealth.ProbeWriter
import GpuHealth.Scenarios.ProbeRoundTrip
import GpuHealth.Core.Exposition
import GpuHealth.Render
import GpuHealth.Scenarios.MetricsComplete
import GpuHealth.Core.TextFormat
import GpuHealth.Scenarios.LabelRoundTrip
import GpuHealth.Scenarios.GateSteps
import GpuHealth.Scenarios.NearestRank
import GpuHealth.Scenarios.RowRemap
import GpuHealth.Scenarios.DcgmDecoding
import GpuHealth.Scenarios.RestartAgreement
import GpuHealth.Scenarios.ProbeTtl
import GpuHealth.Core.Streams
import GpuHealth.Core.Buffer
import GpuHealth.IpcReceiver
import GpuHealth.Scenarios.ReceiverFraming
import GpuHealth.HttpConn
import GpuHealth.Scenarios.RequestLine
import GpuHealth.Scenarios.ResponseFraming
import GpuHealth.Scenarios.IntegerMetrics
import GpuHealth.Core.Bpf
import GpuHealth.Seccomp
import GpuHealth.Scenarios.SeccompFilter
import GpuHealth.PrintBuffer
import GpuHealth.Scenarios.BoundedAccumulation
import GpuHealth.ThreadLifecycle
import GpuHealth.Scenarios.ThreadJoins
import GpuHealth.Core.RetryLoops
import GpuHealth.TlsConn
import GpuHealth.Scenarios.PermanentErrors
import GpuHealth.Scenarios.PollInstant
import GpuHealth.Core.Checked
import GpuHealth.CheckedScorer
import GpuHealth.Scenarios.ScorerSafety
import GpuHealth.Scenarios.ThreadRefinement
import GpuHealth.Pipeline
import GpuHealth.Scenarios.EndToEnd
import GpuHealth.Core.FilePublication
import GpuHealth.FileWriters
import GpuHealth.Scenarios.CutFiles
import GpuHealth.Scenarios.WholeFiles
import GpuHealth.Core.Ledger
import GpuHealth.Serving
import GpuHealth.Scenarios.Confinement
import GpuHealth.Core.HttpReader
import GpuHealth.Scenarios.Replies
import GpuHealth.Scenarios.Scrape
import GpuHealth.Core.Tiling
import GpuHealth.Measurement
import GpuHealth.Scenarios.MeasuredRun
import GpuHealth.Core.Descriptors
import GpuHealth.Respawn
import GpuHealth.Scenarios.RespawnDescriptors
import GpuHealth.InitMessage
import GpuHealth.Scenarios.InitHandshake
import GpuHealth.Scenarios.Forgetting
