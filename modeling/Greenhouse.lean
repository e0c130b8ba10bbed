import Greenhouse.Numeric.F64
import Greenhouse.Numeric.Decimal
import Greenhouse.Numeric.OrderStatistics
import Greenhouse.Text.Separated
import Greenhouse.Platform.Domain
import Greenhouse.Platform.Store
import Greenhouse.Platform.Convergence
import Greenhouse.Platform.Phases
import Greenhouse.Platform.Reconnect
import Greenhouse.Platform.DriftCorrection
import Greenhouse.Controller.Domain
import Greenhouse.Controller.Validation
import Greenhouse.Controller.Config
import Greenhouse.Controller.Expiry
import Greenhouse.Controller.Faults
import Greenhouse.Controller.Hal
import Greenhouse.Controller.Sensing
import Greenhouse.Controller.Loops
import Greenhouse.Controller.Overrides
import Greenhouse.Controller.Interlocks
import Greenhouse.Controller.Health
import Greenhouse.Controller.Constraints
import Greenhouse.Process.Run
import Greenhouse.Process.Prog
import Greenhouse.Process.Pool
import Greenhouse.Controller.Bench
import Greenhouse.Controller.Session
import Greenhouse.Controller.BackHalf
import Greenhouse.Controller.InterlockRuns
import Greenhouse.Controller.InterlockFaults
import Greenhouse.Controller.Rest
import Greenhouse.Controller.RunLoop
import Greenhouse.Controller.LatchedWrites
import Greenhouse.Controller.Stuck
import Greenhouse.Controller.Isolation
import Greenhouse.Controller.Enrichment
import Greenhouse.Controller.Clamps
import Greenhouse.Process.Overlay
import Greenhouse.Controller.Simulation
import Greenhouse.Controller.Injections
import Greenhouse.Platform.Obedient
import Greenhouse.Contract.Acceptance
import Greenhouse.Controller.Dwell
import Greenhouse.Controller.Blind
import Greenhouse.Contract.Gate
import Greenhouse.Contract.Unapplied
import Greenhouse.Process.EventLoop
import Greenhouse.Process.Exclusive
import Greenhouse.Process.Grouped
import Greenhouse.Process.Carried
import Greenhouse.Optimizer.Reference
import Greenhouse.Optimizer.Pause
import Greenhouse.Optimizer.SingleFlight
import Greenhouse.Platform.Handling
import Greenhouse.Platform.Hub
import Greenhouse.Contract.Document
import Greenhouse.Controller.Telemetry
import Greenhouse.Controller.Publisher
import Greenhouse.Platform.Footprint
import Greenhouse.Platform.Profiles
import Greenhouse.Platform.Bookkeeping
import Greenhouse.Platform.FailedWrites
import Greenhouse.Platform.DriftFrames
import Greenhouse.Platform.Ingest
import Greenhouse.Platform.Standing
import Greenhouse.Platform.FaultHistory
import Greenhouse.Platform.Edges
import Greenhouse.Platform.Ingester
import Greenhouse.Platform.Broadcast
import Greenhouse.Platform.Buffer
import Greenhouse.Platform.Membership
import Greenhouse.Dashboard.FleetCards
import Greenhouse.Dashboard.StreamClient
import Greenhouse.Dashboard.Activity
import Greenhouse.Dashboard.AlertFrames
import Greenhouse.Dashboard.InterlockAlerts
import Greenhouse.Contract.Telemetry
import Greenhouse.Contract.FaultSet
import Greenhouse.Controller.Attribution
import Greenhouse.Controller.Fusion
import Greenhouse.Controller.Irrigation
import Greenhouse.Controller.ModeSelection
import Greenhouse.Contract.TimeGrammar
import Greenhouse.Controller.Shaping
import Greenhouse.Controller.Lifetime
import Greenhouse.Controller.Lighting
import Greenhouse.Controller.Challenges
import Greenhouse.Dashboard.Charts
import Greenhouse.Optimizer.Sampling
import Greenhouse.Optimizer.Evidence
import Greenhouse.Platform.PatchMerge
import Greenhouse.Optimizer.Clamping
import Greenhouse.Optimizer.RebuiltLight
import Greenhouse.Optimizer.SeedCopies
import Greenhouse.Numeric.Finite
import Greenhouse.Process.Timed
import Greenhouse.Controller.Plant
import Greenhouse.Controller.ClosedLoop
import Greenhouse.Controller.SimControl
import Greenhouse.Platform.Origins
import Greenhouse.Platform.Turns
import Greenhouse.Process.Drift
import Greenhouse.Optimizer.Planner
import Greenhouse.Optimizer.Horizons
import Greenhouse.Process.Collate
import Greenhouse.Platform.Summaries
import Greenhouse.Platform.ChartSeries
import Greenhouse.Contract.TrustedReadings
import Greenhouse.Optimizer.Tokens
import Greenhouse.Process.InARow
import Greenhouse.Optimizer.FidelityDrift
import Greenhouse.Numeric.Mixing
import Greenhouse.Controller.Generator
