import ThresholdTrim.Baseline
import ThresholdTrim.Calibration
import ThresholdTrim.Classification
import ThresholdTrim.Command.Arguments
import ThresholdTrim.Command.Calibrate
import ThresholdTrim.Command.Failure
import ThresholdTrim.Command.Files
import ThresholdTrim.Command.Path
import ThresholdTrim.Command.Program
import ThresholdTrim.Config
import ThresholdTrim.Config.BoardList
import ThresholdTrim.Config.Decode
import ThresholdTrim.Config.Validate
import ThresholdTrim.Config.VmmSpec
import ThresholdTrim.Context
import ThresholdTrim.Csv
import ThresholdTrim.Decimal
import ThresholdTrim.Device
import ThresholdTrim.Document
import ThresholdTrim.Error
import ThresholdTrim.FrontEnd
import ThresholdTrim.FrontEnd.Linear
import ThresholdTrim.FrontEnd.Model
import ThresholdTrim.FrontEnd.Simulated
import ThresholdTrim.Geometry
import ThresholdTrim.Journal
import ThresholdTrim.Json
import ThresholdTrim.Main
import ThresholdTrim.Mask
import ThresholdTrim.Pool
import ThresholdTrim.Proofs.Alignment
import ThresholdTrim.Proofs.BaselineRecords
import ThresholdTrim.Proofs.BelowBaseline
import ThresholdTrim.Proofs.Binary
import ThresholdTrim.Proofs.Binary.Arithmetic
import ThresholdTrim.Proofs.Binary.Counts
import ThresholdTrim.Proofs.Binary.Rounding
import ThresholdTrim.Proofs.Binary.Value
import ThresholdTrim.Proofs.Binary.Whole
import ThresholdTrim.Proofs.CommandResult
import ThresholdTrim.Proofs.Configurations
import ThresholdTrim.Proofs.Course
import ThresholdTrim.Proofs.Course.Baseline
import ThresholdTrim.Proofs.Course.Calibration
import ThresholdTrim.Proofs.Course.Sampling
import ThresholdTrim.Proofs.Course.Threshold
import ThresholdTrim.Proofs.Course.Trim
import ThresholdTrim.Proofs.DeepMerge
import ThresholdTrim.Proofs.DistinctDevices
import ThresholdTrim.Proofs.Documents
import ThresholdTrim.Proofs.Escalation
import ThresholdTrim.Proofs.Exact
import ThresholdTrim.Proofs.Files
import ThresholdTrim.Proofs.FinalContext
import ThresholdTrim.Proofs.FinalDac
import ThresholdTrim.Proofs.FirstBatch
import ThresholdTrim.Proofs.HotChannels
import ThresholdTrim.Proofs.IndexLists
import ThresholdTrim.Proofs.Journal
import ThresholdTrim.Proofs.LastReading
import ThresholdTrim.Proofs.LeastSquares
import ThresholdTrim.Proofs.LevelNoise
import ThresholdTrim.Proofs.MarginRaise
import ThresholdTrim.Proofs.MaskHistory
import ThresholdTrim.Proofs.MaskedChannels
import ThresholdTrim.Proofs.Median
import ThresholdTrim.Proofs.Meters
import ThresholdTrim.Proofs.Mode
import ThresholdTrim.Proofs.NoiselessLine
import ThresholdTrim.Proofs.Outputs
import ThresholdTrim.Proofs.PassAccounts
import ThresholdTrim.Proofs.Pool
import ThresholdTrim.Proofs.Pruning
import ThresholdTrim.Proofs.Rank
import ThresholdTrim.Proofs.Reentry
import ThresholdTrim.Proofs.Registers
import ThresholdTrim.Proofs.Retries
import ThresholdTrim.Proofs.Scalar
import ThresholdTrim.Proofs.Seeds
import ThresholdTrim.Proofs.Settings
import ThresholdTrim.Proofs.ShrinkSearch
import ThresholdTrim.Proofs.Steady
import ThresholdTrim.Proofs.SteadyPass
import ThresholdTrim.Proofs.TwoRuns
import ThresholdTrim.Proofs.TwoRuns.Stages
import ThresholdTrim.Proofs.UsableDevices
import ThresholdTrim.Proofs.VerifiedThreshold
import ThresholdTrim.Proofs.Workload
import ThresholdTrim.RowLog
import ThresholdTrim.Sampler
import ThresholdTrim.Scalar
import ThresholdTrim.Settings
import ThresholdTrim.Stage
import ThresholdTrim.Statistics
import ThresholdTrim.Text
import ThresholdTrim.Text.Quoted
import ThresholdTrim.Threshold
import ThresholdTrim.Toml.Lexical
import ThresholdTrim.Toml.Parser
import ThresholdTrim.Toml.Tables
import ThresholdTrim.Trim
