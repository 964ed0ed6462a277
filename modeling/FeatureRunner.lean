import FeatureRunner.Main
import FeatureRunner.FileTree
import FeatureRunner.Action.Script
import FeatureRunner.Json.Line
import FeatureRunner.Json.Tagged
import FeatureRunner.Proofs.Action.Preservation
import FeatureRunner.Proofs.Action.Avoidance
import FeatureRunner.Proofs.Run.Events
import FeatureRunner.Proofs.Run.StepCourse
import FeatureRunner.Proofs.Run.Dispatching
import FeatureRunner.Proofs.Run.FailureRecovery
import FeatureRunner.Proofs.Run.ShortCircuiting
import FeatureRunner.Proofs.Run.StashLifetimes
import FeatureRunner.Proofs.Run.HiddenChange
import FeatureRunner.Proofs.Run.Likeness
import FeatureRunner.Proofs.Run.RowIndependence
import FeatureRunner.Proofs.Run.EquivalentScenarios
import FeatureRunner.Proofs.Report.Executions
import FeatureRunner.Proofs.Registry.History
import FeatureRunner.Proofs.Feature.BackgroundReplay
import FeatureRunner.Proofs.Command.Stages
import FeatureRunner.Proofs.Template.Grammar
import FeatureRunner.Proofs.Template.Writing
import FeatureRunner.Proofs.Template.TokenFree
import FeatureRunner.Proofs.Run.StepWays
import FeatureRunner.Proofs.Recorder.Calls
import FeatureRunner.Proofs.Settings.Readings
import FeatureRunner.Proofs.Command.Answers
import FeatureRunner.Proofs.Run.StepStatus
import FeatureRunner.Proofs.Run.OutputFormat
import FeatureRunner.Proofs.Run.AddedDefinitions
import FeatureRunner.Proofs.Pattern.Literals
import FeatureRunner.Proofs.Library.Precedence
import FeatureRunner.Proofs.Run.ExtraFields
import FeatureRunner.Proofs.Tags.Selection
import FeatureRunner.Proofs.Tags.Expressions
import FeatureRunner.Proofs.Feature.FaultLocation
import FeatureRunner.Proofs.Json.EnvelopeText
