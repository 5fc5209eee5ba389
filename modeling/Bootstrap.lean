import Bootstrap.Act
import Bootstrap.Artifact
import Bootstrap.Attempt
import Bootstrap.Bulletin
import Bootstrap.Command
import Bootstrap.CommandLine.Invocation
import Bootstrap.CommandLine.Program
import Bootstrap.CommandLine.Summary
import Bootstrap.Compiler
import Bootstrap.Corpus
import Bootstrap.Disk.Access
import Bootstrap.Disk.Files
import Bootstrap.Disk.Launch
import Bootstrap.Disk.Walk
import Bootstrap.Engine
import Bootstrap.External.Engine
import Bootstrap.External.Host
import Bootstrap.External.Run
import Bootstrap.External.World
import Bootstrap.Failure
import Bootstrap.Files.Error
import Bootstrap.Files.Handle
import Bootstrap.Files.Map
import Bootstrap.Fixpoint
import Bootstrap.Json.Node
import Bootstrap.Json.Number
import Bootstrap.Json.Value
import Bootstrap.Ladder
import Bootstrap.Log.Guard
import Bootstrap.Log.Logger
import Bootstrap.Log.Record
import Bootstrap.Log.Ring
import Bootstrap.Log.Target
import Bootstrap.Main
import Bootstrap.Path
import Bootstrap.Proofs.Account
import Bootstrap.Proofs.AnyHost
import Bootstrap.Proofs.AttemptCourse
import Bootstrap.Proofs.BuildOnce
import Bootstrap.Proofs.Climb
import Bootstrap.Proofs.ConsoleLines
import Bootstrap.Proofs.ConsoleSummary
import Bootstrap.Proofs.Convergence
import Bootstrap.Proofs.CorpusReading
import Bootstrap.Proofs.CorpusTests
import Bootstrap.Proofs.Delivery
import Bootstrap.Proofs.Determinism
import Bootstrap.Proofs.Discovery
import Bootstrap.Proofs.EngineFleet
import Bootstrap.Proofs.EngineReset
import Bootstrap.Proofs.EnginesAgree
import Bootstrap.Proofs.FailureGroups
import Bootstrap.Proofs.FileNames
import Bootstrap.Proofs.Filling
import Bootstrap.Proofs.Fingerprints
import Bootstrap.Proofs.FirstDifference
import Bootstrap.Proofs.FixpointCheck
import Bootstrap.Proofs.FreshArtifact
import Bootstrap.Proofs.Generation
import Bootstrap.Proofs.Interchange
import Bootstrap.Proofs.Isolation
import Bootstrap.Proofs.JoinedPaths
import Bootstrap.Proofs.LevelFilter
import Bootstrap.Proofs.Lifetime
import Bootstrap.Proofs.Listing
import Bootstrap.Proofs.LogLines
import Bootstrap.Proofs.LoggerHistory
import Bootstrap.Proofs.Memo
import Bootstrap.Proofs.Numerals
import Bootstrap.Proofs.Occurrences
import Bootstrap.Proofs.Oracle
import Bootstrap.Proofs.PartialSettings
import Bootstrap.Proofs.PrintedValues
import Bootstrap.Proofs.Purity
import Bootstrap.Proofs.Recording
import Bootstrap.Proofs.ReportText
import Bootstrap.Proofs.Requests
import Bootstrap.Proofs.ResolvedPaths
import Bootstrap.Proofs.Retention
import Bootstrap.Proofs.RootCause
import Bootstrap.Proofs.SearchCrash
import Bootstrap.Proofs.SettingsText
import Bootstrap.Proofs.SharedHandles
import Bootstrap.Proofs.Spans
import Bootstrap.Proofs.StageFailures
import Bootstrap.Proofs.StoredPaths
import Bootstrap.Proofs.TestRun
import Bootstrap.Proofs.TimesOfDay
import Bootstrap.Proofs.ToyGenerations
import Bootstrap.Proofs.ToyWorld
import Bootstrap.Proofs.Verdict
import Bootstrap.Proofs.WholeRun
import Bootstrap.Proofs.WrittenText
import Bootstrap.Report
import Bootstrap.Result
import Bootstrap.Session
import Bootstrap.Settings
import Bootstrap.Settings.Text
import Bootstrap.Stage
import Bootstrap.Table
import Bootstrap.Text.Blank
import Bootstrap.Text.Escaped
import Bootstrap.Text.Numeral
import Bootstrap.Text.Printable
import Bootstrap.Text.Utf8
import Bootstrap.Toy.Engine
import Bootstrap.Toy.Module
import Bootstrap.Toy.World
import Bootstrap.Trials
import Bootstrap.Verification
