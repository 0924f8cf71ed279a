import ChartOperator.Binding
import ChartOperator.Build
import ChartOperator.Chart.Basic
import ChartOperator.Chart.Error
import ChartOperator.Chart.IgnoreRules
import ChartOperator.Chart.Loader
import ChartOperator.Chart.Metadata
import ChartOperator.Cluster
import ChartOperator.CommandLine.Flag
import ChartOperator.CommandLine.Parser
import ChartOperator.CommandLine.Usage
import ChartOperator.Config.Error
import ChartOperator.Config.File
import ChartOperator.Config.Flags
import ChartOperator.Config.Resolution
import ChartOperator.Config.Settings
import ChartOperator.Config.Variables
import ChartOperator.Duration.Basic
import ChartOperator.Duration.Parser
import ChartOperator.Environment.Expansion
import ChartOperator.Environment.Variable
import ChartOperator.FileTree.Basic
import ChartOperator.FileTree.Path
import ChartOperator.FileTree.Resolve
import ChartOperator.FileTree.Single
import ChartOperator.FileTree.Walk
import ChartOperator.Glob.CharClass
import ChartOperator.Glob.Matching
import ChartOperator.Glob.Pattern
import ChartOperator.Log.Event
import ChartOperator.Log.FieldPattern
import ChartOperator.Log.Filter
import ChartOperator.Log.Level
import ChartOperator.Log.Line
import ChartOperator.Main
import ChartOperator.Manager.Act
import ChartOperator.Manager.Basic
import ChartOperator.Manager.Error
import ChartOperator.Manager.Options
import ChartOperator.Manager.RunLoop
import ChartOperator.Manager.Start
import ChartOperator.Manager.Watcher
import ChartOperator.Metrics
import ChartOperator.Number.Binary64
import ChartOperator.Proofs.Addresses
import ChartOperator.Proofs.Binding
import ChartOperator.Proofs.Building
import ChartOperator.Proofs.ByteOrder
import ChartOperator.Proofs.Calls
import ChartOperator.Proofs.ChartTree
import ChartOperator.Proofs.Concurrency
import ChartOperator.Proofs.Configuration
import ChartOperator.Proofs.Content
import ChartOperator.Proofs.Controllers
import ChartOperator.Proofs.Counters
import ChartOperator.Proofs.Cycles
import ChartOperator.Proofs.Drafts
import ChartOperator.Proofs.Encoding
import ChartOperator.Proofs.Except
import ChartOperator.Proofs.Exposition
import ChartOperator.Proofs.FileOrder
import ChartOperator.Proofs.Gates
import ChartOperator.Proofs.IgnoreFiles
import ChartOperator.Proofs.IgnoreLines
import ChartOperator.Proofs.IgnorePatterns
import ChartOperator.Proofs.LeftOutCharts
import ChartOperator.Proofs.LegacySources
import ChartOperator.Proofs.Listings
import ChartOperator.Proofs.Lists
import ChartOperator.Proofs.Loading
import ChartOperator.Proofs.Lookup
import ChartOperator.Proofs.Matching
import ChartOperator.Proofs.Misconfiguration
import ChartOperator.Proofs.Names
import ChartOperator.Proofs.Patterns
import ChartOperator.Proofs.Planning
import ChartOperator.Proofs.Precedence
import ChartOperator.Proofs.Probes
import ChartOperator.Proofs.Registry
import ChartOperator.Proofs.RunLoop
import ChartOperator.Proofs.Scope
import ChartOperator.Proofs.Segments
import ChartOperator.Proofs.Selectors
import ChartOperator.Proofs.Signal
import ChartOperator.Proofs.SingleFile
import ChartOperator.Proofs.Starting
import ChartOperator.Proofs.Substitution
import ChartOperator.Proofs.Text
import ChartOperator.Proofs.Walk
import ChartOperator.Proofs.WatchFaults
import ChartOperator.Proofs.WatchList
import ChartOperator.Proofs.Ways
import ChartOperator.Proofs.WholeNumbers
import ChartOperator.Proofs.WholeSeconds
import ChartOperator.Reconciler.Basic
import ChartOperator.Reconciler.Draft
import ChartOperator.Reconciler.Pass
import ChartOperator.Resource.Gvk
import ChartOperator.Resource.LabelSelector
import ChartOperator.Resource.Object
import ChartOperator.Scope
import ChartOperator.Serving.BindAddress
import ChartOperator.Serving.Health
import ChartOperator.Serving.Listener
import ChartOperator.Serving.Response
import ChartOperator.Startup.Error
import ChartOperator.Startup.Plan
import ChartOperator.Startup.Process
import ChartOperator.Startup.Run
import ChartOperator.StringMap
import ChartOperator.Text.Alphanumeric
import ChartOperator.Text.Blank
import ChartOperator.Text.Decimal
import ChartOperator.Text.Digit
import ChartOperator.Text.Utf8
import ChartOperator.Watch.Entry
import ChartOperator.Watch.File
import ChartOperator.Yaml.Character
import ChartOperator.Yaml.Cursor
import ChartOperator.Yaml.Decode
import ChartOperator.Yaml.Document
import ChartOperator.Yaml.Error
import ChartOperator.Yaml.Grammar
import ChartOperator.Yaml.Layout
import ChartOperator.Yaml.Node
import ChartOperator.Yaml.Scalar.Block
import ChartOperator.Yaml.Scalar.Core
import ChartOperator.Yaml.Scalar.Folding
import ChartOperator.Yaml.Scalar.Plain
import ChartOperator.Yaml.Scalar.Quoted
import ChartOperator.Yaml.Tag
import ChartOperator.Yaml.Token
import ChartOperator.Yaml.Value
