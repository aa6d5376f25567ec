import CliGen.Artifact.Assembly
import CliGen.Artifact.Basic
import CliGen.Artifact.Writer
import CliGen.CommandLine.Arguments
import CliGen.CommandLine.Help
import CliGen.CommandLine.Request
import CliGen.CommandLine.Result
import CliGen.CommandLine.Run
import CliGen.Config.Basic
import CliGen.Config.Document
import CliGen.Config.File
import CliGen.Decimal.Binary64
import CliGen.Decimal.Shortest
import CliGen.Description
import CliGen.Generation
import CliGen.Hook.Index
import CliGen.Hook.Resolver
import CliGen.Input
import CliGen.Instances
import CliGen.Main
import CliGen.Naming
import CliGen.Problem
import CliGen.Proofs.Artifact.Accounts
import CliGen.Proofs.Artifact.Assembly
import CliGen.Proofs.Artifact.Batches
import CliGen.Proofs.Artifact.Blocked
import CliGen.Proofs.Artifact.Confined
import CliGen.Proofs.Artifact.DryRun
import CliGen.Proofs.Artifact.Interruptions
import CliGen.Proofs.Artifact.Overlays
import CliGen.Proofs.Artifact.PlainPaths
import CliGen.Proofs.Artifact.Refusals
import CliGen.Proofs.Artifact.Writing
import CliGen.Proofs.CommandLine.Validation
import CliGen.Proofs.Config.Changes
import CliGen.Proofs.Config.File
import CliGen.Proofs.Config.RoundTrip
import CliGen.Proofs.Generation.Isolation
import CliGen.Proofs.Generation.Runs
import CliGen.Proofs.Generation.UserFiles
import CliGen.Proofs.Hook.CandidateOrder
import CliGen.Proofs.Hook.CatchAll
import CliGen.Proofs.Hook.Fallback
import CliGen.Proofs.Hook.Groups
import CliGen.Proofs.Hook.OwnStub
import CliGen.Proofs.Hook.Reordering
import CliGen.Proofs.Hook.Settled
import CliGen.Proofs.Naming.Camel
import CliGen.Proofs.Naming.Words
import CliGen.Proofs.Outcome
import CliGen.Proofs.Storage.Beside
import CliGen.Proofs.Storage.Confined
import CliGen.Proofs.Storage.Following
import CliGen.Proofs.Storage.Frame
import CliGen.Proofs.Storage.Operations
import CliGen.Proofs.Storage.Paths
import CliGen.Proofs.Storage.Steps
import CliGen.Proofs.Target.ActionVariables
import CliGen.Proofs.Target.BindingPatterns
import CliGen.Proofs.Target.Blueprint
import CliGen.Proofs.Target.Blueprint.Builtin
import CliGen.Proofs.Target.Blueprint.JavaScript
import CliGen.Proofs.Target.Blueprint.Python
import CliGen.Proofs.Target.Blueprint.Rust
import CliGen.Proofs.Target.Builtin
import CliGen.Proofs.Target.CapturedNames
import CliGen.Proofs.Target.Choices
import CliGen.Proofs.Target.CommandCode
import CliGen.Proofs.Target.Comments
import CliGen.Proofs.Target.Composition
import CliGen.Proofs.Target.Contexts
import CliGen.Proofs.Target.Cover
import CliGen.Proofs.Target.CrateVersion
import CliGen.Proofs.Target.Declarations
import CliGen.Proofs.Target.Declarers
import CliGen.Proofs.Target.Emission
import CliGen.Proofs.Target.EnvVariables
import CliGen.Proofs.Target.HookFile
import CliGen.Proofs.Target.HookPlaces
import CliGen.Proofs.Target.Identifiers
import CliGen.Proofs.Target.IntegerDefaults
import CliGen.Proofs.Target.JavaScript
import CliGen.Proofs.Target.JsonManifests
import CliGen.Proofs.Target.Literals
import CliGen.Proofs.Target.PackageName
import CliGen.Proofs.Target.ParameterKeys
import CliGen.Proofs.Target.PostOrder
import CliGen.Proofs.Target.Python
import CliGen.Proofs.Target.PythonParameters
import CliGen.Proofs.Target.Registration
import CliGen.Proofs.Target.Rendering
import CliGen.Proofs.Target.Rust
import CliGen.Proofs.Target.Sections
import CliGen.Proofs.Target.Texts
import CliGen.Proofs.Target.TomlManifests
import CliGen.Proofs.Target.Variables
import CliGen.Proofs.Template.Fields
import CliGen.Proofs.Template.Reading
import CliGen.Proofs.Template.Safe
import CliGen.Proofs.Template.Shape
import CliGen.Proofs.Template.Text
import CliGen.Proofs.Text.Blank
import CliGen.Proofs.Text.Literal
import CliGen.Proofs.Text.OneLine
import CliGen.Proofs.Toml.Line
import CliGen.Proofs.Toml.Printed
import CliGen.Proofs.Toml.Tables
import CliGen.Proofs.Toml.Text
import CliGen.Proofs.Tree.Ceiling
import CliGen.Proofs.Tree.Clashes
import CliGen.Proofs.Tree.Congruence
import CliGen.Proofs.Tree.Entries
import CliGen.Proofs.Tree.Forest
import CliGen.Proofs.Tree.Invariants
import CliGen.Proofs.Tree.Levels
import CliGen.Proofs.Tree.Listing
import CliGen.Proofs.Tree.Names
import CliGen.Proofs.Tree.Parameters
import CliGen.Proofs.Tree.Placement
import CliGen.Proofs.Tree.Problems
import CliGen.Proofs.Tree.Pruning
import CliGen.Proofs.Tree.Reading
import CliGen.Proofs.Tree.Recursion
import CliGen.Proofs.Tree.Relisting
import CliGen.Proofs.Tree.Reordering
import CliGen.Proofs.Tree.Siblings
import CliGen.Proofs.Tree.TypedChoices
import CliGen.Proofs.Value.Json
import CliGen.Storage.Basic
import CliGen.Storage.Files
import CliGen.Storage.Path
import CliGen.Target.Basic
import CliGen.Target.Builtin
import CliGen.Target.Context
import CliGen.Target.Emission
import CliGen.Target.Fragment
import CliGen.Target.JavaScript
import CliGen.Target.Python
import CliGen.Target.Registry
import CliGen.Target.Rust
import CliGen.Target.Templates.NodeJs
import CliGen.Target.Templates.Python
import CliGen.Target.Templates.Rust
import CliGen.Target.Templates.TypeScript
import CliGen.Target.Texts.NodeJs
import CliGen.Target.Texts.Python
import CliGen.Target.Texts.Rust
import CliGen.Target.Texts.TypeScript
import CliGen.Template.Basic
import CliGen.Template.Engine
import CliGen.Template.Pieces
import CliGen.Template.Reader
import CliGen.Template.Registration
import CliGen.Text.Ascii
import CliGen.Text.Blank
import CliGen.Text.Case
import CliGen.Text.CaseTable
import CliGen.Text.InvisibleTable
import CliGen.Toml.DateTime
import CliGen.Toml.Printer
import CliGen.Toml.Reader
import CliGen.Toml.Table
import CliGen.Tree.Basic
import CliGen.Tree.Build
import CliGen.Tree.Field
import CliGen.Tree.Param
import CliGen.Tree.Siblings
import CliGen.Value.Basic
import CliGen.Value.Compact
import CliGen.Value.Json
import CliGen.Value.Quoted
import CliGen.Yaml.Cursor
import CliGen.Yaml.Event
import CliGen.Yaml.Reader
import CliGen.Yaml.Scalar
import CliGen.Yaml.Text
import CliGen.Yaml.Token
