import ApiShapes.Arena.Lower
import ApiShapes.Arena.Node
import ApiShapes.Artifact.Name
import ApiShapes.Artifact.Record
import ApiShapes.Artifact.Render
import ApiShapes.Checker
import ApiShapes.CommandLine.Invocation
import ApiShapes.CommandLine.Run
import ApiShapes.Faults
import ApiShapes.FileTree.Basic
import ApiShapes.FileTree.Edit
import ApiShapes.FileTree.Listing
import ApiShapes.Glob.Match
import ApiShapes.Glob.Pattern
import ApiShapes.Handler.Extract
import ApiShapes.Handler.Table
import ApiShapes.Http
import ApiShapes.Json.Comments
import ApiShapes.Json.Value
import ApiShapes.Main
import ApiShapes.Module.Resolver
import ApiShapes.Number.Double
import ApiShapes.Number.Shortest
import ApiShapes.Path.Basic
import ApiShapes.Path.Normal
import ApiShapes.Program.Basic
import ApiShapes.Program.Load
import ApiShapes.Program.Names
import ApiShapes.Program.Types
import ApiShapes.Project.Build
import ApiShapes.Project.Configuration
import ApiShapes.Project.Error
import ApiShapes.Project.Load
import ApiShapes.Project.Settings
import ApiShapes.Route.Basic
import ApiShapes.Route.Segment
import ApiShapes.Shape.Basic
import ApiShapes.Shape.Encode
import ApiShapes.Shape.Print
import ApiShapes.Source.Module
import ApiShapes.Source.Parser.Basic
import ApiShapes.Source.Parser.Expression
import ApiShapes.Source.Parser.Statement
import ApiShapes.Source.Parser.Type
import ApiShapes.Source.Token
import ApiShapes.Source.Tree
import ApiShapes.Text.Alphabetic
import ApiShapes.Text.Blank
import ApiShapes.Text.Camel
import ApiShapes.Text.Casing
import ApiShapes.Text.CharClass
import ApiShapes.Text.Hex
import ApiShapes.Text.Identifier
import ApiShapes.Text.Quoted
import ApiShapes.Text.Reader
import ApiShapes.Text.Shown
import ApiShapes.Text.Split
import ApiShapes.Text.Word
import ApiShapes.Toml.TextTable
import ApiShapes.TsConfig.Basic
import ApiShapes.TsConfig.RootFiles
import ApiShapes.TsConfig.Written
import ApiShapes.Worklist
import ApiShapes.Proofs.Module.Resolver
import ApiShapes.Proofs.Arena.Growth
import ApiShapes.Proofs.Arena.Lowering
import ApiShapes.Proofs.Arena.Pointers
import ApiShapes.Proofs.Arena.Sound
import ApiShapes.Proofs.Arena.WellFormed
import ApiShapes.Proofs.Arena.Members
import ApiShapes.Proofs.Program.Specifiers
import ApiShapes.Proofs.Program.Blocks
import ApiShapes.Proofs.Program.Loading
import ApiShapes.Proofs.Program.Modules
import ApiShapes.Proofs.Checker.Everywhere
import ApiShapes.Proofs.Program.Symbols
import ApiShapes.Proofs.Program.Produced
import ApiShapes.Proofs.Program.Origin
import ApiShapes.Proofs.Program.Answers
import ApiShapes.Proofs.Program.Heritage
import ApiShapes.Proofs.Program.Exports
import ApiShapes.Proofs.Program.NameTrails
import ApiShapes.Proofs.Program.Unions
import ApiShapes.Proofs.Program.Expansion
import ApiShapes.Proofs.Program.AliasDepth
import ApiShapes.Proofs.Handler.Origin
import ApiShapes.Proofs.Handler.Unwrapping
import ApiShapes.Proofs.Handler.Layers
import ApiShapes.Proofs.Handler.Entries
import ApiShapes.Proofs.Shape.Steps
import ApiShapes.Proofs.Alike.Arena
import ApiShapes.Proofs.Alike.Lowering
import ApiShapes.Proofs.Alike.Types
import ApiShapes.Proofs.Alike.Encoding
import ApiShapes.Proofs.Alike.Handlers
import ApiShapes.Proofs.Alike.Names
import ApiShapes.Proofs.Alike.Program
import ApiShapes.Proofs.Alike.Blocks
import ApiShapes.Proofs.Program.Isolation
import ApiShapes.Proofs.Source.Tokens
import ApiShapes.Proofs.Source.Stepping
import ApiShapes.Proofs.Source.TypePhrases
import ApiShapes.Proofs.Shape.Printed
import ApiShapes.Proofs.Shape.ReadBack
import ApiShapes.Proofs.Shape.Pure
import ApiShapes.Proofs.Shape.Transcript
import ApiShapes.Proofs.Shape.Degraded
import ApiShapes.Proofs.Json.Lexemes
import ApiShapes.Proofs.Json.Trailing
import ApiShapes.Proofs.Json.Comments
import ApiShapes.Proofs.Path.Location
import ApiShapes.Proofs.Path.Below
import ApiShapes.Proofs.Text.Pieces
import ApiShapes.Proofs.Path.Climbing
import ApiShapes.Proofs.FileTree.Located
import ApiShapes.Proofs.FileTree.Changed
import ApiShapes.Proofs.FileTree.Listing
import ApiShapes.Proofs.Results
import ApiShapes.Proofs.TsConfig.Reading
import ApiShapes.Proofs.TsConfig.RootFiles
import ApiShapes.Proofs.TsConfig.Cycles
import ApiShapes.Proofs.TsConfig.Precedence
import ApiShapes.Proofs.Glob.Matching
import ApiShapes.Proofs.Glob.Reading
import ApiShapes.Proofs.TsConfig.Literal
import ApiShapes.Proofs.Project.Program
import ApiShapes.Proofs.Text.Blank
import ApiShapes.Proofs.Text.Lines
import ApiShapes.Proofs.Text.Bars
import ApiShapes.Proofs.Text.Camel
import ApiShapes.Proofs.Text.Identifier
import ApiShapes.Proofs.Route.Key
import ApiShapes.Proofs.Route.Segment
import ApiShapes.Proofs.Shape.Lines
import ApiShapes.Proofs.Shape.Unions
import ApiShapes.Proofs.Artifact.Declared
import ApiShapes.Proofs.Artifact.AliasName
import ApiShapes.Proofs.Artifact.Merged
import ApiShapes.Proofs.Project.Regenerate
import ApiShapes.Proofs.Shape.Bounded
import ApiShapes.Proofs.Module.Candidates
import ApiShapes.Proofs.FileTree.Created
import ApiShapes.Proofs.CommandLine.Publishing
import ApiShapes.Proofs.FileTree.Walked
import ApiShapes.Proofs.TsConfig.Enumeration
import ApiShapes.Proofs.Project.Routes
import ApiShapes.Proofs.Text.StringLiteral
import ApiShapes.Proofs.Route.Agreement
import ApiShapes.Proofs.Artifact.Distinct
import ApiShapes.Proofs.Handler.Intersections
