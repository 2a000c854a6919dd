import RestGraph.Artifacts
import RestGraph.Collision
import RestGraph.Command.Arguments
import RestGraph.Command.Log.Event
import RestGraph.Command.Log.Filter
import RestGraph.Command.Run
import RestGraph.Decimal
import RestGraph.Declaration
import RestGraph.Document
import RestGraph.Endpoint.Basic
import RestGraph.Endpoint.OfText
import RestGraph.Endpoint.OfValue
import RestGraph.Files.Path
import RestGraph.Files.Volume
import RestGraph.Files.Write
import RestGraph.Json.Numeral
import RestGraph.Json.Reader
import RestGraph.Json.Scan
import RestGraph.Json.Skim
import RestGraph.Json.Text
import RestGraph.Json.Value
import RestGraph.Main
import RestGraph.Options
import RestGraph.Parameter
import RestGraph.Pattern.Basic
import RestGraph.Pattern.Bracket
import RestGraph.Pattern.Escape
import RestGraph.Pattern.OfText
import RestGraph.Proofs.AbsentMarks
import RestGraph.Proofs.AddedSwitch
import RestGraph.Proofs.BalancedTexts
import RestGraph.Proofs.BoundNames
import RestGraph.Proofs.Brackets
import RestGraph.Proofs.ClassAgreement
import RestGraph.Proofs.ClassLines
import RestGraph.Proofs.ClassOrder
import RestGraph.Proofs.ClassRecovery
import RestGraph.Proofs.DescriptorReading
import RestGraph.Proofs.DirectoryWrites
import RestGraph.Proofs.DistinctKeys
import RestGraph.Proofs.DistinctNames
import RestGraph.Proofs.DocumentLayouts
import RestGraph.Proofs.DraftConversion
import RestGraph.Proofs.DryRun
import RestGraph.Proofs.EmptyLines
import RestGraph.Proofs.Entries
import RestGraph.Proofs.Expansion
import RestGraph.Proofs.FirstCollision
import RestGraph.Proofs.FixedNames
import RestGraph.Proofs.FragmentUse
import RestGraph.Proofs.Generation
import RestGraph.Proofs.Inspection
import RestGraph.Proofs.Literals
import RestGraph.Proofs.Nodes
import RestGraph.Proofs.Outcomes
import RestGraph.Proofs.ParameterGrammar
import RestGraph.Proofs.Paths
import RestGraph.Proofs.PavedWays
import RestGraph.Proofs.PlainPaths
import RestGraph.Proofs.ReadBack
import RestGraph.Proofs.RenderedLines
import RestGraph.Proofs.ReportedPlaces
import RestGraph.Proofs.Routes
import RestGraph.Proofs.Runs
import RestGraph.Proofs.SameCall
import RestGraph.Proofs.Sections
import RestGraph.Proofs.Selections
import RestGraph.Proofs.SingleLines
import RestGraph.Proofs.Skimming
import RestGraph.Proofs.StrictReading
import RestGraph.Proofs.TreeWalks
import RestGraph.Proofs.Trimming
import RestGraph.Proofs.TypedReading
import RestGraph.Proofs.WholeWrites
import RestGraph.Proofs.WriteAccount
import RestGraph.Proofs.WrittenParameters
import RestGraph.Query
import RestGraph.Resolver
import RestGraph.Scalar
import RestGraph.Scalar.OfText
import RestGraph.Shape.Basic
import RestGraph.Shape.Places
import RestGraph.Text.Alphanumeric
import RestGraph.Text.Casing
import RestGraph.Text.Characters
import RestGraph.Text.Quoted
import RestGraph.Text.Taken
