import ComponentPages.Text.LowerCase
import ComponentPages.Text.Digest
import ComponentPages.Declaration.Extraction
import ComponentPages.Project.Path
import ComponentPages.Version.Change
import ComponentPages.Snapshot.Basic
import ComponentPages.Error
import ComponentPages.Page.Catalogue
import ComponentPages.Page.ImportPath
import ComponentPages.Template.Value
import ComponentPages.Template.Token
import ComponentPages.Template.Render
import ComponentPages.Registry.Comparison
import ComponentPages.Page.DefaultTemplate
import ComponentPages.Page.Context
import ComponentPages.Storage.World
import ComponentPages.Registry.Stored
import ComponentPages.Generator.Batch
import ComponentPages.Configuration.Reader
import ComponentPages.Discovery.Walk
import ComponentPages.Main
import ComponentPages.Proofs.Template.OnePass
import ComponentPages.Proofs.Json.RoundTrip
import ComponentPages.Proofs.Registry.Stored
import ComponentPages.Proofs.Registry.History
import ComponentPages.Proofs.Generator.Staleness
import ComponentPages.Proofs.Registry.Growth
import ComponentPages.Proofs.Generator.Course
import ComponentPages.Proofs.Generator.Marks
import ComponentPages.Proofs.Generator.CleanBatch
import ComponentPages.Proofs.Storage.Files
import ComponentPages.Proofs.Generator.Failure
import ComponentPages.Proofs.Generator.Isolation
import ComponentPages.Proofs.Generator.Convergence
import ComponentPages.Proofs.Storage.Places
import ComponentPages.Proofs.Snapshot.Identity
import ComponentPages.Proofs.Generator.Pages
import ComponentPages.Proofs.Generator.Order
import ComponentPages.Proofs.Template.Opacity
import ComponentPages.Proofs.Text.Offset
import ComponentPages.Proofs.Source.Balance
import ComponentPages.Proofs.Source.Scope
import ComponentPages.Proofs.Text.Blank
import ComponentPages.Proofs.Text.Pattern
import ComponentPages.Proofs.Source.Closed
import ComponentPages.Proofs.Source.Division
import ComponentPages.Proofs.Declaration.Name
import ComponentPages.Proofs.Declaration.Configuration
import ComponentPages.Proofs.Declaration.TypeText
import ComponentPages.Proofs.Declaration.Keyword
import ComponentPages.Proofs.Declaration.FieldType
import ComponentPages.Proofs.Declaration.Gathering
import ComponentPages.Proofs.Declaration.WrittenField
import ComponentPages.Proofs.Declaration.WrittenDeclaration
import ComponentPages.Proofs.Declaration.MarkedField
import ComponentPages.Proofs.Registry.Atomicity
import ComponentPages.Proofs.Generator.Idempotence
import ComponentPages.Proofs.Command.ExitCode
import ComponentPages.Proofs.Source.Stripping
import ComponentPages.Proofs.Declaration.Coverage
import ComponentPages.Proofs.Page.Fidelity
import ComponentPages.Proofs.Page.Row
import ComponentPages.Proofs.Registry.Outdated
import ComponentPages.Proofs.Source.Ranges
import ComponentPages.Proofs.Declaration.Balanced
import ComponentPages.Proofs.Template.Mention
import ComponentPages.Proofs.Version.Change
import ComponentPages.Proofs.Snapshot.DeclaredVersion
import ComponentPages.Proofs.Generator.Documented
import ComponentPages.Proofs.Declaration.ShortForm
import ComponentPages.Proofs.Source.Part
import ComponentPages.Proofs.Declaration.KeptComment
import ComponentPages.Proofs.Declaration.LineBreak
import ComponentPages.Proofs.Declaration.FaultPlace
import ComponentPages.Proofs.Snapshot.Exports
import ComponentPages.Proofs.Project.Component
import ComponentPages.Proofs.Generator.PagePath
import ComponentPages.Proofs.Declaration.AnchorPlace
import ComponentPages.Proofs.Declaration.Grouping
import ComponentPages.Proofs.Template.Tiling
import ComponentPages.Proofs.Template.Overlay
import ComponentPages.Proofs.Page.ImportPath
import ComponentPages.Proofs.Text.Cut
import ComponentPages.Proofs.Source.FirstSeparator
import ComponentPages.Proofs.Source.BytewiseScan
import ComponentPages.Proofs.Source.BytewiseComments
import ComponentPages.Proofs.Declaration.Bytewise
