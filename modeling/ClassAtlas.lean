import ClassAtlas.Text.Ranges
import ClassAtlas.Text.Case
import ClassAtlas.Text.Blank
import ClassAtlas.Text.Letter
import ClassAtlas.Text.Identifier
import ClassAtlas.Text.Printable
import ClassAtlas.Text.Quote
import ClassAtlas.Text.Numeral
import ClassAtlas.Pattern.Basic
import ClassAtlas.Pattern.Parse
import ClassAtlas.Pattern.Program
import ClassAtlas.Pattern.Match
import ClassAtlas.Text.Lines
import ClassAtlas.Text.Infix
import ClassAtlas.Text.Utf8
import ClassAtlas.Glob.Braces
import ClassAtlas.Pattern.Build
import ClassAtlas.Source.Record
import ClassAtlas.Source.Shapes
import ClassAtlas.Source.Extract
import ClassAtlas.Json.Value
import ClassAtlas.Cache.Recency
import ClassAtlas.Files.Path
import ClassAtlas.Index.Failure
import ClassAtlas.Reference.Entry
import ClassAtlas.Reference.Idioms
import ClassAtlas.Reference.Practices
import ClassAtlas.Index.Settings
import ClassAtlas.Files.Tree
import ClassAtlas.Glob.Wildcard
import ClassAtlas.Files.Listing
import ClassAtlas.Index.Roots
import ClassAtlas.Index.Registry
import ClassAtlas.Index.Hierarchy
import ClassAtlas.Index.Search
import ClassAtlas.Index.Subsystems
import ClassAtlas.Reference.Query
import ClassAtlas.Workspace
import ClassAtlas.Service.Url
import ClassAtlas.Service.Validation
import ClassAtlas.Service.Http
import ClassAtlas.Service.Tools
import ClassAtlas.Display.Width
import ClassAtlas.Display.Emoji
import ClassAtlas.Display.Markup
import ClassAtlas.Display.Wrap
import ClassAtlas.Display.Grid
import ClassAtlas.Display.Outline
import ClassAtlas.Display.Frame
import ClassAtlas.Command.Spec
import ClassAtlas.Command.Similar
import ClassAtlas.Command.Parse
import ClassAtlas.Command.Help
import ClassAtlas.Command.Invoke
import ClassAtlas.Main
import ClassAtlas.Proofs.Cache.History
import ClassAtlas.Proofs.Index.Configure
import ClassAtlas.Proofs.Pattern.Marks
import ClassAtlas.Proofs.Source.Spelling
import ClassAtlas.Proofs.Index.ClassCache
import ClassAtlas.Proofs.Index.CacheFrame
import ClassAtlas.Proofs.Index.TextSearch
import ClassAtlas.Proofs.Index.HierarchyShape
import ClassAtlas.Proofs.Pattern.Derives
import ClassAtlas.Proofs.Text.Classes
import ClassAtlas.Proofs.Source.Precheck
import ClassAtlas.Proofs.Index.References
import ClassAtlas.Proofs.Index.ShaderDirs
import ClassAtlas.Proofs.Reference.Ranking
import ClassAtlas.Proofs.Pattern.Loops
import ClassAtlas.Proofs.Source.Definition
import ClassAtlas.Proofs.Reference.Weights
import ClassAtlas.Proofs.Glob.Expansion
import ClassAtlas.Proofs.Index.Startup
import ClassAtlas.Proofs.Pattern.Scan
import ClassAtlas.Proofs.Text.LineNumbers
import ClassAtlas.Proofs.Source.Properties
import ClassAtlas.Proofs.Index.MatchContext
