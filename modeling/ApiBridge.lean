import ApiBridge.Binary64.Basic
import ApiBridge.Binary64.Layout
import ApiBridge.Binary64.Reader
import ApiBridge.Binary64.Rounded
import ApiBridge.Binary64.Shortest
import ApiBridge.Calendar.Basic
import ApiBridge.Calendar.Reader
import ApiBridge.Charset.Basic
import ApiBridge.Charset.ByteTable
import ApiBridge.Charset.Chinese
import ApiBridge.Charset.Escape
import ApiBridge.Charset.Japanese
import ApiBridge.Charset.Korean
import ApiBridge.Charset.Label
import ApiBridge.Charset.MultiByte
import ApiBridge.Charset.Reading
import ApiBridge.Charset.Switching
import ApiBridge.Charset.Table.Big5
import ApiBridge.Charset.Table.CodePage
import ApiBridge.Charset.Table.CodePage932
import ApiBridge.Charset.Table.Gb2312
import ApiBridge.Charset.Table.Gbk
import ApiBridge.Charset.Table.Hkscs
import ApiBridge.Charset.Table.Iso
import ApiBridge.Charset.Table.JisX0208
import ApiBridge.Charset.Table.JisX0212
import ApiBridge.Charset.Table.JisX0213
import ApiBridge.Charset.Table.KsX1001
import ApiBridge.Charset.Table.Macintosh
import ApiBridge.Charset.Table.Regional
import ApiBridge.Charset.Units
import ApiBridge.Charset.Utf7
import ApiBridge.CommandLine.Options
import ApiBridge.CommandLine.Request
import ApiBridge.CommandLine.Run
import ApiBridge.CommandLine.View
import ApiBridge.Console.Basic
import ApiBridge.Console.LogRecord
import ApiBridge.Console.Session
import ApiBridge.Console.Template
import ApiBridge.Description.Basic
import ApiBridge.Description.Load
import ApiBridge.Description.OfDocument
import ApiBridge.Document.ContentType
import ApiBridge.Document.Graph
import ApiBridge.Document.Load
import ApiBridge.Document.Pointer
import ApiBridge.Document.Resolve
import ApiBridge.Failure
import ApiBridge.Files.Path
import ApiBridge.Files.Tree
import ApiBridge.Host
import ApiBridge.Json.Error
import ApiBridge.Json.Reader
import ApiBridge.Json.Writer
import ApiBridge.Main
import ApiBridge.Notice
import ApiBridge.Project.Build
import ApiBridge.Project.Generate
import ApiBridge.Project.Templates
import ApiBridge.Schema
import ApiBridge.Settings.Basic
import ApiBridge.Settings.Resolve
import ApiBridge.Text.Base64
import ApiBridge.Text.Blank
import ApiBridge.Text.CharacterName
import ApiBridge.Text.CharacterName.Alias
import ApiBridge.Text.CharacterName.Ancient
import ApiBridge.Text.CharacterName.Eastern
import ApiBridge.Text.CharacterName.Hieroglyphs
import ApiBridge.Text.CharacterName.Pictures
import ApiBridge.Text.CharacterName.Southern
import ApiBridge.Text.CharacterName.Symbols
import ApiBridge.Text.CharacterName.Western
import ApiBridge.Text.CodeRange
import ApiBridge.Text.Composition
import ApiBridge.Text.CompositionTable
import ApiBridge.Text.DecimalDigit
import ApiBridge.Text.Integer
import ApiBridge.Text.Lowercase
import ApiBridge.Text.Printable
import ApiBridge.Text.Punycode
import ApiBridge.Text.Quoted
import ApiBridge.Text.Utf8
import ApiBridge.Text.WholeNumber
import ApiBridge.Tool
import ApiBridge.TypeScript.Check
import ApiBridge.TypeScript.Compile
import ApiBridge.TypeScript.Declaration
import ApiBridge.TypeScript.Literal
import ApiBridge.TypeScript.Name
import ApiBridge.TypeScript.OfApi
import ApiBridge.TypeScript.Source
import ApiBridge.TypeScript.TypeExpr
import ApiBridge.Url.Address
import ApiBridge.Url.Basic
import ApiBridge.Url.HostName
import ApiBridge.Url.JoiningTable
import ApiBridge.Url.NameTable
import ApiBridge.Validation
import ApiBridge.Value.Basic
import ApiBridge.Value.Layer
import ApiBridge.Value.Text
import ApiBridge.Yaml.Cursor
import ApiBridge.Yaml.Document
import ApiBridge.Yaml.Error
import ApiBridge.Yaml.ImplicitTag
import ApiBridge.Yaml.Node
import ApiBridge.Yaml.Node.Merge
import ApiBridge.Yaml.Node.OfTokens
import ApiBridge.Yaml.ScalarValue
import ApiBridge.Yaml.Token
import ApiBridge.Yaml.Token.Lexer
import ApiBridge.Yaml.Token.Property
import ApiBridge.Yaml.Token.Scalar
import ApiBridge.Proofs.Outcome
import ApiBridge.Proofs.Occurrences
import ApiBridge.Proofs.TypeScript.Compilation
import ApiBridge.Proofs.TypeScript.Declared
import ApiBridge.Proofs.TypeScript.Soundness
import ApiBridge.Proofs.TypeScript.References
import ApiBridge.Proofs.Document.Addresses
import ApiBridge.Proofs.Document.Becoming
import ApiBridge.Proofs.Document.Chains
import ApiBridge.Proofs.Document.Clear
import ApiBridge.Proofs.Document.Detour
import ApiBridge.Proofs.Document.Enlarging
import ApiBridge.Proofs.Document.Evolution
import ApiBridge.Proofs.Document.Following
import ApiBridge.Proofs.Document.Forest
import ApiBridge.Proofs.Document.Layout
import ApiBridge.Proofs.Document.Loading
import ApiBridge.Proofs.Document.Order
import ApiBridge.Proofs.Document.Places
import ApiBridge.Proofs.Document.Resolution
import ApiBridge.Proofs.Document.Returns
import ApiBridge.Proofs.Document.Sharing
import ApiBridge.Proofs.Document.Rewriting
import ApiBridge.Proofs.Document.Settling
import ApiBridge.Proofs.Document.SideBySide
import ApiBridge.Proofs.Document.Stages
import ApiBridge.Proofs.Document.Trees
import ApiBridge.Proofs.Description.Losses
import ApiBridge.Proofs.Description.Describing
import ApiBridge.Proofs.Description.Escapes
import ApiBridge.Proofs.Description.Operations
import ApiBridge.Proofs.Description.Refusals
import ApiBridge.Proofs.TypeScript.Distinct
import ApiBridge.Proofs.TypeScript.Identifiers
import ApiBridge.Proofs.TypeScript.Parameters
import ApiBridge.Proofs.TypeScript.Unfolding
import ApiBridge.Proofs.TypeScript.Expansion
import ApiBridge.Proofs.TypeScript.Limits
import ApiBridge.Proofs.TypeScript.Verified
import ApiBridge.Proofs.TypeScript.Pointers
import ApiBridge.Proofs.TypeScript.Descent
import ApiBridge.Proofs.TypeScript.Cycles
import ApiBridge.Proofs.TypeScript.Truncation
import ApiBridge.Proofs.TypeScript.Agreement
import ApiBridge.Proofs.TypeScript.Locality
import ApiBridge.Proofs.TypeScript.Reports
import ApiBridge.Proofs.TypeScript.Members
import ApiBridge.Proofs.TypeScript.Literals
import ApiBridge.Proofs.TypeScript.SourceText
import ApiBridge.Proofs.TypeScript.Dangling
import ApiBridge.Proofs.Json.Reading
import ApiBridge.Proofs.Json.Spelling
import ApiBridge.Proofs.Project.Arguments
import ApiBridge.Proofs.Project.Server
import ApiBridge.Proofs.Project.Tools
import ApiBridge.Proofs.Project.Manifests
import ApiBridge.Proofs.Project.Pinned
import ApiBridge.Proofs.Text.Integers
import ApiBridge.Proofs.Text.Utf8
import ApiBridge.Proofs.Project.Written
import ApiBridge.Proofs.Files.Places
import ApiBridge.Proofs.Files.Replacing
import ApiBridge.Proofs.Files.Writing
import ApiBridge.Proofs.Files.Atomicity
import ApiBridge.Proofs.CommandLine.Runs
import ApiBridge.Proofs.CommandLine.Failing
import ApiBridge.Proofs.CommandLine.Regenerating
import ApiBridge.Proofs.Description.Alike
import ApiBridge.Proofs.Description.Sharing
import ApiBridge.Proofs.CommandLine.Printing
import ApiBridge.Proofs.CommandLine.JsonOutput
import ApiBridge.Proofs.Settings.Precedence
import ApiBridge.Proofs.Console.Session
import ApiBridge.Proofs.Console.Tables
import ApiBridge.Proofs.CommandLine.SchemaListing
import ApiBridge.Proofs.CommandLine.PlainTables
