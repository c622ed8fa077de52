import TypedTables.Binding.Catalog
import TypedTables.Binding.Members
import TypedTables.Build
import TypedTables.CommandLine
import TypedTables.Config.Codec
import TypedTables.Config.Environment
import TypedTables.Config.Load
import TypedTables.Config.RowKind
import TypedTables.Config.Settings
import TypedTables.Convert.Coerce
import TypedTables.Convert.Conversion
import TypedTables.Convert.Enumeration
import TypedTables.Convert.ScopeKind
import TypedTables.Convert.ScopeProgram
import TypedTables.Convert.Scopes
import TypedTables.Csv.Reader
import TypedTables.Data.Artifact
import TypedTables.Discover.Files
import TypedTables.Discover.Header
import TypedTables.Discover.Sheet
import TypedTables.Discover.Source
import TypedTables.Discover.TypeNames
import TypedTables.Discover.Workbook
import TypedTables.Document
import TypedTables.Document.Decode
import TypedTables.Document.PlainScalar
import TypedTables.Failure
import TypedTables.Files.Path
import TypedTables.Files.Scan
import TypedTables.Files.Store
import TypedTables.Files.Update
import TypedTables.Generate.Code
import TypedTables.Generate.Compiler
import TypedTables.Generate.Declaration
import TypedTables.Generate.Plan
import TypedTables.Generate.Templates
import TypedTables.Generate.Variants
import TypedTables.Json.Printer
import TypedTables.Json.Reader
import TypedTables.Json.Token
import TypedTables.Keyword.Effect
import TypedTables.Keyword.Token
import TypedTables.Main
import TypedTables.Manifest.Basic
import TypedTables.Manifest.Codec
import TypedTables.Naming.Casing
import TypedTables.Naming.Identifier
import TypedTables.Naming.Scope
import TypedTables.Number.Binary
import TypedTables.Number.Decimal
import TypedTables.Number.Integer
import TypedTables.Number.Layout
import TypedTables.Number.Range
import TypedTables.Number.Shortest
import TypedTables.Pattern.Bracket
import TypedTables.Pattern.Cache
import TypedTables.Pattern.CharSet
import TypedTables.Pattern.Escape
import TypedTables.Pattern.Expression
import TypedTables.Pattern.Flags
import TypedTables.Pattern.Matcher
import TypedTables.Pattern.Program
import TypedTables.Pattern.Property
import TypedTables.Pattern.Reader
import TypedTables.Pattern.Search
import TypedTables.Proofs.Binding.Agreement
import TypedTables.Proofs.Binding.Caching
import TypedTables.Proofs.Binding.Catalogs
import TypedTables.Proofs.Building
import TypedTables.Proofs.ColumnNames
import TypedTables.Proofs.Composites
import TypedTables.Proofs.Convert.Assertions
import TypedTables.Proofs.Convert.Coercion
import TypedTables.Proofs.Convert.Context
import TypedTables.Proofs.Convert.Encoding
import TypedTables.Proofs.Convert.Enumerations
import TypedTables.Proofs.Convert.ExactIntegers
import TypedTables.Proofs.Convert.FiniteFloats
import TypedTables.Proofs.Convert.Fitting
import TypedTables.Proofs.Convert.Isolation
import TypedTables.Proofs.Convert.Numbering
import TypedTables.Proofs.Convert.Origins
import TypedTables.Proofs.Convert.Prepared
import TypedTables.Proofs.Convert.Registration
import TypedTables.Proofs.Convert.Relations
import TypedTables.Proofs.Convert.Repeating
import TypedTables.Proofs.Convert.ScopeDiscipline
import TypedTables.Proofs.Convert.Simulations
import TypedTables.Proofs.Convert.StandardChain
import TypedTables.Proofs.Convert.Steadiness
import TypedTables.Proofs.Convert.Termination
import TypedTables.Proofs.Convert.Unscoped
import TypedTables.Proofs.Csv.Records
import TypedTables.Proofs.Data.Converging
import TypedTables.Proofs.Data.Sparing
import TypedTables.Proofs.DefaultInstances
import TypedTables.Proofs.Discover.Columns
import TypedTables.Proofs.Discover.EarlyTypes
import TypedTables.Proofs.Discover.Grids
import TypedTables.Proofs.Discover.Labels
import TypedTables.Proofs.Discover.Lines
import TypedTables.Proofs.Discover.Locating
import TypedTables.Proofs.Discover.Opening
import TypedTables.Proofs.Discover.Rearranging
import TypedTables.Proofs.Discover.Reopening
import TypedTables.Proofs.Discover.Schemas
import TypedTables.Proofs.Discover.Stages
import TypedTables.Proofs.FailedCells
import TypedTables.Proofs.Files.Idle
import TypedTables.Proofs.Files.Paths
import TypedTables.Proofs.Files.Sparing
import TypedTables.Proofs.Files.Stores
import TypedTables.Proofs.Files.Updates
import TypedTables.Proofs.Generate.Artifacts
import TypedTables.Proofs.Generate.Declarations
import TypedTables.Proofs.Generate.Discriminants
import TypedTables.Proofs.Generate.Exactness
import TypedTables.Proofs.Generate.Identifiers
import TypedTables.Proofs.Generate.KnownTypes
import TypedTables.Proofs.Generate.Layouts
import TypedTables.Proofs.Generate.Literals
import TypedTables.Proofs.Generate.Places
import TypedTables.Proofs.Generate.Planning
import TypedTables.Proofs.Generate.Rendering
import TypedTables.Proofs.Generate.Sizes
import TypedTables.Proofs.Generate.Sources
import TypedTables.Proofs.Generate.Sparing
import TypedTables.Proofs.HiddenCells
import TypedTables.Proofs.Json.Lexing
import TypedTables.Proofs.Json.Reading
import TypedTables.Proofs.Keyword.Changes
import TypedTables.Proofs.Keyword.Confinement
import TypedTables.Proofs.Keyword.Orders
import TypedTables.Proofs.Keyword.Printing
import TypedTables.Proofs.Keyword.Reading
import TypedTables.Proofs.LineNumbers
import TypedTables.Proofs.Loading
import TypedTables.Proofs.Manifest.Codec
import TypedTables.Proofs.Manifest.Stored
import TypedTables.Proofs.Naming.Identifiers
import TypedTables.Proofs.Naming.Legality
import TypedTables.Proofs.Naming.Templates
import TypedTables.Proofs.NullFloats
import TypedTables.Proofs.Number.Decimals
import TypedTables.Proofs.Number.Integer
import TypedTables.Proofs.Number.Literals
import TypedTables.Proofs.Number.Printing
import TypedTables.Proofs.Number.Ratios
import TypedTables.Proofs.Number.Rounding
import TypedTables.Proofs.Outcome
import TypedTables.Proofs.Schema.Entries
import TypedTables.Proofs.Schema.Indices
import TypedTables.Proofs.Seeding
import TypedTables.Proofs.Text.Ascii
import TypedTables.Proofs.Text.Caseless
import TypedTables.Proofs.Text.Pieces
import TypedTables.Records
import TypedTables.Schema.Primitive
import TypedTables.Schema.Table
import TypedTables.Schema.TypeRef
import TypedTables.Schema.Value
import TypedTables.Template.Basic
import TypedTables.Template.Helper
import TypedTables.Template.Operand
import TypedTables.Template.Piece
import TypedTables.Template.Reader
import TypedTables.Template.Render
import TypedTables.Text.AlphabeticTable
import TypedTables.Text.AsciiCase
import TypedTables.Text.Blank
import TypedTables.Text.CaseTable
import TypedTables.Text.Category
import TypedTables.Text.CategoryTable
import TypedTables.Text.Lowercase
import TypedTables.Text.Quoted
import TypedTables.Text.ScriptTable
import TypedTables.Text.Segments
import TypedTables.Toml.Reader
import TypedTables.Toml.Scalar
import TypedTables.Toml.Statement
import TypedTables.Yaml.Cursor
import TypedTables.Yaml.Printer
import TypedTables.Yaml.Reader
import TypedTables.Yaml.Scalar
import TypedTables.Yaml.Style
import TypedTables.Yaml.Token
import TypedTables.Proofs.Binding.Caching
