import MigrationPreview.Main
import MigrationPreview.Catalog.Introspection
import MigrationPreview.Files.Tree
import MigrationPreview.Proofs.Body
import MigrationPreview.Proofs.Call
import MigrationPreview.Proofs.Statement
import MigrationPreview.Proofs.LineNumber
import MigrationPreview.Proofs.Details
import MigrationPreview.Proofs.Overlap
import MigrationPreview.Proofs.Canonical.Syntax
import MigrationPreview.Proofs.Canonical.Chain
import MigrationPreview.Proofs.Canonical.Line
import MigrationPreview.Proofs.Canonical.Draft
import MigrationPreview.Proofs.Canonical.Block
import MigrationPreview.Proofs.Canonical.Scan
import MigrationPreview.Proofs.Canonical.Source
import MigrationPreview.Proofs.Comment.Mark
import MigrationPreview.Proofs.Comment.Reader
import MigrationPreview.Proofs.Comment.Draft
import MigrationPreview.Proofs.Comment.Lines
import MigrationPreview.Proofs.Comment.Source
import MigrationPreview.Proofs.Diff.Category
import MigrationPreview.Proofs.Diff.Matrix
import MigrationPreview.Proofs.Diff.Destructive
import MigrationPreview.Proofs.Preview.Exchange
import MigrationPreview.Proofs.Preview.Dialogue
import MigrationPreview.Proofs.Preview.Consistency
import MigrationPreview.Proofs.Sql.Preview
import MigrationPreview.Proofs.Sql.Quote
import MigrationPreview.Proofs.Schema.Store
import MigrationPreview.Proofs.Preview.Form
import MigrationPreview.Proofs.Isolation
import MigrationPreview.Proofs.Precedence
import MigrationPreview.Proofs.Schema.Checksum
import MigrationPreview.Proofs.Files.Delivery
import MigrationPreview.Proofs.Cli.Run
import MigrationPreview.Proofs.Cli.Preview
import MigrationPreview.Proofs.Cli.Options
import MigrationPreview.Proofs.Name.Details
import MigrationPreview.Proofs.Return.Source
import MigrationPreview.Proofs.Pair.Line
import MigrationPreview.Proofs.Catalog.Schema
import MigrationPreview.Proofs.LineIndex
import MigrationPreview.Proofs.Lexical.Body
import MigrationPreview.Proofs.TableContext
import MigrationPreview.Proofs.ForeignKey
import MigrationPreview.Proofs.Diff.Pointwise
import MigrationPreview.Proofs.Key.Call
import MigrationPreview.Proofs.Opening
import MigrationPreview.Proofs.Segment
import MigrationPreview.Proofs.Key.Layout
import MigrationPreview.Proofs.Collections
import MigrationPreview.Proofs.Rollback.Impact
import MigrationPreview.Proofs.Rollback.Risk
import MigrationPreview.Proofs.Diff.Columns
import MigrationPreview.Proofs.Rollback.Referenced
import MigrationPreview.Proofs.Files.Lookup
import MigrationPreview.Proofs.Catalog.Structure
import MigrationPreview.Proofs.Settings.DatabaseUrl
import MigrationPreview.Proofs.Settings.Variables
