import GridQuery.Cell
import GridQuery.CommandLine.Commands
import GridQuery.Decimal.Reading
import GridQuery.Decimal.Shortest
import GridQuery.Grid.Answer
import GridQuery.Grid.Definition.Reading
import GridQuery.Grid.Request.Wire
import GridQuery.Json.Skipping
import GridQuery.Main
import GridQuery.Proofs.CommandLine.Listing
import GridQuery.Proofs.CommandLine.Offline
import GridQuery.Proofs.Decimal.Words
import GridQuery.Proofs.Grid.Collisions
import GridQuery.Proofs.Grid.Counting
import GridQuery.Proofs.Grid.Declaration
import GridQuery.Proofs.Grid.FirstFault
import GridQuery.Proofs.Grid.GlobalSearch
import GridQuery.Proofs.Grid.IntegerSearch
import GridQuery.Proofs.Grid.JoinedPages
import GridQuery.Proofs.Grid.MappedValues
import GridQuery.Proofs.Grid.NarrowedReading
import GridQuery.Proofs.Grid.NarrowedTruth
import GridQuery.Proofs.Grid.Noninterference
import GridQuery.Proofs.Grid.Provenance
import GridQuery.Proofs.Grid.Registration
import GridQuery.Proofs.Grid.Reordering
import GridQuery.Proofs.Grid.SelectedIds
import GridQuery.Proofs.Grid.SortCodes
import GridQuery.Proofs.Grid.TextSearch
import GridQuery.Proofs.Grid.Transport
import GridQuery.Proofs.Grid.Unheeded
import GridQuery.Proofs.Sql.Conjunction
import GridQuery.Proofs.Sql.Legibility
import GridQuery.Proofs.Sql.Parameters
import GridQuery.Proofs.Sql.SortKeyReading
import GridQuery.Proofs.Sql.Window
import GridQuery.Proofs.Template
import GridQuery.Proofs.Text.LowerCase
import GridQuery.SortedMap
import GridQuery.Sql.Query
import GridQuery.Sql.Value.Reading
import GridQuery.Surroundings.FileTree
import GridQuery.Template
import GridQuery.Text.Alphanumeric
import GridQuery.Text.Blank
import GridQuery.Text.CaseMap
import GridQuery.Text.Utf8
import GridQuery.Toml.Document
