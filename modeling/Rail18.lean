import Rail18.Amount
import Rail18.Catalog
import Rail18.CommandLine.Arguments
import Rail18.CommandLine.Journal
import Rail18.CommandLine.LogFilter
import Rail18.CommandLine.Pattern
import Rail18.CommandLine.Run
import Rail18.CompileError
import Rail18.Decimal
import Rail18.Dict
import Rail18.Disk.Basic
import Rail18.Disk.Path
import Rail18.Event
import Rail18.Game.Basic
import Rail18.Game.Board
import Rail18.Game.Compiled
import Rail18.Game.HexTable
import Rail18.Game.MarketRows
import Rail18.Game.Places
import Rail18.Game.Reading
import Rail18.Game.Roster
import Rail18.Game.Terms
import Rail18.Game.TileSupply
import Rail18.Game.Title
import Rail18.Game.Writing
import Rail18.Grouping
import Rail18.Hex.Basic
import Rail18.Hex.Copies
import Rail18.Hex.Encoding
import Rail18.Hex.Inheritance
import Rail18.Hex.Reading
import Rail18.Hex.Segment
import Rail18.Hex.Side
import Rail18.Hex.Writing
import Rail18.Json.Merge
import Rail18.Json.Node
import Rail18.Json.Numeral
import Rail18.Json.Parse
import Rail18.Json.Print
import Rail18.Json.Reader
import Rail18.Json.Text
import Rail18.Json.Value
import Rail18.Json.Writer
import Rail18.Library.Basic
import Rail18.Library.Entry
import Rail18.Library.Header
import Rail18.Main
import Rail18.Malformed
import Rail18.Palette
import Rail18.Proofs.Amount
import Rail18.Proofs.Catalog.Groups
import Rail18.Proofs.Catalog.Names
import Rail18.Proofs.CommandLine.Run
import Rail18.Proofs.CommandLine.Search
import Rail18.Proofs.Dict
import Rail18.Proofs.Disk
import Rail18.Proofs.Game.BareCopies
import Rail18.Proofs.Game.Board
import Rail18.Proofs.Game.BrokenTiles
import Rail18.Proofs.Game.Checks
import Rail18.Proofs.Game.Compiled
import Rail18.Proofs.Game.HexTable
import Rail18.Proofs.Game.Market
import Rail18.Proofs.Game.Places
import Rail18.Proofs.Game.Stems
import Rail18.Proofs.Game.Terms
import Rail18.Proofs.Game.Titles
import Rail18.Proofs.Game.TrainNames
import Rail18.Proofs.Game.Variations
import Rail18.Proofs.Grouping
import Rail18.Proofs.Hex.Calls
import Rail18.Proofs.Hex.Copies
import Rail18.Proofs.Hex.Declared
import Rail18.Proofs.Hex.Encoding
import Rail18.Proofs.Hex.Features
import Rail18.Proofs.Hex.Inheritance
import Rail18.Proofs.Hex.Nodes
import Rail18.Proofs.Hex.NormalForm
import Rail18.Proofs.Hex.Parts
import Rail18.Proofs.Hex.Payments
import Rail18.Proofs.Hex.References
import Rail18.Proofs.Hex.RoundTrip
import Rail18.Proofs.Hex.SecondPass
import Rail18.Proofs.Hex.Tracks
import Rail18.Proofs.Hex.Turns
import Rail18.Proofs.Json.Accepting
import Rail18.Proofs.Json.Members
import Rail18.Proofs.Json.Merge
import Rail18.Proofs.Json.Narrowing
import Rail18.Proofs.Json.Order
import Rail18.Proofs.Json.Record
import Rail18.Proofs.Json.Skipping
import Rail18.Proofs.Library.Header
import Rail18.Proofs.Library.Lookup
import Rail18.Proofs.Library.Session
import Rail18.Proofs.Outcome
import Rail18.Proofs.Settings
import Rail18.Proofs.Text.Case
import Rail18.Proofs.Text.Joined
import Rail18.Proofs.Text.Numerals
import Rail18.Proofs.Text.Runs
import Rail18.Proofs.Word
import Rail18.Settings.Basic
import Rail18.Settings.Layer
import Rail18.Settings.Load
import Rail18.Tables
import Rail18.Text.Alphanumeric
import Rail18.Text.Blank
import Rail18.Text.Bytes
import Rail18.Text.Case
import Rail18.Text.CaseTable
import Rail18.Text.Digit
import Rail18.Text.Float
import Rail18.Text.Integer
import Rail18.Text.Quoted
import Rail18.Text.QuotedTable
import Rail18.Text.Ranges
import Rail18.Text.Split
import Rail18.Toml.Item
import Rail18.Toml.Moment
import Rail18.Toml.Parse
import Rail18.Toml.Scalar
import Rail18.Toml.Text
import Rail18.Word
