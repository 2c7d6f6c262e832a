import BraceLint.Check
import BraceLint.Cli.Alphanumeric
import BraceLint.Cli.Arguments
import BraceLint.Cli.Blank
import BraceLint.Cli.Directive
import BraceLint.Cli.Filter
import BraceLint.Cli.Json
import BraceLint.Cli.Line
import BraceLint.Cli.Run
import BraceLint.Cli.Terminal
import BraceLint.Files.Layout
import BraceLint.Files.ReadError
import BraceLint.Finding
import BraceLint.Lexing.Context
import BraceLint.Lexing.Cursor
import BraceLint.Lexing.Role
import BraceLint.Log.Level
import BraceLint.Log.Settings
import BraceLint.Main
import BraceLint.Marker
import BraceLint.Nesting
import BraceLint.Position
import BraceLint.Program
import BraceLint.Proofs.Acts
import BraceLint.Proofs.Bounds
import BraceLint.Proofs.Clean
import BraceLint.Proofs.Concatenation
import BraceLint.Proofs.Counting
import BraceLint.Proofs.Depth
import BraceLint.Proofs.Encoding
import BraceLint.Proofs.FileLocation
import BraceLint.Proofs.Grammar
import BraceLint.Proofs.Growth
import BraceLint.Proofs.Independence
import BraceLint.Proofs.Insertion
import BraceLint.Proofs.LineEnds
import BraceLint.Proofs.Localisation
import BraceLint.Proofs.Location
import BraceLint.Proofs.Masking
import BraceLint.Proofs.Matching
import BraceLint.Proofs.Openings
import BraceLint.Proofs.Order
import BraceLint.Proofs.Progress
import BraceLint.Proofs.Recovery
import BraceLint.Proofs.Regions
import BraceLint.Proofs.Repair
import BraceLint.Proofs.Reporting
import BraceLint.Proofs.Signs
import BraceLint.Proofs.SinglePass
import BraceLint.Proofs.Tracing
import BraceLint.Proofs.Turns
import BraceLint.Proofs.Unterminated
import BraceLint.Proofs.Words
import BraceLint.Scan
import BraceLint.Text.Bytes
import BraceLint.Text.Newline
import BraceLint.Trace
