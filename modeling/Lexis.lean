import Lexis.Files.Tree
import Lexis.Main
import Lexis.Program
import Lexis.Scanner.Items
import Lexis.Scanner.Progress
import Lexis.Scanner.Steps
import Lexis.Source.Movement
import Lexis.Proofs.Source.Counting
import Lexis.Proofs.Source.Positions
import Lexis.Proofs.Source.Translation
import Lexis.Proofs.Source.LineColumn
import Lexis.Proofs.Source.Ordering
import Lexis.Proofs.Source.Conservation
import Lexis.Proofs.Text.CharacterClasses
import Lexis.Proofs.Text.Runs
import Lexis.Proofs.Text.Blanking
import Lexis.Proofs.Number.Rounding
import Lexis.Proofs.Number.Search
import Lexis.Proofs.Number.Nearest
import Lexis.Proofs.Number.IntegerRounding
import Lexis.Proofs.Number.Integers
import Lexis.Proofs.Number.Numerals
import Lexis.Proofs.Json.Reader
import Lexis.Proofs.Json.Numerals
import Lexis.Proofs.Json.Notation
import Lexis.Proofs.Json.ReadBack
import Lexis.Proofs.Scanner.Readings
import Lexis.Proofs.Scanner.Scans
import Lexis.Proofs.Scanner.Places
import Lexis.Proofs.Scanner.Exits
import Lexis.Proofs.Scanner.AcceptedLanguage
import Lexis.Proofs.Scanner.Rejection
import Lexis.Proofs.Scanner.Requests
import Lexis.Proofs.Scanner.Spans
import Lexis.Proofs.Scanner.RoundTrip
import Lexis.Proofs.Scanner.Consumers
import Lexis.Proofs.Scanner.Parallel
import Lexis.Proofs.Scanner.Suffix
import Lexis.Proofs.Scanner.Extension
import Lexis.Proofs.Scanner.Concatenation
import Lexis.Proofs.Scanner.Recovery
import Lexis.Proofs.Scanner.Sessions
import Lexis.Proofs.Scanner.Events
import Lexis.Proofs.Scanner.Starts
import Lexis.Proofs.Scanner.Residue
import Lexis.Proofs.Scanner.Exhaustion
import Lexis.Proofs.Scanner.DigitRuns
import Lexis.Proofs.Scanner.PrintedNumbers
import Lexis.Proofs.Command.Delivery
import Lexis.Proofs.Command.Verdicts
import Lexis.Proofs.Command.Accounting
import Lexis.Proofs.Command.Agreement
import Lexis.Proofs.Command.Printing
import Lexis.Proofs.Command.InputRoutes
import Lexis.Proofs.Command.JsonOutput
import Lexis.Proofs.Command.TextOutput
import Lexis.Proofs.Command.OutputLines
import Lexis.Proofs.Command.TokenPlaces
import Lexis.Proofs.Command.Success
import Lexis.Proofs.Command.Logging
