import BatchScript.Address
import BatchScript.Address.Host
import BatchScript.Category
import BatchScript.Command.Arguments
import BatchScript.Command.Options
import BatchScript.Command.Run
import BatchScript.Command.Usage
import BatchScript.Cursor
import BatchScript.Data
import BatchScript.Data.Binary64
import BatchScript.Data.Json.Reader
import BatchScript.Data.Json.Writer
import BatchScript.Data.Moment
import BatchScript.Data.Toml.Document
import BatchScript.Data.Toml.Lexical
import BatchScript.Data.Toml.Reader
import BatchScript.Data.Toml.Scalar
import BatchScript.Dump
import BatchScript.Editor.Document
import BatchScript.Editor.Host
import BatchScript.Editor.SemanticTokens
import BatchScript.Editor.Service
import BatchScript.Error
import BatchScript.Files.Access
import BatchScript.Files.Disk
import BatchScript.Files.Path
import BatchScript.Hint.BufferWords
import BatchScript.Hint.Completion
import BatchScript.Language
import BatchScript.Lexer
import BatchScript.Log
import BatchScript.Main
import BatchScript.Markup
import BatchScript.Mode
import BatchScript.Proofs.Command.CursorArgument
import BatchScript.Proofs.Command.Execution
import BatchScript.Proofs.Command.Failures
import BatchScript.Proofs.Data.Json.Limits
import BatchScript.Proofs.Data.Json.RoundTrip
import BatchScript.Proofs.Data.Limits
import BatchScript.Proofs.Data.Toml.Limits
import BatchScript.Proofs.Dump.RowReading
import BatchScript.Proofs.Editor.AskedPlace
import BatchScript.Proofs.Editor.Completion
import BatchScript.Proofs.Editor.DocumentLines
import BatchScript.Proofs.Editor.Positions
import BatchScript.Proofs.Editor.SemanticTokens
import BatchScript.Proofs.Editor.SortKeys
import BatchScript.Proofs.Editor.Units
import BatchScript.Proofs.Files.Disk
import BatchScript.Proofs.Files.Path
import BatchScript.Proofs.Hint.BufferWords
import BatchScript.Proofs.Hint.Candidates
import BatchScript.Proofs.Hint.Failure
import BatchScript.Proofs.Hint.FirstOccurrences
import BatchScript.Proofs.Hint.NearbyWords
import BatchScript.Proofs.Hint.Response
import BatchScript.Proofs.Hint.Runs
import BatchScript.Proofs.Hint.TypedText
import BatchScript.Proofs.Lexer.Attempts
import BatchScript.Proofs.Lexer.Brackets
import BatchScript.Proofs.Lexer.CarriedStacks
import BatchScript.Proofs.Lexer.Classes
import BatchScript.Proofs.Lexer.Leaving
import BatchScript.Proofs.Lexer.LetterCase
import BatchScript.Proofs.Lexer.Lookahead
import BatchScript.Proofs.Lexer.LowerModes
import BatchScript.Proofs.Lexer.Passages
import BatchScript.Proofs.Lexer.QuotedLiterals
import BatchScript.Proofs.Lexer.QuotedStops
import BatchScript.Proofs.Lexer.Reading
import BatchScript.Proofs.Lexer.References
import BatchScript.Proofs.Lexer.Regions
import BatchScript.Proofs.Lexer.RemainingText
import BatchScript.Proofs.Lexer.Restart
import BatchScript.Proofs.Lexer.Tiling
import BatchScript.Proofs.Lexer.TokenAt
import BatchScript.Proofs.Markup.PageReading
import BatchScript.Proofs.Scanner.Outcomes
import BatchScript.Proofs.Scanner.Transport
import BatchScript.Proofs.Settings.Loading
import BatchScript.Proofs.Settings.StoredNames
import BatchScript.Proofs.Text.LetterCase
import BatchScript.Proofs.Text.LineEnds
import BatchScript.Proofs.Text.Lines
import BatchScript.Proofs.Text.Quoted
import BatchScript.Proofs.Text.Upper
import BatchScript.Proofs.Vocabulary
import BatchScript.Scanner
import BatchScript.Scanner.Progress
import BatchScript.Settings
import BatchScript.Store
import BatchScript.Text
import BatchScript.Text.Blank
import BatchScript.Text.Digit
import BatchScript.Text.Lines
import BatchScript.Text.Numeral
import BatchScript.Text.Percent
import BatchScript.Text.Printable
import BatchScript.Text.Quoted
import BatchScript.Text.Upper
import BatchScript.Text.Utf8
import BatchScript.Token
import BatchScript.Vocabulary
