import QueryTemplate.Bind
import QueryTemplate.Command.Argument
import QueryTemplate.Command.Bind
import QueryTemplate.Command.Check
import QueryTemplate.Command.Diagnostic
import QueryTemplate.Command.Invoke
import QueryTemplate.Command.Line
import QueryTemplate.Command.Log
import QueryTemplate.Command.Outcome
import QueryTemplate.Command.Program
import QueryTemplate.Command.Table
import QueryTemplate.Definition.Reader
import QueryTemplate.Definition.Writer
import QueryTemplate.Files
import QueryTemplate.Format
import QueryTemplate.Inline.Expansion
import QueryTemplate.Inline.Invocation
import QueryTemplate.Inline.Scan
import QueryTemplate.Json
import QueryTemplate.Json.Numeral
import QueryTemplate.Json.Reader
import QueryTemplate.Json.Scan
import QueryTemplate.Json.Skip
import QueryTemplate.Json.Writer
import QueryTemplate.Kind
import QueryTemplate.Method
import QueryTemplate.Number.Binary
import QueryTemplate.Number.Literal
import QueryTemplate.Number.Nearest
import QueryTemplate.Number.Shortest
import QueryTemplate.Registry
import QueryTemplate.Registry.Change
import QueryTemplate.Suggestion
import QueryTemplate.Template
import QueryTemplate.Template.Parse
import QueryTemplate.Text
import QueryTemplate.Text.Columns
import QueryTemplate.Text.Emoji
import QueryTemplate.Text.Ligature
import QueryTemplate.Text.Position
import QueryTemplate.Text.Printable
import QueryTemplate.Text.Width
import QueryTemplate.Typed.Bindable
import QueryTemplate.Typed.DataType
import QueryTemplate.Typed.Embedding
import QueryTemplate.Value
import QueryTemplate.Main
import QueryTemplate.Proofs.Filling
import QueryTemplate.Proofs.Fragment
import QueryTemplate.Proofs.Quoting
import QueryTemplate.Proofs.Tokens
import QueryTemplate.Proofs.Canonical
import QueryTemplate.Proofs.InlineScan
import QueryTemplate.Proofs.Compilation
import QueryTemplate.Proofs.Registration
import QueryTemplate.Proofs.Checking
import QueryTemplate.Proofs.StringLiteral
import QueryTemplate.Proofs.ExpansionCode
import QueryTemplate.Proofs.InlineQuery
import QueryTemplate.Proofs.IndexChecks
import QueryTemplate.Proofs.Decoding
import QueryTemplate.Proofs.Influence
import QueryTemplate.Proofs.Absence
import QueryTemplate.Proofs.Ranking
import QueryTemplate.Proofs.RegistrationOrder
import QueryTemplate.Proofs.Spans
import QueryTemplate.Proofs.StoppingPlaces
import QueryTemplate.Proofs.SpansInside
import QueryTemplate.Proofs.JsonGrammar
import QueryTemplate.Proofs.SpelledPieces
import QueryTemplate.Proofs.SpelledAtoms
import QueryTemplate.Proofs.JsonArrays
import QueryTemplate.Proofs.IntegerText
import QueryTemplate.Proofs.JsonParts
import QueryTemplate.Proofs.SpelledJson
import QueryTemplate.Proofs.ReadJson
import QueryTemplate.Proofs.DefinitionText
import QueryTemplate.Proofs.FragmentGrammar
import QueryTemplate.Proofs.FragmentReading
import QueryTemplate.Proofs.CommandLine
import QueryTemplate.Proofs.QueryCommands
import QueryTemplate.Proofs.Overflow
import QueryTemplate.Proofs.Conformance
import QueryTemplate.Proofs.Concatenation
import QueryTemplate.Proofs.EditScripts
import QueryTemplate.Proofs.ByteOrder
import QueryTemplate.Proofs.ClosestNames
import QueryTemplate.Proofs.ArgumentsNeeded
import QueryTemplate.Proofs.Frame
import QueryTemplate.Proofs.JsonIntegers
import QueryTemplate.Proofs.FirstError
import QueryTemplate.Proofs.ArgumentWords
import QueryTemplate.Proofs.EmbeddedData
import QueryTemplate.Proofs.AddedFlag
import QueryTemplate.Proofs.JsonOutput
import QueryTemplate.Proofs.FileReports
import QueryTemplate.Proofs.SignedMagnitude
import QueryTemplate.Proofs.RoundingIntervals
import QueryTemplate.Proofs.NearestNumber
import QueryTemplate.Proofs.WideIntegers
import QueryTemplate.Proofs.DigitSearch
import QueryTemplate.Proofs.ShortestDigits
import QueryTemplate.Proofs.DisplayTexts
import QueryTemplate.Proofs.SinglePrecision
