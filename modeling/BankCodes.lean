import BankCodes.Bic
import BankCodes.Candidate
import BankCodes.CheckDigits
import BankCodes.Console
import BankCodes.Console.Host
import BankCodes.Country
import BankCodes.Country.Table
import BankCodes.CountryArgument
import BankCodes.CreditorIdentifier
import BankCodes.Failure
import BankCodes.Iban
import BankCodes.Identifier
import BankCodes.Log.Argument
import BankCodes.Log.Date
import BankCodes.Log.Event
import BankCodes.Log.Instant
import BankCodes.Log.Record
import BankCodes.Log.Root
import BankCodes.Log.Template
import BankCodes.Pattern
import BankCodes.Pattern.Group
import BankCodes.Pattern.Language
import BankCodes.Registry
import BankCodes.Registry.Shipped
import BankCodes.Rejection
import BankCodes.Scan
import BankCodes.Session
import BankCodes.Session.Cache
import BankCodes.Settings
import BankCodes.Terminal
import BankCodes.Terminal.Arguments
import BankCodes.Terminal.CellTable
import BankCodes.Terminal.Cells
import BankCodes.Terminal.CommandLine
import BankCodes.Terminal.Display
import BankCodes.Terminal.ShortCode
import BankCodes.Terminal.ShortCode.Table
import BankCodes.Text.Ascii
import BankCodes.Text.Blank
import BankCodes.Text.Canonical
import BankCodes.Text.Case
import BankCodes.Text.CaseTable
import BankCodes.Text.Decimal
import BankCodes.Text.JsonString
import BankCodes.Text.Numeral
import BankCodes.Text.Order
import BankCodes.Text.Pieces
import BankCodes.Text.Quoted
import BankCodes.Text.Ranges
import BankCodes.Text.UnprintableTable
import BankCodes.Text.Word
import BankCodes.Text.WordTable
import BankCodes.Verdict
import BankCodes.Main
import BankCodes.Proofs.CheckDigits.Remainder
import BankCodes.Proofs.CheckDigits.Issue
import BankCodes.Proofs.CheckDigits.Mistakes
import BankCodes.Proofs.CheckDigits.Agreement
import BankCodes.Proofs.CheckDigits.Bounds
import BankCodes.Proofs.Pattern.Spelling
import BankCodes.Proofs.Pattern.Cut
import BankCodes.Proofs.Stages
import BankCodes.Proofs.Examination
import BankCodes.Proofs.Assembly
import BankCodes.Proofs.Iban.Acceptance
import BankCodes.Proofs.Iban.Printed
import BankCodes.Proofs.Iban.Parts
import BankCodes.Proofs.Iban.Mistakes
import BankCodes.Proofs.CreditorIdentifier.Acceptance
import BankCodes.Proofs.CreditorIdentifier.Parts
import BankCodes.Proofs.RoundTrip
import BankCodes.Proofs.Mistakes
import BankCodes.Proofs.Verdict
import BankCodes.Proofs.Text.Words
import BankCodes.Proofs.Scan.Search
import BankCodes.Proofs.Scan.Order
import BankCodes.Proofs.Scan.Printed
import BankCodes.Proofs.Scan.RunsOn
import BankCodes.Proofs.Scan.Recall
import BankCodes.Proofs.Scan.Matches
import BankCodes.Proofs.Scan.Soundness
import BankCodes.Proofs.Scan.Separated
import BankCodes.Proofs.Text.Expression
import BankCodes.Proofs.Text.Occurrences
import BankCodes.Proofs.Text.UpperCase
import BankCodes.Proofs.Bic.Acceptance
import BankCodes.Proofs.Scan.Tokens
import BankCodes.Proofs.Scan.Typed
import BankCodes.Proofs.Pattern.Grammar
import BankCodes.Proofs.Registry.Build
import BankCodes.Proofs.Segments
import BankCodes.Proofs.Session.Identifiers
import BankCodes.Proofs.Session.Cache
import BankCodes.Proofs.Session.Compilation
import BankCodes.Proofs.Session.Rules
import BankCodes.Proofs.Registry.Contents
import BankCodes.Proofs.Bic.Completion
import BankCodes.Proofs.CanonicalForm
import BankCodes.Proofs.Pattern.Lengths
import BankCodes.Proofs.Pattern.Translation
import BankCodes.Proofs.Pattern.Meaning
import BankCodes.Proofs.Bic.TestCode
import BankCodes.Proofs.Log.Template
import BankCodes.Proofs.Log.JsonLine
import BankCodes.Proofs.Log.PlainLine
import BankCodes.Proofs.Log.Setup
import BankCodes.Proofs.Making
import BankCodes.Proofs.Text.Longest
import BankCodes.Proofs.Scan.PrintedForm
import BankCodes.Proofs.Scan.LongestMatch
import BankCodes.Proofs.Scan.Trimming
import BankCodes.Proofs.Terminal.Host
import BankCodes.Proofs.Console.Runs
