import Postal.Files.Tree
import Postal.Main
import Postal.Store.Layered
import Postal.Proofs.Unicode.Folding
import Postal.Proofs.Unicode.Letters
import Postal.Proofs.Pattern.Bounds
import Postal.Proofs.Pattern.Search
import Postal.Proofs.Text.Significant
import Postal.Proofs.Text.Spacing
import Postal.Proofs.Fragment.Respacing
import Postal.Proofs.Parsing.Conservation
import Postal.Proofs.Store.Cache
import Postal.Proofs.Store.Session
import Postal.Proofs.Store.LoadOnce
import Postal.Proofs.Store.Clearing
import Postal.Proofs.Store.Operation
import Postal.Proofs.Store.Truth
import Postal.Proofs.Store.Service
import Postal.Proofs.Store.Modes
import Postal.Proofs.Store.Choice
import Postal.Proofs.Store.Steady
import Postal.Proofs.Formatting.Delegation
import Postal.Proofs.Ruleset.CodeFirst
import Postal.Proofs.Fragment.Cleaning
import Postal.Proofs.Locale.Tag
import Postal.Proofs.Locale.Territory
import Postal.Proofs.Fragment.CodeLine
import Postal.Proofs.Parsing.RoundTrip
import Postal.Proofs.Parsing.CountryName
import Postal.Proofs.Parsing.Tidy
import Postal.Proofs.Parsing.CountryCode
import Postal.Proofs.Text.LetterCase
import Postal.Proofs.Dataset.Directory
import Postal.Proofs.Country.Detection
import Postal.Proofs.Pattern.LetterCase
import Postal.Proofs.Pattern.Flags
import Postal.Proofs.Fragment.LetterCase
import Postal.Proofs.Ruleset.LetterCase
import Postal.Proofs.Parsing.LetterCase
import Postal.Proofs.Json.RoundTrip
import Postal.Proofs.Address.RoundTrip
import Postal.Proofs.Parsing.Fields
import Postal.Proofs.Command.Agreement
import Postal.Proofs.Unicode.Ranges
import Postal.Proofs.Unicode.Lowercase
import Postal.Proofs.Text.Lines
import Postal.Proofs.Formatting.Cleanup
import Postal.Proofs.Formatting.Placeholders
import Postal.Proofs.Formatting.Fallbacks
import Postal.Proofs.Formatting.Absence
import Postal.Proofs.Country.Spelling
import Postal.Proofs.Fragment.Candidates
import Postal.Proofs.Fragment.Precedence
import Postal.Proofs.Fragment.SingleRule
import Postal.Proofs.Fragment.Hyphens
import Postal.Proofs.Locale.Spelling
import Postal.Proofs.Parsing.Normalization
import Postal.Proofs.Json.Shape
import Postal.Proofs.Parsing.Input
import Postal.Proofs.Ruleset.RoundTrip
import Postal.Proofs.Country.Choices
import Postal.Proofs.Settings.Assignment
import Postal.Proofs.Store.Rules
import Postal.Proofs.Parsing.Bounds
