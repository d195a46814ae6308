import SqlWeave.Main
import SqlWeave.Proofs.NonInterference
import SqlWeave.Proofs.ColumnList
import SqlWeave.Proofs.Parser.Reads
import SqlWeave.Proofs.RoundTrip
import SqlWeave.Proofs.Normalization
import SqlWeave.Proofs.Render.Agreement
import SqlWeave.Proofs.RenderModes
import SqlWeave.Proofs.Separation
import SqlWeave.Proofs.Survival
import SqlWeave.Proofs.Token.Tiling
import SqlWeave.Proofs.DialectIndependence
import SqlWeave.Proofs.Literals
import SqlWeave.Proofs.Trimming
import SqlWeave.Proofs.Acceptance
import SqlWeave.Proofs.CommandLine
import SqlWeave.Proofs.BindingPowers
import SqlWeave.Proofs.AliasReadBack
import SqlWeave.Proofs.ColumnDefinitions
import SqlWeave.Proofs.CanonicalLimit
import SqlWeave.Proofs.LegacyLimits
import SqlWeave.Proofs.LimitReadBack
import SqlWeave.Proofs.AllowDecision
import SqlWeave.Proofs.CaselessNames
import SqlWeave.Proofs.EntryForms
import SqlWeave.Proofs.IntegerLiterals
import SqlWeave.Proofs.ReferenceRuns
import SqlWeave.Proofs.Decimal.Literal
import SqlWeave.Proofs.Decimal.Notation
import SqlWeave.Proofs.DecimalLiterals
import SqlWeave.Proofs.Wire.Hoisting
import SqlWeave.Proofs.Render.TypeText
import SqlWeave.Proofs.Render.Capabilities
import SqlWeave.Proofs.Parser.Termination
import SqlWeave.Proofs.Parentheses
