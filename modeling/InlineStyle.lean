import InlineStyle.Main
import InlineStyle.Proofs.StyleWrites
import InlineStyle.Proofs.Words
import InlineStyle.Proofs.Amounts
import InlineStyle.Proofs.Grammar
import InlineStyle.Proofs.Ownership
import InlineStyle.Proofs.Resolution
import InlineStyle.Proofs.RuleOrder
import InlineStyle.Proofs.WordRun
import InlineStyle.Proofs.LenientStyling
import InlineStyle.Proofs.StyleMerge
import InlineStyle.Proofs.MarkupCut
import InlineStyle.Proofs.StrictStyling
import InlineStyle.Proofs.FaultText
import InlineStyle.Proofs.EventLog
import InlineStyle.Proofs.Concatenation
import InlineStyle.Proofs.Rearrangement
import InlineStyle.Proofs.Restyling
import InlineStyle.Proofs.Numerals
import InlineStyle.Proofs.FloatText
import InlineStyle.Proofs.Rounding
import InlineStyle.Proofs.FloatReading
import InlineStyle.Proofs.ObjectText
import InlineStyle.Proofs.Schema
import InlineStyle.Proofs.LiteralSafety
import InlineStyle.Proofs.ShadowGroup
import InlineStyle.Proofs.UniqueText
import InlineStyle.Proofs.Idempotence
import InlineStyle.Proofs.LevelNames
import InlineStyle.Proofs.StrictRestyling
import InlineStyle.Proofs.AttributeLog
import InlineStyle.Proofs.WordRoles
import InlineStyle.Proofs.Brackets
import InlineStyle.Proofs.StrayBytes
import InlineStyle.Proofs.Piecewise
import InlineStyle.Proofs.RunOutcome
import InlineStyle.Proofs.Utf8RoundTrip
import InlineStyle.Proofs.LossyBoundaries
import InlineStyle.Proofs.CommandLine
import InlineStyle.Proofs.WordArguments
import InlineStyle.Proofs.StyleRuns
import InlineStyle.Proofs.Equality
import InlineStyle.Proofs.ExactPixels
import InlineStyle.Proofs.LogIndependence
import InlineStyle.Proofs.FlagLayers
import InlineStyle.Proofs.DocumentKeys
import InlineStyle.Proofs.SettingsEntries
import InlineStyle.Proofs.Warnings
import InlineStyle.Proofs.ReportFlag
import InlineStyle.Proofs.Reports
