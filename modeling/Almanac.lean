import Almanac.Main
import Almanac.Proofs.LongYears
import Almanac.Proofs.IsoReading
import Almanac.Proofs.OffsetHistory
import Almanac.Proofs.YearlyChanges
import Almanac.Proofs.SteadyOffsets
import Almanac.Proofs.WallGaps
import Almanac.Proofs.LocalTime
import Almanac.Proofs.ZoneTable
import Almanac.Proofs.LocalAnswers
import Almanac.Proofs.OpenEnds
import Almanac.Proofs.SumSplit
import Almanac.Proofs.Addends
import Almanac.Proofs.SumReading
import Almanac.Proofs.YearRange
import Almanac.Proofs.EvaluatedYears
import Almanac.Proofs.Sums
import Almanac.Proofs.Keywords
import Almanac.Proofs.LiteralMarks
import Almanac.Proofs.DurationSpelling
import Almanac.Proofs.Forms
import Almanac.Proofs.OffsetShift
import Almanac.Proofs.CheckedSteps
import Almanac.Proofs.CheckedEvaluation
import Almanac.Proofs.LongRuns
import Almanac.Proofs.Outcomes
import Almanac.Proofs.SupportedYears
import Almanac.Proofs.JsonStrings
import Almanac.Proofs.JsonReading
import Almanac.Proofs.AcceptedSettings
import Almanac.Proofs.WholeTexts
import Almanac.Proofs.LoneSurrogates
import Almanac.Proofs.WholeValues
import Almanac.Proofs.ReloadedSettings
import Almanac.Proofs.PersistedSettings
import Almanac.Proofs.KeyPaths
import Almanac.Proofs.AssignedValues
import Almanac.Proofs.SettingsSteps
import Almanac.Proofs.NearDates
import Almanac.Proofs.NearClocks
import Almanac.Proofs.PinnedPresent
import Almanac.Proofs.SavedSettings
import Almanac.Proofs.YearTurns
import Almanac.Proofs.EndsOfTime
import Almanac.Proofs.AbsoluteStarts
import Almanac.Proofs.FromNow
import Almanac.Proofs.Chronology
import Almanac.Proofs.Adjustments
import Almanac.Proofs.FixedSteps
import Almanac.Proofs.MonthSteps
import Almanac.Proofs.RepeatedMonths
import Almanac.Proofs.IsoWeeks
import Almanac.Proofs.Periods
import Almanac.Proofs.WideYears
import Almanac.Proofs.LastSign
import Almanac.Proofs.DurationReading
import Almanac.Proofs.OffsetTexts
import Almanac.Proofs.ZoneIds
import Almanac.Proofs.KeywordSpelling
import Almanac.Proofs.IsoOrder
import Almanac.Proofs.ShortTexts
import Almanac.Proofs.NumberedDays
import Almanac.Proofs.Stamps
import Almanac.Proofs.ChosenSettings
import Almanac.Proofs.RepeatedInit
import Almanac.Proofs.ExchangedValues
import Almanac.Proofs.LookupSteps
import Almanac.Proofs.PrintedLines
import Almanac.Proofs.AgreeingCommands
