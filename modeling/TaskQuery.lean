import TaskQuery.Main
import TaskQuery.Proofs.Grammar
import TaskQuery.Proofs.Layout
import TaskQuery.Query.Run
import TaskQuery.Record.SavedFilter
import TaskQuery.Proofs.GrammarReading
import TaskQuery.Proofs.Rounding
import TaskQuery.Proofs.NumberWriting
import TaskQuery.Proofs.OperandRow
import TaskQuery.Proofs.ConditionText
import TaskQuery.Proofs.DraftRun
import TaskQuery.Proofs.DraftText
import TaskQuery.Proofs.Judgement
import TaskQuery.Proofs.Folding
import TaskQuery.Proofs.WireWalk
import TaskQuery.Proofs.ProblemList
import TaskQuery.Proofs.Acceptance
import TaskQuery.Proofs.FilterKinds
import TaskQuery.Proofs.FilterVerdict
import TaskQuery.Proofs.FaithfulText
import TaskQuery.Proofs.DraftHistory
import TaskQuery.Proofs.FilterAdmission
import TaskQuery.Proofs.WireRoundTrip
import TaskQuery.Proofs.WireAgreement
import TaskQuery.Proofs.CivilDay
import TaskQuery.Proofs.IsoRoundTrip
import TaskQuery.Proofs.DraftDate
import TaskQuery.Proofs.LegalCondition
import TaskQuery.Proofs.HeldValue
import TaskQuery.Proofs.Respelling
import TaskQuery.Proofs.TaskAdmission
import TaskQuery.Proofs.DisallowedContent
import TaskQuery.Proofs.DraftReading
import TaskQuery.Proofs.DraftExamination
import TaskQuery.Proofs.RecordView
import TaskQuery.Proofs.MatchFaults
import TaskQuery.Proofs.TotalReading
import TaskQuery.Proofs.VerdictFaults
import TaskQuery.Proofs.BracketedText
import TaskQuery.Proofs.CombinedText
import TaskQuery.Proofs.GroupedText
import TaskQuery.Proofs.ReadFailures
import TaskQuery.Proofs.ErrorPosition
import TaskQuery.Proofs.LegalWireForm
import TaskQuery.Proofs.TightenedLimits
import TaskQuery.Proofs.VisibleParts
import TaskQuery.Proofs.OppositeOperators
import TaskQuery.Proofs.UnresolvedDate
import TaskQuery.Proofs.IntegerDoubles
import TaskQuery.Proofs.QuotedId
import TaskQuery.Proofs.CommonIds
import TaskQuery.Proofs.WrittenTimestamp
import TaskQuery.Proofs.MomentShift
import TaskQuery.Proofs.InstantComparison
import TaskQuery.Proofs.AbsentDay
import TaskQuery.Proofs.CivilMonth
import TaskQuery.Proofs.RelativeOffset
import TaskQuery.Proofs.PeriodStart
import TaskQuery.Proofs.DateAnswers
import TaskQuery.Proofs.NodeReach
import TaskQuery.Proofs.WiderLimits
import TaskQuery.Proofs.TreeVerdict
import TaskQuery.Proofs.PaddedContent
import TaskQuery.Proofs.TextJoin
import TaskQuery.Proofs.BadLexeme
import TaskQuery.Proofs.QuotedLiteral
import TaskQuery.Proofs.SmallLetters
import TaskQuery.Proofs.FoundParts
import TaskQuery.Proofs.QuotedValue
import TaskQuery.Proofs.RelaidText
