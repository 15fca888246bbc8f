import ClockFace.Text.Letter
import ClockFace.Text.Visible
import ClockFace.Locale.Resolve
import ClockFace.Pattern.Basic
import ClockFace.Pattern.Marker
import ClockFace.Run.Clock
import ClockFace.Run.Recorder
import ClockFace.Environment.Load
import ClockFace.Styled.Face
import ClockFace.Text.Quoted
import ClockFace.Time.ZoneName
import ClockFace.Time.ZoneTable
import ClockFace.Time.Instant
import ClockFace.Proofs.AttemptRun
import ClockFace.Proofs.BufferDelete
import ClockFace.Proofs.MarkedRun
import ClockFace.Proofs.FaceClosed
import ClockFace.Proofs.FacePieces
import ClockFace.Proofs.DateBeside
import ClockFace.Proofs.PatternSplit
import ClockFace.Proofs.SelectorHistory
import ClockFace.Proofs.MarkerInject
import ClockFace.Proofs.FieldText
import ClockFace.Proofs.MarkerLeak
import ClockFace.Proofs.SelectorLog
import ClockFace.Proofs.ClockHistory
import ClockFace.Proofs.PatternText
import ClockFace.Proofs.SmallRun
import ClockFace.Proofs.FaceSpans
import ClockFace.Proofs.FileReferences
import ClockFace.Proofs.FileLines
import ClockFace.Proofs.DemoZone
import ClockFace.Proofs.RenderEvents
import ClockFace.Proofs.DemoMode
import ClockFace.Proofs.RejectedSetting
import ClockFace.Proofs.BufferEdits
import ClockFace.Proofs.DateSettings
import ClockFace.Proofs.KeptText
import ClockFace.Proofs.FaceDeletions
import ClockFace.Proofs.SmallDate
import ClockFace.Proofs.DemoTime
import ClockFace.Proofs.HiddenRun
import ClockFace.Proofs.FaceStyles
import ClockFace.Proofs.ClockCompiles
import ClockFace.Proofs.TuningStrings
import ClockFace.Proofs.CalendarYears
import ClockFace.Proofs.ZoneOffsets
import ClockFace.Proofs.SameMoment
import ClockFace.Proofs.DemoFailure
import ClockFace.Proofs.SettingRules
import ClockFace.Proofs.DoubleRounding
import ClockFace.Proofs.EpochSeconds
import ClockFace.Proofs.EpochMillis
import ClockFace.Proofs.NumeralText
import ClockFace.Proofs.DemoMillis
import ClockFace.Proofs.DemoArguments
import ClockFace.Proofs.EditFailure
import ClockFace.Proofs.AmPmField
