import StepSheet.Main
import StepSheet.Proofs.Analytics.Rebuilt
import StepSheet.Proofs.Dispatch.Frames
import StepSheet.Proofs.Loop.Cancelled
import StepSheet.Proofs.Loop.Screenshots
import StepSheet.Proofs.Plan.Made
import StepSheet.Proofs.Program.Sessions
import StepSheet.Proofs.Program.Startup
import StepSheet.Proofs.Report.Links
import StepSheet.Proofs.Tracker.History
import StepSheet.Proofs.Tracker.Separate
import StepSheet.Proofs.WebDriver.Page
import StepSheet.Proofs.Module.Markers
import StepSheet.Proofs.Loop.Concluded
import StepSheet.Proofs.Json.Leaves
import StepSheet.Proofs.Json.ReadBack
import StepSheet.Proofs.Report.Marks
import StepSheet.Proofs.Time.Days
import StepSheet.Proofs.Time.Stamps
import StepSheet.Proofs.Run.Records
import StepSheet.Proofs.Report.Persisted
import StepSheet.Proofs.Loop.MoreModules
import StepSheet.Proofs.Step.Faults
import StepSheet.Proofs.WebDriver.Literals
import StepSheet.Proofs.Files.Relative
import StepSheet.Proofs.Run.Totals
import StepSheet.Proofs.Tracker.Elapsed
import StepSheet.Proofs.WebDriver.PageState
import StepSheet.Proofs.WebDriver.Polling
import StepSheet.Proofs.Analytics.Unordered
import StepSheet.Proofs.Workbook.Readers
import StepSheet.Proofs.Workbook.Documents
import StepSheet.Proofs.Workbook.Numbers
import StepSheet.Proofs.Step.Cleaned
import StepSheet.Proofs.WebDriver.Options
import StepSheet.Proofs.Phrase.Languages
import StepSheet.Proofs.Files.Listed
import StepSheet.Proofs.Module.Visits
import StepSheet.Proofs.Report.Wrapped
import StepSheet.Proofs.Analytics.Ranking
