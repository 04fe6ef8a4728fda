import StepSheet.Run.Document
import StepSheet.Run.Tracker
import StepSheet.Json.Printer

/-!
# The summary as a JSON document

The document tells the date, when it was written, the statistics and all runs.
-/

namespace StepSheet.Summary

def toData (summary : Summary) (generatedAt : Instant) : Data :=
  .object
    [("executionDate", .text summary.date.toText),
      ("timestamp", .text generatedAt.toRfc3339Millis),
      ("statistics", summary.statistics.toData),
      ("testCases", .array (summary.testCases.map TestCaseRun.toData))]

def renderJson (summary : Summary) (generatedAt : Instant) : String :=
  Json.renderPretty (summary.toData generatedAt)

end StepSheet.Summary
