import StepSheet.Proofs.Run.Records
import StepSheet.Report.Json

/-!
# The persisted summary

The document of a summary reads back to its runs, all of them completed, and to its statistics.
-/

namespace StepSheet

namespace Instant

variable {t t' : Instant}

/-- The years of timestamps bound the seconds of the instants they tell. -/
theorem InRange.second_bounds (h : t.InRange) :
    -8400000000000 ≤ t.second ∧ t.second < 8400000000000 := by
  obtain ⟨year, day, same, number, within, -⟩ := Date.exists_ofMarch t.day
  have shown : t.date = Date.ofMarch year day := same
  have years := h.year
  simp only [Rfc3339.hasYear, Bool.and_eq_true, decide_eq_true_iff, shown] at years
  obtain ⟨_, _, -, -, ⟨-, date⟩ | ⟨-, date⟩⟩ := Date.exists_month year within
  all_goals
    rw [date] at years
    simp only at years
    rw [Date.marchDays, Instant.day] at number
    omega

/-- The milliseconds between two timestamps fit into 64 bits. -/
theorem InRange.millisSince_lt (h : t.InRange) (h' : t'.InRange) :
    t.millisSince t' < Word.count 64 := by
  have bounds := h.second_bounds
  have bounds' := h'.second_bounds
  have nano : t.nano < 2000000000 := by
    rcases h.nano with plain | ⟨leap, -⟩ <;> omega
  -- At most one leap second lies between the times of day.
  have leap : (if t'.secondOfDay < t.secondOfDay then if t'.isLeap then (1 : Int) else 0
      else if t.secondOfDay < t'.secondOfDay then if t.isLeap then -1 else 0 else 0) ≤ 1 := by
    split
    · split <;> decide
    split
    · split <;> decide
    · decide
  have most : t.nanosSince t' / 1000000 < 20000000000000000 := by
    rw [nanosSince]
    omega
  have count : Word.count 64 = 18446744073709551616 := by decide
  rw [millisSince, count]
  omega

theorem InRange.latest (h : t.InRange) (h' : t'.InRange) : (t.latest t').InRange := by
  rw [Instant.latest]
  split
  · exact h'
  · exact h

end Instant

theorem TestCaseRun.InRange.lastActivity {run : TestCaseRun} (h : run.InRange) :
    run.lastActivity.InRange := by
  have ended : ((run.endTime.map run.startTime.latest).getD run.startTime).InRange := by
    cases time : run.endTime with
    | none => exact h.startTime
    | some time' => exact h.startTime.latest (h.endTime time' time)
  rw [TestCaseRun.lastActivity]
  cases last : run.steps.getLast? with
  | none => exact ended
  | some outcome =>
      exact ended.latest (h.steps outcome (List.mem_of_getLast? last)).timestamp

theorem Statistics.inRange_lastActivity {runs : List TestCaseRun} {start : Instant}
    (first : start.InRange) (each : ∀ run ∈ runs, run.InRange) :
    (lastActivity runs start).InRange := by
  rw [lastActivity]
  induction runs generalizing start with
  | nil => exact first
  | cons run runs ih =>
      obtain ⟨here, others⟩ := List.forall_mem_cons.mp each
      exact ih (first.latest here.lastActivity) others

namespace Summary

structure InRange (summary : Summary) : Prop where
  overallStart : summary.overallStart.InRange
  testCases : ∀ run ∈ summary.testCases, run.InRange
  cases_ : summary.testCases.length < Word.count 64
  steps : (summary.testCases.flatMap TestCaseRun.steps).length < Word.count 64

variable {summary : Summary}

theorem InRange.statistics (h : summary.InRange) : summary.statistics.InRange := by
  have last := Statistics.inRange_lastActivity h.overallStart h.testCases
  exact {
    totalCases := h.cases_
    passedCases := Nat.lt_of_le_of_lt List.countP_le_length h.cases_
    failedCases := Nat.lt_of_le_of_lt List.countP_le_length h.cases_
    totalSteps := h.steps
    passedSteps := Nat.lt_of_le_of_lt List.countP_le_length h.steps
    failedSteps := Nat.lt_of_le_of_lt (Nat.sub_le _ _) h.steps
    durationMillis := last.millisSince_lt h.overallStart }

theorem InRange.isExact_toData (h : summary.InRange) (generatedAt : Instant) :
    (summary.toData generatedAt).IsExact 127 := by
  have runs : (Data.array (summary.testCases.map TestCaseRun.toData)).IsExact 126 := by
    refine Data.isExact_array ?_
    intro item among
    obtain ⟨run, tracked, rfl⟩ := List.mem_map.mp among
    exact (h.testCases run tracked).isExact_toData 122
  refine Data.isExact_object ?_
  simp [Data.isExact_text, runs, h.statistics.isExact_toData 125]

/-- The document of a summary is read back as a whole. -/
theorem InRange.readWhole?_renderJson (h : summary.InRange) (generatedAt : Instant) :
    Json.readWhole? (summary.renderJson generatedAt) = some (summary.toData generatedAt) :=
  Json.readWhole?_renderPretty (h.isExact_toData generatedAt)

theorem InRange.mapM_ofData? (h : summary.InRange) :
    (summary.testCases.map TestCaseRun.toData).mapM TestCaseRun.ofData? =
      some (summary.testCases.map fun run => { run with phase := .completed }) :=
  mapM_map_eq_some fun run tracked => (h.testCases run tracked).ofData?_toData

end Summary

/-- What is persisted reads back to what was tracked. In the document of a summary the test
cases read back to its runs, in order and with all their fields but for the phase, which is
completed, and the statistics to those of the summary. A step row reads back to itself, from
one line or from several: a column that is absent is absent again. -/
theorem persisted_reads_back :
    (∀ (summary : Summary) (generatedAt : Instant), summary.InRange →
      ∃ document testCases statistics,
        Json.readWhole? (summary.renderJson generatedAt) = some document ∧
        document.get? "testCases" = some (.array testCases) ∧
        testCases.mapM TestCaseRun.ofData? =
          some (summary.testCases.map fun run => { run with phase := .completed }) ∧
        document.get? "statistics" = some statistics ∧
        Statistics.ofData? statistics = some summary.statistics) ∧
    ∀ row : StepRow, row.step < Word.count 32 →
      (Json.readWhole? (Json.render row.toData)).bind StepRow.ofData? = some row ∧
      (Json.readWhole? (Json.renderPretty row.toData)).bind StepRow.ofData? = some row := by
  constructor
  · intro summary generatedAt h
    have runs : (summary.toData generatedAt).get? "testCases" =
        some (.array (summary.testCases.map TestCaseRun.toData)) := by
      simp [Summary.toData, Data.get?, Data.named]
    have statistics : (summary.toData generatedAt).get? "statistics" =
        some summary.statistics.toData := by
      simp [Summary.toData, Data.get?, Data.named]
    exact ⟨_, _, _, h.readWhole?_renderJson generatedAt, runs, h.mapM_ofData?, statistics,
      h.statistics.ofData?_toData⟩
  · intro row step
    have exact_ := StepRow.isExact_toData 126 step
    rw [Json.readWhole?_render exact_, Json.readWhole?_renderPretty exact_, Option.bind_some,
      StepRow.ofData?_toData step]
    exact ⟨rfl, rfl⟩

/-- A run that failed with a message in quotes over two lines. -/
def TestCaseRun.failedOnce : TestCaseRun :=
  ⟨"signs in", .failed, [⟨1, "open", "OPENURL", .failed, some "no \"page\"\n", ⟨1, 500000000⟩⟩],
    ⟨0, 0⟩, some ⟨2, 0⟩, some 2000, some 1, some "no \"page\"\n", .completed⟩

/-- A run that goes on, and a leap second is its last time. -/
def TestCaseRun.goingOn : TestCaseRun := .start "signs out" ⟨59, 1500000000⟩

def Summary.failedAndRunning : Summary :=
  ⟨⟨0, 0⟩, ⟨1970, 1, 1⟩, [.failedOnce, .goingOn]⟩

theorem Summary.inRange_failedAndRunning : failedAndRunning.InRange := by
  have failed : TestCaseRun.failedOnce.InRange :=
    { steps := List.forall_mem_singleton.mpr ⟨by decide, by decide, by decide⟩
      startTime := ⟨by decide, by decide⟩
      endTime := fun _ has => Option.some.inj has ▸ ⟨by decide, by decide⟩
      duration := fun _ has => Option.some.inj has ▸ by decide
      failureStep := fun _ has => Option.some.inj has ▸ by decide }
  have running : TestCaseRun.goingOn.InRange :=
    { steps := fun _ among => absurd among List.not_mem_nil
      startTime := ⟨by decide, by decide⟩
      endTime := nofun
      duration := nofun
      failureStep := nofun }
  exact ⟨⟨by decide, by decide⟩,
    List.forall_mem_cons.mpr ⟨failed, List.forall_mem_singleton.mpr running⟩, by decide,
    by decide⟩

/-- The run that goes on counts as completed once it is read back, and an empty column is not an
absent one. -/
theorem failed_and_running_read_back :
    let row : StepRow := ⟨1, "open", "OPENURL", none, none, some ""⟩
    Summary.failedAndRunning.InRange ∧ row.step < Word.count 32 ∧
    (∃ document testCases statistics,
      Json.readWhole? (Summary.failedAndRunning.renderJson ⟨3, 0⟩) = some document ∧
      document.get? "testCases" = some (.array testCases) ∧
      testCases.mapM TestCaseRun.ofData? =
        some (Summary.failedAndRunning.testCases.map fun run => { run with phase := .completed }) ∧
      document.get? "statistics" = some statistics ∧
      Statistics.ofData? statistics = some Summary.failedAndRunning.statistics) ∧
    (Json.readWhole? (Json.render row.toData)).bind StepRow.ofData? = some row := by
  intro row
  have step : row.step < Word.count 32 := by decide
  exact ⟨Summary.inRange_failedAndRunning, step,
    persisted_reads_back.1 _ ⟨3, 0⟩ Summary.inRange_failedAndRunning,
    (persisted_reads_back.2 row step).1⟩

end StepSheet
