import StepSheet.Proofs.Data.Reading
import StepSheet.Proofs.Json.ReadBack
import StepSheet.Proofs.Time.Stamps
import StepSheet.Run.Document

/-!
# Records in documents

A record is read back from the table that a document has for it, if its numbers are within
their types and its timestamps can be told. Fields without a value are left out of the table,
and are without one again. All but the phase of a run comes back: a run that is read counts as
completed.
-/

namespace StepSheet

namespace Data

/-! ### Fields -/

variable {members : List (String × Option Data)}

def valuesOf (name : String) (members : List (String × Option Data)) : List Data :=
  (members.filterMap fun member => member.2.map (member.1, ·)).filterMap fun member =>
    if [name].contains member.1 then some member.2 else none

theorem valuesOf_cons (name : String) (member : String × Option Data) :
    valuesOf name (member :: members) =
      (if member.1 = name then member.2.toList else []) ++ valuesOf name members := by
  obtain ⟨key, value⟩ := member
  cases value <;> by_cases same : key = name <;> simp [valuesOf, same]

theorem valuesOf_eq_nil {name : String} (absent : name ∉ members.map Prod.fst) :
    valuesOf name members = [] := by
  induction members with
  | nil => rfl
  | cons member members ih =>
      rw [List.map_cons, List.mem_cons, not_or] at absent
      rw [valuesOf_cons, if_neg fun same => absent.1 same.symm, ih absent.2]
      rfl

/-- Where no name occurs twice, a member has the only value under its name. -/
theorem valuesOf_eq (distinct : (members.map Prod.fst).Nodup) {member : String × Option Data}
    (among : member ∈ members) : valuesOf member.1 members = member.2.toList := by
  induction members with
  | nil => cases among
  | cons first members ih =>
      obtain ⟨fresh, distinct⟩ := List.nodup_cons.mp distinct
      rw [valuesOf_cons]
      rcases List.mem_cons.mp among with rfl | among
      · rw [if_pos rfl, valuesOf_eq_nil fresh, List.append_nil]
      · have other : first.1 ≠ member.1 := fun same =>
          fresh (same ▸ List.mem_map_of_mem among)
        rw [if_neg other, ih distinct among, List.nil_append]

/-- A table of fields with different names gives each of them its value, or none. -/
theorem fields?_compactObject (exact_ : Bool) (distinct : (members.map Prod.fst).Nodup) :
    fields? exact_ (members.map fun member => [member.1]) (compactObject members) =
      some (members.map Prod.snd) := by
  rw [compactObject, fields?]
  refine mapM_map_eq_some fun member among => ?_
  have values := valuesOf_eq distinct among
  rw [valuesOf] at values
  rw [values]
  cases member.2 <;> rfl

/-- A table of members with different names gives each field its value. -/
theorem fields?_object (exact_ : Bool) {members : List (String × Data)}
    (distinct : (members.map Prod.fst).Nodup) :
    fields? exact_ (members.map fun member => [member.1]) (.object members) =
      some (members.map fun member => some member.2) := by
  have table : Data.object members =
      compactObject (members.map fun member => (member.1, some member.2)) := by
    simp [compactObject, List.filterMap_map]
  have read : fields? exact_ _
      (compactObject (members.map fun member => (member.1, some member.2))) = some _ :=
    fields?_compactObject exact_ (by simpa [Function.comp_def] using distinct)
  simpa [table, Function.comp_def] using read

theorem required?_text (s : String) : required? text? (some (.text s)) = some s := rfl

theorem required?_array (items : List Data) :
    required? array? (some (.array items)) = some items := rfl

theorem natBelow?_natCast {bound n : Nat} (below : n < bound) :
    natBelow? bound (.integer n) = some n := by
  simp [natBelow?, below]

theorem required?_natCast {bound n : Nat} (below : n < bound) :
    required? (natBelow? bound) (some (.integer n)) = some n := by
  rw [required?, natBelow?_natCast below]

/-- A field that may be missing is read back if its value is, which is not written as null. -/
theorem optional?_map {α : Type} {read : Data → Option α} {written : α → Data} {value : Option α}
    (each : ∀ a ∈ value, read (written a) = some a ∧ written a ≠ .null) :
    optional? read (value.map written) = some value := by
  cases value with
  | none => rfl
  | some a =>
      obtain ⟨back, present⟩ := each a rfl
      rw [Option.map_some, optional?]
      · rw [back]
        rfl
      · exact present

theorem optional?_text (value : Option String) :
    optional? text? (value.map .text) = some value :=
  optional?_map fun _ _ => ⟨rfl, Data.noConfusion⟩

theorem optional?_natCast {bound : Nat} {value : Option Nat} (below : ∀ n ∈ value, n < bound) :
    optional? (natBelow? bound) (value.map fun n => .integer n) = some value := by
  have same : (value.map fun n => Data.integer n) = value.map fun n : Nat => Data.integer n := by
    cases value <;> rfl
  rw [same]
  exact optional?_map fun n has => ⟨natBelow?_natCast (below n has), Data.noConfusion⟩

end Data

theorem Instant.InRange.ofData?_toData {t : Instant} (h : t.InRange) :
    Instant.ofData? t.toData = some t := by
  rw [Instant.ofData?, Instant.toData, Data.text?, Option.bind_some, h.ofRfc3339?_toRfc3339]

theorem Data.required?_stamp {t : Instant} (h : t.InRange) :
    required? Instant.ofData? (some t.toData) = some t := by
  rw [required?, h.ofData?_toData]

theorem Data.optional?_stamp {value : Option Instant} (h : ∀ t ∈ value, t.InRange) :
    optional? Instant.ofData? (value.map Instant.toData) = some value :=
  optional?_map fun t has => ⟨(h t has).ofData?_toData, Data.noConfusion⟩

theorem Data.required?_status (status : Status) :
    required? Status.ofData? (some (.text status.text)) = some status := by
  cases status <;> rfl

namespace Data

/-! ### What is written exactly -/

theorem isExact_natCast {limit n : Nat} (fits : n < Word.count 64) :
    IsExact limit (.integer n) := by
  rw [IsExact]
  omega

/-- A number of 32 bits has 64 bits. -/
theorem isExact_short {limit n : Nat} (fits : n < Word.count 32) : IsExact limit (.integer n) :=
  isExact_natCast (Nat.lt_trans fits (by decide))

theorem isExact_optional (limit : Nat) {value : Option Nat}
    (fits : ∀ n ∈ value, n < Word.count 64) :
    ∀ item ∈ (value.map fun n => Data.integer n), IsExact limit item := by
  cases value with
  | none => simp
  | some n => simpa using isExact_natCast (fits n rfl)

theorem isExact_array {limit : Nat} {items : List Data}
    (each : ∀ item ∈ items, IsExact limit item) : IsExact (limit + 1) (.array items) := by
  rw [IsExact]
  exact areExact_iff.mpr each

theorem isExact_object {limit : Nat} {members : List (String × Data)}
    (each : ∀ member ∈ members, IsExact limit member.2) :
    IsExact (limit + 1) (.object members) := by
  rw [IsExact]
  exact membersExact_iff.mpr each

theorem isExact_compactObject {limit : Nat} {members : List (String × Option Data)}
    (each : ∀ member ∈ members, ∀ value ∈ member.2, IsExact limit value) :
    IsExact (limit + 1) (compactObject members) := by
  refine isExact_object fun member among => ?_
  obtain ⟨field, listed, written⟩ := List.mem_filterMap.mp among
  obtain ⟨value, has, rfl⟩ := Option.map_eq_some_iff.mp written
  exact each field listed value has

theorem isExact_text (limit : Nat) (s : String) : IsExact limit (.text s) := by
  simp [IsExact]

end Data

/-! ### Step rows -/

namespace StepRow

variable {row : StepRow}

/-- A row is read back, and its absent columns are absent again. -/
theorem ofData?_toData (step : row.step < Word.count 32) : ofData? row.toData = some row := by
  have fields : row.toData.fields? true fieldNames = some _ :=
    Data.fields?_compactObject true (by simp)
  rw [ofData?, fields]
  simp only [List.map_cons, List.map_nil, Data.required?_natCast step, Data.optional?_text]
  rfl

theorem isExact_toData (limit : Nat) (step : row.step < Word.count 32) :
    row.toData.IsExact (limit + 1) := by
  refine Data.isExact_compactObject ?_
  simp [Data.isExact_short step, Data.isExact_text]

end StepRow

/-! ### Runs -/

structure StepOutcome.InRange (outcome : StepOutcome) : Prop where
  step : outcome.step < Word.count 32
  timestamp : outcome.timestamp.InRange

theorem StepOutcome.InRange.ofData?_toData {outcome : StepOutcome} (h : outcome.InRange) :
    StepOutcome.ofData? outcome.toData = some outcome := by
  have fields : outcome.toData.fields? true StepOutcome.fieldNames = some _ :=
    Data.fields?_compactObject true (by simp)
  rw [StepOutcome.ofData?, fields]
  simp only [List.map_cons, List.map_nil, Data.required?_natCast h.step, Data.optional?_text,
    Data.required?_status, Data.required?_stamp h.timestamp]
  rfl

theorem StepOutcome.InRange.isExact_toData {outcome : StepOutcome} (h : outcome.InRange)
    (limit : Nat) : outcome.toData.IsExact (limit + 1) := by
  refine Data.isExact_compactObject ?_
  simp [Data.isExact_short h.step, Data.isExact_text, Instant.toData]

structure TestCaseRun.InRange (run : TestCaseRun) : Prop where
  steps : ∀ outcome ∈ run.steps, outcome.InRange
  startTime : run.startTime.InRange
  endTime : ∀ time ∈ run.endTime, time.InRange
  duration : ∀ millis ∈ run.duration, millis < Word.count 64
  failureStep : ∀ step ∈ run.failureStep, step < Word.count 32

/-- A run is read back as a completed one. -/
theorem TestCaseRun.InRange.ofData?_toData {run : TestCaseRun} (h : run.InRange) :
    TestCaseRun.ofData? run.toData = some { run with phase := .completed } := by
  have fields : run.toData.fields? true TestCaseRun.fieldNames = some _ :=
    Data.fields?_compactObject true (by simp [TestCaseRun.members])
  have steps : (run.steps.map StepOutcome.toData).mapM StepOutcome.ofData? =
      some (run.steps.map id) :=
    mapM_map_eq_some fun outcome among => (h.steps outcome among).ofData?_toData
  rw [List.map_id] at steps
  rw [TestCaseRun.ofData?, fields]
  simp only [TestCaseRun.members, List.map_cons, List.map_nil, Data.required?_text,
    Data.required?_status, Data.required?_array, Data.required?_stamp h.startTime,
    Data.optional?_stamp h.endTime, Data.count?, Data.optional?_natCast h.duration,
    Data.optional?_natCast h.failureStep, Data.optional?_text]
  simp only [Option.bind_eq_bind, Option.bind_some, steps]
  rfl

theorem TestCaseRun.InRange.isExact_toData {run : TestCaseRun} (h : run.InRange) (limit : Nat) :
    run.toData.IsExact (limit + 3) := by
  have steps : (Data.array (run.steps.map StepOutcome.toData)).IsExact (limit + 2) := by
    refine Data.isExact_array ?_
    intro item among
    obtain ⟨outcome, recorded, rfl⟩ := List.mem_map.mp among
    exact (h.steps outcome recorded).isExact_toData limit
  have duration := Data.isExact_optional (limit + 2) h.duration
  have failureStep := Data.isExact_optional (limit + 2)
    fun step has => Nat.lt_trans (h.failureStep step has) (by decide)
  refine Data.isExact_compactObject ?_
  simp only [TestCaseRun.members, List.forall_mem_cons]
  refine ⟨?_, ?_, ?_, ?_, ?_, duration, failureStep, ?_, ?_⟩ <;>
    simp [Data.isExact_text, Instant.toData, steps]

/-! ### Statistics -/

structure Statistics.InRange (stats : Statistics) : Prop where
  totalCases : stats.totalCases < Word.count 64
  passedCases : stats.passedCases < Word.count 64
  failedCases : stats.failedCases < Word.count 64
  totalSteps : stats.totalSteps < Word.count 64
  passedSteps : stats.passedSteps < Word.count 64
  failedSteps : stats.failedSteps < Word.count 64
  durationMillis : stats.durationMillis < Word.count 64

theorem Statistics.InRange.ofData?_toData {stats : Statistics} (h : stats.InRange) :
    Statistics.ofData? stats.toData = some stats := by
  have fields : stats.toData.fields? true Statistics.fieldNames = some _ :=
    Data.fields?_object true (by simp)
  rw [Statistics.ofData?, fields]
  simp only [List.map_cons, List.map_nil, Data.count?, Data.required?_natCast h.totalCases,
    Data.required?_natCast h.passedCases, Data.required?_natCast h.failedCases,
    Data.required?_natCast h.totalSteps, Data.required?_natCast h.passedSteps,
    Data.required?_natCast h.failedSteps, Data.required?_natCast h.durationMillis]
  rfl

theorem Statistics.InRange.isExact_toData {stats : Statistics} (h : stats.InRange) (limit : Nat) :
    stats.toData.IsExact (limit + 1) := by
  refine Data.isExact_object ?_
  simp [Data.isExact_text, Data.isExact_natCast h.totalCases, Data.isExact_natCast h.passedCases,
    Data.isExact_natCast h.failedCases, Data.isExact_natCast h.totalSteps,
    Data.isExact_natCast h.passedSteps, Data.isExact_natCast h.failedSteps,
    Data.isExact_natCast h.durationMillis]

end StepSheet
