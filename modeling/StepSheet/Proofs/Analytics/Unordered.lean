import StepSheet.Proofs.Analytics.Conserved

/-!
# Listings in another order

Where no two screenshots of a test case on one date share number and module, the order in which
the files are listed does not show: a sort leaves such steps only one order, and all that is
counted follows the sorted steps.
-/

namespace StepSheet.Analytics

/-- Screenshots that can be told apart: no two files tell of steps of one test case on one date
with the same number and the same module. -/
def TellApart (shots : List Shot) : Prop :=
  ∀ a ∈ shots, ∀ b ∈ shots, a.date = b.date → a.testCase = b.testCase → a.step = b.step →
    a.scope = b.scope → a.path = b.path

variable {descriptions : Option Descriptions} {shots shots' : List Shot}

/-- Steps that differ in number or module can be sorted in one way only. -/
theorem caseOf_of_perm (perm : shots.Perm shots') {name : String}
    (apart : ∀ a ∈ shots, ∀ b ∈ shots, a.testCase = b.testCase → a.step = b.step →
      a.scope = b.scope → a = b) :
    caseOf descriptions shots name = caseOf descriptions shots' name := by
  have own : (caseOf descriptions shots name).steps.Perm
      (caseOf descriptions shots' name).steps :=
    (perm_steps descriptions shots name).trans
      (((perm.filter _).map _).trans (perm_steps descriptions shots' name).symm)
  have source : ∀ step ∈ (caseOf descriptions shots name).steps,
      ∃ shot ∈ shots, shot.testCase = name ∧ stepOf descriptions shot = step := by
    intro step member
    obtain ⟨shot, among, made⟩ :=
      List.mem_map.mp ((perm_steps descriptions shots name).mem_iff.mp member)
    obtain ⟨listed, named⟩ := List.mem_filter.mp among
    exact ⟨shot, listed, of_decide_eq_true named, made⟩
  have steps : (caseOf descriptions shots name).steps =
      (caseOf descriptions shots' name).steps := by
    refine own.eq_of_pairwise ?_ (pairwise_steps descriptions shots name)
      (pairwise_steps descriptions shots' name)
    intro a b member member' before after
    obtain ⟨shot, listed, named, rfl⟩ := source a member
    obtain ⟨other, listed', named', rfl⟩ := source b (own.mem_iff.mpr member')
    obtain ⟨number, scope⟩ := before.antisymm after
    rw [apart shot listed other listed' (named.trans named'.symm) number scope]
  simp only [caseOf] at steps ⊢
  rw [steps]

theorem executionOf_of_perm (perm : shots.Perm shots') {date : String}
    (apart : ∀ a ∈ shots, ∀ b ∈ shots, a.date = b.date → a.testCase = b.testCase →
      a.step = b.step → a.scope = b.scope → a = b) :
    executionOf descriptions shots date = executionOf descriptions shots' date := by
  have dated := perm.filter fun shot => shot.date = date
  have names := ascending_congr fun t => (dated.map Shot.testCase).mem_iff (a := t)
  have cases : caseOf descriptions (shots.filter fun shot => shot.date = date) =
      caseOf descriptions (shots'.filter fun shot => shot.date = date) := by
    funext name
    refine caseOf_of_perm dated ?_
    intro a member b member'
    obtain ⟨listed, own⟩ := List.mem_filter.mp member
    obtain ⟨listed', own'⟩ := List.mem_filter.mp member'
    have date := (of_decide_eq_true own).trans (of_decide_eq_true own').symm
    exact apart a listed b listed' date
  simp only [executionOf, names, cases]

/-- A file tells of one screenshot. -/
theorem eq_of_path_eq {root : Path} {files : List Path} {a b : Shot}
    (member : a ∈ shotsOf root files) (member' : b ∈ shotsOf root files) (same : a.path = b.path) :
    a = b := by
  obtain ⟨p, -, told⟩ := List.mem_filterMap.mp member
  obtain ⟨q, -, told'⟩ := List.mem_filterMap.mp member'
  rw [path_of_ofPath? told, path_of_ofPath? told'] at same
  rw [same] at told
  exact Option.some.inj (told.symm.trans told')

/-- The order of a listing does not show. If no two of the files tell of steps of one test case
on one date with the same number and the same module, then the same files in any other order
make the same executions: the same steps in the same order, the same counts of actions in the
same order, and the same actions used most. -/
theorem listing_order_never_shows {root : Path} (descriptions : Option Descriptions)
    {files files' : List Path} (perm : files.Perm files')
    (apart : TellApart (files.filterMap (Shot.ofPath? root))) :
    executions root descriptions files = executions root descriptions files' := by
  have listed : (shotsOf root files).Perm (shotsOf root files') := perm.filterMap _
  have dates := ascending_congr fun t => (listed.map Shot.date).mem_iff (a := t)
  have each : executionOf descriptions (shotsOf root files) =
      executionOf descriptions (shotsOf root files') := by
    funext date
    refine executionOf_of_perm listed ?_
    intro a member b member' sameDate testCase number scope
    exact eq_of_path_eq member member'
      (apart a member b member' sameDate testCase number scope)
  rw [executions_eq, executions_eq, dates, each]

/-- A listing is read in the same way from its end. -/
theorem two_dates_reversed :
    TellApart (twoDates.filterMap (Shot.ofPath? ⟨"shots"⟩)) ∧
    executions ⟨"shots"⟩ none twoDates = executions ⟨"shots"⟩ none twoDates.reverse := by
  have apart : TellApart (shotsOf ⟨"shots"⟩ twoDates) := by
    rw [shotsOf_twoDates, TellApart]
    decide +kernel
  exact ⟨apart, listing_order_never_shows none (List.reverse_perm twoDates).symm apart⟩

end StepSheet.Analytics
