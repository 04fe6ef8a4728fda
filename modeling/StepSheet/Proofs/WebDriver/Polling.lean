import Mathlib.Algebra.Order.Floor.Div
import StepSheet.Proofs.WebDriver.Looks

/-!
# Looking again and again

An element is looked for, and an assertion looked at, again and again until time is up. On a
clock that only the pauses between the looks move, look `n` begins `n` pauses after the first
one. So the number of looks in a given time is known, and the last of them is the first one
that does not begin before the time is up.
-/

namespace StepSheet.WebDriver

variable {τ α ρ : Type} {W : Wire τ}

/-! ### The looks -/

namespace Talk

/-- Where look `n` begins: each look but the first one follows another after a pause. -/
def begins (W : Wire τ) (look : Talk τ α) (outside : τ) : Nat → τ
  | 0 => outside
  | n + 1 => W.pause pollInterval (look.result (begins W look outside n)).2

/-- What look `n` comes to, and what it leaves. -/
def looked (W : Wire τ) (look : Talk τ α) (outside : τ) (n : Nat) : Except DriverError α × τ :=
  look.result (look.begins W outside n)

/-- Looks up to a time on the clock, `left` times more at most, as long as what a look comes to
asks for another one. -/
def lookBy (W : Wire τ) (look : Talk τ α) (again : Except DriverError α → Bool) (deadline : Nat) :
    Nat → τ → Except DriverError α × τ
  | 0, outside => look.result outside
  | left + 1, outside =>
    if again (look.result outside).1 ∧ W.millis (look.result outside).2 < deadline then
      lookBy W look again deadline left (W.pause pollInterval (look.result outside).2)
    else look.result outside

/-- When the looks begin and what they come to. -/
structure Schedule (W : Wire τ) (look : Talk τ α) (outside : τ) (millis : Nat)
    (comes : List Exchange → Except DriverError α → Prop) : Prop where
  comes : ∀ n, ∃ sent, W.Sends (look.begins W outside n) sent (look.looked W outside n).2 ∧
    comes sent (look.looked W outside n).1
  begins : ∀ n, W.millis (look.begins W outside n) = W.millis outside + pollInterval * n
  late_iff : ∀ n, W.millis outside + millis ≤ W.millis (look.begins W outside n) ↔
    millis ⌈/⌉ pollInterval ≤ n

end Talk

/-- Which look is the last one: the first that does not ask for another one, or the last one
that is allowed if they all do. -/
inductive Polled (again : ρ → Bool) (looks : Nat → ρ) (last : Nat) : Nat → Prop
  | settled {n : Nat} (le : n ≤ last) (before : ∀ k < n, again (looks k))
      (settled : ¬ again (looks n)) : Polled again looks last n
  | late (all : ∀ k ≤ last, again (looks k)) : Polled again looks last last

namespace Polled

variable {again : ρ → Bool} {looks : Nat → ρ} {last n : Nat}

theorem le_last (polled : Polled again looks last n) : n ≤ last := by
  cases polled with
  | settled le _ _ => exact le
  | late _ => exact le_rfl

theorem again_of_lt (polled : Polled again looks last n) {k : Nat} (lt : k < n) :
    again (looks k) := by
  cases polled with
  | settled _ before _ => exact before k lt
  | late all => exact all k lt.le

/-- The last look does not ask for another one, or is the last that is allowed. -/
theorem settled_or_last (polled : Polled again looks last n) : ¬ again (looks n) ∨ n = last := by
  cases polled with
  | settled _ _ settled => exact .inl settled
  | late _ => exact .inr rfl

theorem exists_of (again : ρ → Bool) (looks : Nat → ρ) (last : Nat) :
    ∃ n, Polled again looks last n := by
  by_cases all : ∀ k ≤ last, again (looks k)
  · exact ⟨last, .late all⟩
  · have settles : ∃ k, k ≤ last ∧ ¬ again (looks k) := by
      obtain ⟨k, h⟩ := not_forall.mp all
      exact ⟨k, Classical.not_imp.mp h⟩
    refine ⟨Nat.find settles, .settled (Nat.find_spec settles).1 ?_ (Nat.find_spec settles).2⟩
    intro k lt
    by_contra no
    exact Nat.find_min settles lt ⟨lt.le.trans (Nat.find_spec settles).1, no⟩

end Polled

theorem rounds_eq (millis : Nat) : rounds millis = millis ⌈/⌉ pollInterval := by
  rw [Nat.ceilDiv_eq_add_pred_div, rounds]

section

variable {look : Talk τ α} {outside : τ} {millis : Nat}
  {comes : List Exchange → Except DriverError α → Prop}

theorem Talk.schedule_of_sleeps (sleeps : W.Sleeps)
    (comes_look : ∀ outside, ∃ sent, W.Sends outside sent (look.result outside).2 ∧
      comes sent (look.result outside).1) (outside : τ) (millis : Nat) :
    look.Schedule W outside millis comes := by
  have begins : ∀ n, W.millis (look.begins W outside n) = W.millis outside + pollInterval * n := by
    intro n
    induction n with
    | zero => rfl
    | succ n ih =>
        obtain ⟨sent, sends, -⟩ := comes_look (look.begins W outside n)
        rw [Talk.begins, sleeps.pause, sends.millis_eq sleeps, ih, Nat.mul_succ, Nat.add_assoc]
  refine ⟨fun n => comes_look _, begins, fun n => ?_⟩
  have positive : 0 < pollInterval := by decide
  rw [begins, ceilDiv_le_iff_le_mul positive]
  exact Nat.add_le_add_iff_left

/-- Looking from look `k` on ends with the last one. Only the clock ends it, never the number of
looks that are left. -/
theorem Talk.lookBy_of_polled (sleeps : W.Sleeps)
    (schedule : look.Schedule W outside millis comes) {again : Except DriverError α → Bool}
    {n : Nat} (polled : Polled again (fun j => (look.looked W outside j).1)
      (millis ⌈/⌉ pollInterval) n) (left k : Nat) (le : k ≤ n)
    (enough : millis ⌈/⌉ pollInterval ≤ k + left) :
    look.lookBy W again (W.millis outside + millis) left (look.begins W outside k) =
      look.looked W outside n := by
  have begun : ∀ k, W.millis (look.looked W outside k).2 < W.millis outside + millis ↔
      k < millis ⌈/⌉ pollInterval := by
    intro k
    obtain ⟨sent, sends, -⟩ := schedule.comes k
    rw [sends.millis_eq sleeps, ← Nat.not_le, schedule.late_iff, Nat.not_le]
  have upTo := polled.le_last
  induction left generalizing k with
  | zero =>
      obtain rfl : k = n := by omega
      rfl
  | succ left ih =>
      rw [lookBy]
      rcases Nat.lt_or_eq_of_le le with lt | rfl
      · have early := (begun k).mpr (by omega)
        rw [if_pos ⟨polled.again_of_lt lt, early⟩]
        exact ih (k + 1) lt (by omega)
      · refine if_neg ?_
        rintro ⟨asks, early⟩
        rcases polled.settled_or_last with settled | last
        · exact settled asks
        · have := (begun k).mp early
          omega

end

/-! ### The two loops -/

namespace Session

def isMissing : Except DriverError String → Bool
  | .error (.noSuchElement _) => true
  | _ => false

theorem findBy_result (W : Wire τ) (session : Session) (locator : Locator) (deadline left : Nat)
    (outside : τ) :
    (session.findBy W locator deadline left).result outside =
      (session.findOnce W locator).lookBy W isMissing deadline left outside := by
  induction left generalizing outside with
  | zero => rfl
  | succ left ih =>
      rw [findBy, Talk.result_tryCatch, Talk.lookBy]
      obtain ⟨error | element, between⟩ := (session.findOnce W locator).result outside
      · cases error with
        | noSuchElement missing =>
            change (if W.millis between < deadline then _ else _ : Talk τ String).result between = _
            by_cases early : W.millis between < deadline
            · rw [if_pos early, if_pos ⟨rfl, early⟩, ← ih]
              rfl
            · rw [if_neg early, if_neg fun both => early both.2]
              rfl
        | _ => rfl
      · rfl

/-- What an assertion comes to with what the last look at it does. -/
def settle (late : DriverError) : Except DriverError Bool → Except DriverError Unit
  | .ok true => .ok ()
  | .ok false => .error late
  | .error error => .error error

/-- That an assertion has not held in time. -/
def late (locator : Locator) (assertion : Assertion) (millis : Nat) : DriverError :=
  .timeout s!"{locator.display} to be {assertion.text}" millis

theorem checkBy_result (W : Wire τ) (session : Session) (locator : Locator)
    (assertion : Assertion) (millis deadline left : Nat) (outside : τ) :
    let last := (session.holds W locator assertion).lookBy W (· = .ok false) deadline left outside
    (session.checkBy W locator assertion millis deadline left).result outside =
      (settle (late locator assertion millis) last.1, last.2) := by
  induction left generalizing outside with
  | zero =>
      rw [checkBy.eq_def, Talk.result_bind, Talk.lookBy]
      obtain ⟨error | held, between⟩ := (session.holds W locator assertion).result outside
      · rfl
      · cases held <;> rfl
  | succ left ih =>
      rw [checkBy.eq_def, Talk.result_bind, Talk.lookBy]
      obtain ⟨error | held, between⟩ := (session.holds W locator assertion).result outside
      · rfl
      · cases held
        · change (if W.millis between < deadline then _ else _ : Talk τ Unit).result between = _
          by_cases early : W.millis between < deadline
          · rw [if_pos early, if_pos ⟨rfl, early⟩]
            exact ih (W.pause pollInterval between)
          · rw [if_neg early, if_neg fun both => early both.2]
            rfl
        · rfl

/-! ### How they end -/

/-- How looking at an assertion ends and after which look, if the last one is given. -/
inductive Checked (looks : Nat → Except DriverError Bool) (last : Nat) (late : DriverError) :
    Nat → Except DriverError Unit → Prop
  | held {n : Nat} (le : n ≤ last) (before : ∀ k < n, looks k = .ok false)
      (held : looks n = .ok true) : Checked looks last late n (.ok ())
  | failed {n : Nat} {error : DriverError} (le : n ≤ last) (before : ∀ k < n, looks k = .ok false)
      (failed : looks n = .error error) : Checked looks last late n (.error error)
  | unmet (all : ∀ k ≤ last, looks k = .ok false) : Checked looks last late last (.error late)

/-- How looking for an element ends and after which look, if the last one is given. -/
inductive Found (looks : Nat → Except DriverError String) (last : Nat) (missing : DriverError) :
    Nat → Except DriverError String → Prop
  | found {n : Nat} {element : String} (le : n ≤ last)
      (before : ∀ k < n, looks k = .error missing) (found : looks n = .ok element) :
      Found looks last missing n (.ok element)
  | failed {n : Nat} {error : DriverError} (le : n ≤ last)
      (before : ∀ k < n, looks k = .error missing) (failed : looks n = .error error)
      (other : ∀ message, error ≠ .noSuchElement message) :
      Found looks last missing n (.error error)
  | unmet (all : ∀ k ≤ last, looks k = .error missing) :
      Found looks last missing last (.error missing)

variable {locator : Locator} {last n : Nat}

theorem Checked.of_polled {looks : Nat → Except DriverError Bool} {late : DriverError}
    (polled : Polled (· = .ok false) looks last n) :
    Checked looks last late n (settle late (looks n)) := by
  cases polled with
  | settled le before settled =>
      have before : ∀ k < n, looks k = .ok false := fun k lt => of_decide_eq_true (before k lt)
      cases look : looks n with
      | error error => exact .failed le before look
      | ok held =>
          cases held with
          | true => exact .held le before look
          | false => exact absurd (decide_eq_true look) settled
  | late all =>
      have all : ∀ k ≤ last, looks k = .ok false := fun k le => of_decide_eq_true (all k le)
      rw [all last le_rfl]
      exact .unmet all

/-- Time is up exactly if no look has been a success, when no look fails by being late. -/
theorem Checked.timeout_iff {looks : Nat → Except DriverError Bool} {assertion : Assertion}
    {millis : Nat} {result : Except DriverError Unit}
    (checked : Checked looks last (late locator assertion millis) n result)
    (punctual : ∀ k what limit, looks k ≠ .error (.timeout what limit)) :
    (∃ what limit, result = .error (.timeout what limit)) ↔ ∀ k ≤ last, looks k = .ok false := by
  cases checked with
  | held le before held =>
      refine iff_of_false nofun fun all => ?_
      cases held.symm.trans (all n le)
  | failed le before failed =>
      constructor
      · rintro ⟨what, limit, same⟩
        cases same
        exact absurd failed (punctual n what limit)
      · intro all
        cases failed.symm.trans (all n le)
  | unmet all => exact iff_of_true ⟨_, _, rfl⟩ all

theorem Found.of_polled {looks : Nat → Except DriverError String} {missing : DriverError}
    (polled : Polled isMissing looks last n)
    (named : ∀ k message, looks k = .error (.noSuchElement message) →
      missing = .noSuchElement message) :
    Found looks last missing n (looks n) := by
  have missed : ∀ k, isMissing (looks k) → looks k = .error missing := by
    intro k missed
    rw [isMissing.eq_def] at missed
    split at missed
    · next look => rw [look, named k _ look]
    · cases missed
  cases polled with
  | settled le before settled =>
      have before : ∀ k < n, looks k = .error missing := fun k lt => missed k (before k lt)
      cases look : looks n with
      | ok element => exact .found le before look
      | error error =>
          refine .failed le before look ?_
          rintro message rfl
          exact settled (look ▸ rfl)
  | late all =>
      have all : ∀ k ≤ last, looks k = .error missing := fun k le => missed k (all k le)
      rw [all last le_rfl]
      exact .unmet all

/-- An element is missing exactly if no look has found it or failed for something else. -/
theorem Found.noSuchElement_iff {looks : Nat → Except DriverError String} {named : String}
    {result : Except DriverError String}
    (found : Found looks last (.noSuchElement named) n result) :
    (∃ message, result = .error (.noSuchElement message)) ↔
      ∀ k ≤ last, looks k = .error (.noSuchElement named) := by
  cases found with
  | found le before found =>
      refine iff_of_false nofun fun all => ?_
      cases found.symm.trans (all n le)
  | failed le before failed other =>
      constructor
      · rintro ⟨message, same⟩
        cases same
        exact absurd rfl (other message)
      · intro all
        cases failed.symm.trans (all n le)
        exact absurd rfl (other named)
  | unmet all => exact iff_of_true ⟨_, rfl⟩ all

theorem schedule_holds (sleeps : W.Sleeps) (session : Session) (locator : Locator)
    (assertion : Assertion) (outside : τ) (millis : Nat) :
    (session.holds W locator assertion).Schedule W outside millis
      (session.Poll locator assertion) := by
  refine Talk.schedule_of_sleeps sleeps (fun outside => ?_) outside millis
  obtain ⟨sent, ended, result, same, sends, poll⟩ := session.holds_poll W locator assertion outside
  rw [same]
  exact ⟨sent, sends, poll⟩

theorem schedule_findOnce (sleeps : W.Sleeps) (session : Session) (locator : Locator)
    (outside : τ) (millis : Nat) :
    (session.findOnce W locator).Schedule W outside millis fun sent result =>
      ∃ found, sent = [found] ∧ session.Lookup locator found result := by
  refine Talk.schedule_of_sleeps sleeps (fun outside => ?_) outside millis
  obtain ⟨result, same, lookup⟩ := session.findOnce_lookup W locator outside
  rw [same]
  exact ⟨_, .of_exchange W (session.seeking locator) outside, _, rfl, lookup⟩

theorem exists_checked (sleeps : W.Sleeps) (session : Session) (locator : Locator)
    (assertion : Assertion) (millis : Nat) (outside : τ) :
    ∃ n result, Checked (fun k => ((session.holds W locator assertion).looked W outside k).1)
        (millis ⌈/⌉ pollInterval) (late locator assertion millis) n result ∧
      ∀ left, millis ⌈/⌉ pollInterval ≤ left →
        (session.checkBy W locator assertion millis (W.millis outside + millis) left).result
          outside = (result, ((session.holds W locator assertion).looked W outside n).2) := by
  have schedule := session.schedule_holds sleeps locator assertion outside millis
  obtain ⟨n, polled⟩ := Polled.exists_of (· = .ok false)
    (fun k => ((session.holds W locator assertion).looked W outside k).1) (millis ⌈/⌉ pollInterval)
  refine ⟨n, _, .of_polled polled, fun left enough => ?_⟩
  have same := Talk.lookBy_of_polled sleeps schedule polled left 0 (Nat.zero_le n) (by omega)
  rw [checkBy_result]
  exact congrArg (fun last => (settle _ last.1, last.2)) same

theorem exists_found (sleeps : W.Sleeps) (session : Session) (locator : Locator) (outside : τ)
    (millis : Nat) :
    ∃ n result, Found (fun k => ((session.findOnce W locator).looked W outside k).1)
        (millis ⌈/⌉ pollInterval) (.noSuchElement locator.display) n result ∧
      ∀ left, millis ⌈/⌉ pollInterval ≤ left →
        (session.findBy W locator (W.millis outside + millis) left).result outside =
          (result, ((session.findOnce W locator).looked W outside n).2) := by
  have schedule := session.schedule_findOnce sleeps locator outside millis
  obtain ⟨n, polled⟩ := Polled.exists_of isMissing
    (fun k => ((session.findOnce W locator).looked W outside k).1) (millis ⌈/⌉ pollInterval)
  refine ⟨n, _, .of_polled polled fun k message look => ?_, fun left enough => ?_⟩
  · obtain ⟨sent, -, found, -, lookup⟩ := schedule.comes k
    rw [look] at lookup
    rcases lookup.error_cases with ⟨named, -⟩ | ⟨other, -⟩
    · exact named.symm
    · exact absurd rfl (other message)
  · rw [findBy_result]
    exact Talk.lookBy_of_polled sleeps schedule polled left 0 (Nat.zero_le n) (by omega)

/-- On a clock that only the pauses move, an assertion is looked at a pause apart, and the last
look is the first one that does not begin before the time is up. So it ends well at the first
look that is a success, with the error of the first look that fails, or because time is up,
which is so exactly if every look up to the last one has been no success. It would end in the
same way if more looks were allowed. Each look asks for the element and for its states, and its
answers decide it. An element is looked for in the same way within the time of the session, and
missing only if it was missing at every look. -/
theorem polls_until_deadline (sleeps : W.Sleeps) (session : Session) (locator : Locator)
    (outside : τ) :
    (∀ (assertion : Assertion) (timeout : Option Nat),
      let millis := timeout.getD session.timeout
      let last := millis ⌈/⌉ pollInterval
      let look := session.holds W locator assertion
      let looks n := (look.looked W outside n).1
      let ended := (session.check W locator assertion timeout).result outside
      look.Schedule W outside millis (session.Poll locator assertion) ∧
      (∃ n, Checked looks last (late locator assertion millis) n ended.1 ∧
        ended.2 = (look.looked W outside n).2) ∧
      (∀ left, last ≤ left → (session.checkBy W locator assertion millis
        (W.millis outside + millis) left).result outside = ended) ∧
      ((∃ what limit, ended.1 = .error (.timeout what limit)) ↔
        ∀ n ≤ last, looks n = .ok false)) ∧
    (let last := session.timeout ⌈/⌉ pollInterval
      let look := session.findOnce W locator
      let looks n := (look.looked W outside n).1
      let ended := (session.find W locator).result outside
      look.Schedule W outside session.timeout (fun sent result =>
        ∃ found, sent = [found] ∧ session.Lookup locator found result) ∧
      (∃ n, Found looks last (.noSuchElement locator.display) n ended.1 ∧
        ended.2 = (look.looked W outside n).2) ∧
      (∀ left, last ≤ left →
        (session.findBy W locator (W.millis outside + session.timeout) left).result outside =
          ended) ∧
      ((∃ message, ended.1 = .error (.noSuchElement message)) ↔
        ∀ n ≤ last, looks n = .error (.noSuchElement locator.display))) := by
  constructor
  · intro assertion timeout millis last look looks ended
    have schedule := session.schedule_holds sleeps locator assertion outside millis
    obtain ⟨n, result, checked, same⟩ :=
      session.exists_checked sleeps locator assertion millis outside
    have ends : ended = (result, (look.looked W outside n).2) :=
      same (rounds millis) (rounds_eq millis).ge
    rw [ends]
    refine ⟨schedule, ⟨n, checked, rfl⟩, same, checked.timeout_iff fun k what limit look => ?_⟩
    obtain ⟨sent, -, poll⟩ := schedule.comes k
    rw [look] at poll
    exact poll.ne_timeout
  · intro last look looks ended
    obtain ⟨n, result, found, same⟩ :=
      session.exists_found sleeps locator outside session.timeout
    have ends : ended = (result, (look.looked W outside n).2) :=
      same (rounds session.timeout) (rounds_eq session.timeout).ge
    rw [ends]
    exact ⟨session.schedule_findOnce sleeps locator outside session.timeout, ⟨n, found, rfl⟩, same,
      found.noSuchElement_iff⟩

/-- A server at which an element is missing, then not displayed, then replaced before it is
asked for its state, and then missing for good. -/
def neverVisible : Stage where
  script :=
    let missing : Nat × Data := (404, .object [("error", .text "no such element")])
    let found : Nat × Data := (200, .object [(elementKey, .text "e")])
    let stale : Nat × Data := (404, .object [("error", .text "stale element reference")])
    [missing, found, (200, .bool false), found, stale, missing, missing]
  time := 1000
  log := []

/-- A session that is asked whether that element is visible. -/
def waiting : Session := ⟨"http://server", "s", "firefox", 5000, false⟩

/-- A quarter of a second is three pauses and four looks, at all of which the element is not
visible. -/
theorem four_looks_in_quarter_second :
    (∃ what limit, ((waiting.check staged ⟨.text, "Enter"⟩ .visible (some 250)).result
        neverVisible).1 = .error (.timeout what limit)) ∧
      ((waiting.check staged ⟨.text, "Enter"⟩ .visible (some 250)).result neverVisible).2.time =
        1300 ∧
      ((waiting.check staged ⟨.text, "Enter"⟩ .visible (some 250)).result
        neverVisible).2.log.length = 6 := by
  have last : 250 ⌈/⌉ pollInterval = 3 := (rounds_eq 250).symm
  have unmet : ∀ n ≤ 3, ((waiting.holds staged ⟨.text, "Enter"⟩ .visible).looked staged
      neverVisible n).1 = .ok false := by decide +kernel
  rw [← last] at unmet
  refine ⟨?_, ?_, ?_⟩
  · exact ((polls_until_deadline staged_sleeps waiting ⟨.text, "Enter"⟩ neverVisible).1 .visible
      (some 250)).2.2.2.mpr unmet
  · decide +kernel
  · decide +kernel

end Session

end StepSheet.WebDriver
