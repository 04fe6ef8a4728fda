import StepSheet.Time.Instant

/-!
# The order of instants

Instants are ordered by their seconds, and within a second by its nanoseconds. The later of two
instants is determined by what it is not after. Outside of leap seconds the time since a start
grows with the instant. With them it may shrink: a leap second counts as long as the time of day
is past it, and is gone when the next day begins.
-/

namespace StepSheet.Instant

variable {a b c t start : Instant}

theorem le_iff :
    a.le b = true ↔ a.second < b.second ∨ a.second = b.second ∧ a.nano ≤ b.nano := by
  simp [le]

theorem le_refl (t : Instant) : t.le t = true := by
  rw [le_iff]
  omega

theorem le_trans (h : a.le b = true) (h' : b.le c = true) : a.le c = true := by
  rw [le_iff] at h h' ⊢
  omega

theorem le_antisymm (h : a.le b = true) (h' : b.le a = true) : a = b := by
  rw [le_iff] at h h'
  have second : a.second = b.second := by omega
  have nano : a.nano = b.nano := by omega
  cases a
  cases b
  simp_all

theorem le_of_not_le (h : ¬ a.le b = true) : b.le a = true := by
  rw [le_iff] at h ⊢
  omega

theorem latest_of_le (h : a.le b = true) : a.latest b = b := if_pos h

theorem latest_of_not_le (h : ¬ a.le b = true) : a.latest b = a := if_neg h

/-- The later of two instants is not after those that neither of them is after. -/
theorem latest_le_iff : (a.latest b).le t = true ↔ a.le t = true ∧ b.le t = true := by
  by_cases h : a.le b = true
  · rw [latest_of_le h]
    exact ⟨fun later => ⟨le_trans h later, later⟩, And.right⟩
  · rw [latest_of_not_le h]
    exact ⟨fun later => ⟨later, le_trans (le_of_not_le h) later⟩, And.left⟩

/-- An instant is known by what it is not after. -/
theorem eq_of_le_iff (h : ∀ t, a.le t = true ↔ b.le t = true) : a = b :=
  le_antisymm ((h b).mpr (le_refl b)) ((h a).mp (le_refl a))

/-- The nanoseconds of an instant on a clock that knows no leap seconds. -/
def nanos (t : Instant) : Int := t.second * 1000000000 + t.nano

theorem nanos_le (h : a.le b = true) (plain : a.isLeap = false) : a.nanos ≤ b.nanos := by
  rw [le_iff] at h
  rw [isLeap, decide_eq_false_iff_not] at plain
  rw [nanos, nanos]
  omega

/-- Outside of leap seconds the time between two instants is what such a clock shows. -/
theorem nanosSince_of_plain (plain : t.isLeap = false) (started : start.isLeap = false) :
    t.nanosSince start = t.nanos - start.nanos := by
  -- Neither end is in a leap second, so none is added or taken off.
  simp only [nanosSince, plain, started, nanos, Bool.false_eq_true, if_false, ite_self]
  omega

theorem millisSince_of_plain (plain : t.isLeap = false) (started : start.isLeap = false) :
    t.millisSince start = ((t.nanos - start.nanos) / 1000000).toNat := by
  rw [millisSince, nanosSince_of_plain plain started]

theorem millisSince_le (h : a.le b = true) (first : a.isLeap = false) (second : b.isLeap = false)
    (started : start.isLeap = false) : a.millisSince start ≤ b.millisSince start := by
  have ordered := nanos_le h first
  rw [millisSince_of_plain first started, millisSince_of_plain second started]
  omega

end StepSheet.Instant
