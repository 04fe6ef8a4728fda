import StepSheet.Time.Calendar

/-!
# Instants

An instant is a second of universal time, counted from the start of 1970, and
the nanoseconds passed in it. A second that carries a leap second has up to two
thousand million of them. The time between two instants counts the seconds
between them as if every day had 86400, and a leap second only when the clock
passed it on the way.
-/

namespace StepSheet

/-- A point in time. -/
structure Instant where
  second : Int
  nano : Nat
deriving DecidableEq

namespace Instant

/-- The day of an instant, counted from 1 January 1970. -/
def day (t : Instant) : Int := t.second / 86400

def secondOfDay (t : Instant) : Nat := (t.second % 86400).toNat

def date (t : Instant) : Date := Date.ofDays t.day

def hour (t : Instant) : Nat := t.secondOfDay / 3600

def minute (t : Instant) : Nat := t.secondOfDay / 60 % 60

/-- Whether the instant lies in a leap second. -/
def isLeap (t : Instant) : Bool := 1000000000 ≤ t.nano

/-- The second of the minute; 60 in a leap second. -/
def secondOfMinute (t : Instant) : Nat := t.secondOfDay % 60 + if t.isLeap then 1 else 0

/-- The nanoseconds within the shown second. -/
def fraction (t : Instant) : Nat := t.nano % 1000000000

/-- Whether `a` is not after `b`. -/
def le (a b : Instant) : Bool :=
  a.second < b.second || (a.second = b.second && a.nano ≤ b.nano)

/-- The later of two instants. -/
def latest (a b : Instant) : Instant := if a.le b then b else a

/-- The nanoseconds from `start` to `t`, negative when `t` comes first. -/
def nanosSince (t start : Instant) : Int :=
  let leap : Int :=
    if start.secondOfDay < t.secondOfDay then if start.isLeap then 1 else 0
    else if t.secondOfDay < start.secondOfDay then if t.isLeap then -1 else 0
    else 0
  (t.second - start.second + leap) * 1000000000 + ((t.nano : Int) - start.nano)

/-- The whole milliseconds from `start` to `t`; none when `t` comes first. -/
def millisSince (t start : Instant) : Nat := (t.nanosSince start / 1000000).toNat

/-- The instant `ms` milliseconds later, or earlier when `ms` is negative. -/
def addMillis (t : Instant) (ms : Int) : Instant :=
  let nanos := t.second * 1000000000 + t.nano + ms * 1000000
  ⟨nanos / 1000000000, (nanos % 1000000000).toNat⟩

@[simp] theorem millisSince_self (t : Instant) : t.millisSince t = 0 := by
  simp [millisSince, nanosSince]

end Instant

end StepSheet
