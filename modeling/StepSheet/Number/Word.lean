/-!
# Words

A word of so many bits holds the natural numbers below two to the power of their
number. One with a sign holds as many integers, half of them negative.
-/

namespace StepSheet.Word

/-- The number of words of so many bits. -/
def count (bits : Nat) : Nat := Nat.pow 2 bits

@[simp] theorem count_zero : count 0 = 1 := rfl

@[simp] theorem count_succ (bits : Nat) : count (bits + 1) = count bits * 2 := rfl

end StepSheet.Word
