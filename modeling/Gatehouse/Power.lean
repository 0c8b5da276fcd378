/-! # Powers

The powers of two that bound words of so many bits, and the powers of ten by
which decimal places are moved.
-/

namespace Gatehouse

/-- Two to the power of `n`: how many values a word of `n` bits has. -/
def pow2 (n : Nat) : Nat :=
  Nat.pow 2 n

/-- Ten to the power of `n`: what moving a decimal point by `n` places multiplies with. -/
def pow10 (n : Nat) : Nat :=
  Nat.pow 10 n

theorem pow2_pos (n : Nat) : 0 < pow2 n :=
  Nat.pow_pos (by decide)

theorem pow10_pos (n : Nat) : 0 < pow10 n :=
  Nat.pow_pos (by decide)

end Gatehouse
