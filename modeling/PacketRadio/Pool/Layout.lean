/-!
# Layouts

The size and alignment of a type of values, and rounding to multiples.
-/

namespace PacketRadio.Pool

/-- How many bytes a value takes and what its address is a multiple of. -/
structure Layout where
  size : Nat
  align : Nat
  deriving DecidableEq

/-- The least multiple of `unit` that is at least `n`. -/
def roundUp (n unit : Nat) : Nat :=
  (n + (unit - 1)) / unit * unit

/-- The greatest multiple of `unit` that is at most `n`. -/
def roundDown (n unit : Nat) : Nat :=
  n / unit * unit

namespace Layout

/-- The bytes that a block of this layout occupies: at least sixteen, and a multiple of eight. -/
def footprint (l : Layout) : Nat :=
  roundUp (max l.size 16) 8

end Layout

end PacketRadio.Pool
