/-!
# Bounds of words

The numbers at which words of fixed width end.
-/

namespace RelationAuth

/-- The number of words of 32 bits. -/
def word32Bound : Nat := 4294967296

/-- The number of words of 64 bits. -/
def word64Bound : Nat := 18446744073709551616

/-- The number of signed words of 64 bits that are not negative. -/
def signed64Bound : Nat := 9223372036854775808

/-- Whether an integer fits into 64 bits with a sign. -/
def isSigned64 (value : Int) : Bool :=
  -(signed64Bound : Int) ≤ value && value < (signed64Bound : Int)

end RelationAuth
