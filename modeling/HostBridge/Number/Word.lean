/-!
# Machine words

The ranges of signed integers of fixed width.  (The number of values of an unsigned width is its
`size`.)
-/

namespace HostBridge

/-- The least and the largest integer of 32 bits with a sign. -/
def int32Min : Int := -2147483648

@[inherit_doc int32Min]
def int32Max : Int := 2147483647

/-- The least and the largest integer of 64 bits with a sign. -/
def int64Min : Int := -9223372036854775808

@[inherit_doc int64Min]
def int64Max : Int := 9223372036854775807

/-- The integer of 32 bits that a number is, if it is one. -/
def int32? (n : Int) : Option Int32 :=
  if int32Min ≤ n ∧ n ≤ int32Max then some (Int32.ofInt n) else none

/-- The nearest signed 32-bit integer. -/
def saturate32 (n : Int) : Int32 := Int32.ofInt (max int32Min (min n int32Max))

end HostBridge
