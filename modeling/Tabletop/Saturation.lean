/-!
# Numbers of bounded size

Totals are 32-bit signed integers that stop at their bounds instead of wrapping, and dice counts are
32-bit unsigned ones.  `saturate` is the nearest 32-bit integer to any integer; sums are formed in
`Int` and saturated once per addition, so a sum is exact as long as no partial sum leaves the range.

## Main statements

`toInt_saturate` gives the value of a saturated integer, and `toInt_satAdd` that of a saturated sum.
-/

namespace Tabletop

/-- The 32-bit signed integer nearest to `n`. -/
def saturate (n : Int) : Int32 :=
  Int32.ofInt (max (-2147483648) (min 2147483647 n))

theorem toInt_saturate (n : Int) :
    (saturate n).toInt = max (-2147483648) (min 2147483647 n) := by
  unfold saturate
  rw [Int32.toInt_ofInt, Int.bmod_eq_of_le] <;> simp only [Int32.size] <;> omega

/-- The sum of two 32-bit integers, stopping at the bounds. -/
def satAdd (a b : Int32) : Int32 :=
  saturate (a.toInt + b.toInt)

theorem toInt_satAdd (a b : Int32) :
    (satAdd a b).toInt = max (-2147483648) (min 2147483647 (a.toInt + b.toInt)) :=
  toInt_saturate _

/-- The sum of a list, added from the left and stopping at the bounds. -/
def satSum (values : List Int32) : Int32 :=
  values.foldl satAdd 0

/-- The 32-bit unsigned integer nearest to `n`. -/
def saturateCount (n : Nat) : UInt32 :=
  UInt32.ofNat (min 4294967295 n)

theorem toNat_saturateCount (n : Nat) : (saturateCount n).toNat = min 4294967295 n := by
  unfold saturateCount
  rw [UInt32.toNat_ofNat', Nat.mod_eq_of_lt]
  omega

end Tabletop
