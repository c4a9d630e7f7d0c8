/-
# TypedContract.Double.Basic -- double precision numbers as exact data

A finite double is a sign and an index: the non-negative finite doubles in
increasing order are numbered from 0, so the index is also the bit pattern
without the sign.  An index below `2^52` is a multiple of `2^-1074`; each
further block of `2^52` indices shares one binary exponent.  `ofRatio` rounds a
non-negative ratio to the nearest double, a tie to the even index, and ratios
beyond the last block to infinity.

Nothing here uses the machine's own floating point, so every definition
unfolds in a proof.
-/

namespace TypedContract

set_option autoImplicit false

namespace Double

/-- The first index that is no finite double. -/
def indexBound : Nat := 2047 * Nat.pow 2 52

/-- Number of indices that share a binary exponent. -/
def block : Nat := Nat.pow 2 52

end Double

/-- A double precision number. -/
inductive Double where
  | finite (negative : Bool) (index : Fin Double.indexBound)
  | infinite (negative : Bool)
  | nan
  deriving DecidableEq

namespace Double

/-- Zero, with its sign. -/
def zero (negative : Bool) : Double := .finite negative ⟨0, by decide⟩

instance : Inhabited Double := ⟨zero false⟩

/-- The integer `m` of the value `m * 2^e` at an index. -/
def significand (index : Nat) : Nat :=
  if index < block then index else block + index % block

/-- The exponent `e` of the value `m * 2^e` at an index. -/
def exponent (index : Nat) : Int :=
  if index < block then -1074 else (index / block : Nat) - 1075

/-- Numerator of the value at an index. -/
def numerator (index : Nat) : Nat :=
  significand index * Nat.pow 2 (exponent index).toNat

/-- Denominator of the value at an index. -/
def denominator (index : Nat) : Nat := Nat.pow 2 (-exponent index).toNat

/-- `num / den` rounded to an integer, a half to the even neighbour. -/
def roundHalfEven (num den : Nat) : Nat :=
  let quotient := num / den
  let rest := num % den
  if 2 * rest > den || (2 * rest == den && quotient % 2 == 1) then quotient + 1 else quotient

/-- The integer logarithm to base 2 of a positive ratio, rounded down. -/
def floorLog2 (num den : Nat) : Int :=
  let guess : Int := (Nat.log2 num : Int) - Nat.log2 den
  if num * Nat.pow 2 (-guess).toNat ≥ den * Nat.pow 2 guess.toNat then guess else guess - 1

/-- Index of the double nearest to a positive ratio; at or beyond `indexBound`
when the ratio is too large. -/
def nearestIndex (num den : Nat) : Nat :=
  -- the exponent of the last place, which all doubles below the normal ones share
  let e := max (-1074) (floorLog2 num den - 52)
  (e + 1074).toNat * block
    + roundHalfEven (num * Nat.pow 2 (-e).toNat) (den * Nat.pow 2 e.toNat)

/-- The double with a sign and an index, infinite from `indexBound` on. -/
def ofIndex (negative : Bool) (index : Nat) : Double :=
  if h : index < indexBound then .finite negative ⟨index, h⟩ else .infinite negative

/-- The double nearest to a ratio with a sign. -/
def ofRatio (negative : Bool) (num den : Nat) : Double :=
  if num == 0 then zero negative else ofIndex negative (nearestIndex num den)

/-- Number of decimal digits of a natural number; zero has one. -/
def digitCount (n : Nat) : Nat := (Nat.toDigits 10 n).length

/-- The double nearest to `digits * 10^shift`.  Values beyond every double and
values nearer to zero than to any other are decided by their size alone. -/
def ofDecimal (negative : Bool) (digits : Nat) (shift : Int) : Double :=
  let size := digitCount digits + shift
  if digits == 0 || size < -330 then zero negative
  else if size > 310 then .infinite negative
  else ofRatio negative (digits * Nat.pow 10 shift.toNat) (Nat.pow 10 (-shift).toNat)

/-- The double nearest to an integer. -/
def ofInt (n : Int) : Double := ofRatio (n < 0) n.natAbs 1

/-- The opposite number. -/
def neg : Double → Double
  | .finite negative index => .finite (!negative) index
  | .infinite negative => .infinite (!negative)
  | .nan => .nan

/-- The number is finite. -/
def isFinite : Double → Bool
  | .finite _ _ => true
  | _ => false

/-- The number is zero, with either sign. -/
def isZero : Double → Bool
  | .finite _ index => index.val == 0
  | _ => false

/-- Numeric equality: the two zeros are equal and nan is equal to nothing. -/
def same : Double → Double → Bool
  | .finite n i, .finite n' i' => i == i' && (n == n' || i.val == 0)
  | .infinite n, .infinite n' => n == n'
  | _, _ => false

/-- The number has exactly the value of an integer. -/
def equalsInt : Double → Int → Bool
  | .finite negative index, n =>
      numerator index == n.natAbs * denominator index
        && (n == 0 || negative == decide (n < 0))
  | _, _ => false

/-- The integer part of a finite number, cut towards zero. -/
def truncate? : Double → Option Int
  | .finite negative index =>
      let size : Int := (numerator index / denominator index : Nat)
      some (if negative then -size else size)
  | _ => none

end Double

end TypedContract
