/-
# TypedContract.Double.Shortest -- the shortest decimal that reads back

For 1, 2, ... 17 digits the two neighbours of a value on that decimal grid are
tried; the first grid with a neighbour that rounds to the value wins, and of two
such neighbours the nearer, a tie going to the even one.  `Layout` holds the
decisions of the written form: positional notation while the decimal point stands
near the digits, and an exponent of at least two digits with a sign otherwise.
-/
import TypedContract.Double.Basic

namespace TypedContract.Double

set_option autoImplicit false

/-- A positive decimal `digits * 10^shift`. -/
structure Decimal where
  digits : Nat
  shift : Int
  deriving DecidableEq

namespace Decimal

/-- Numerator of the decimal. -/
def numerator (d : Decimal) : Nat := d.digits * Nat.pow 10 d.shift.toNat

/-- Denominator of the decimal. -/
def denominator (d : Decimal) : Nat := Nat.pow 10 (-d.shift).toNat

/-- Moves trailing zeros of the digits into the shift, at most `limit` of them. -/
def normalize : Nat → Decimal → Decimal
  | 0, d => d
  | limit + 1, d =>
      if d.digits != 0 && d.digits % 10 == 0 then
        normalize limit ⟨d.digits / 10, d.shift + 1⟩
      else d

end Decimal

/-- The least `p` with `num / den < 10^p`, for a positive ratio within the range
of doubles: the estimate from the binary logarithm is off by at most one. -/
def decimalPoint (num den : Nat) : Int :=
  -- the factor is the logarithm of 2 to base 10, rounded up
  let guess := floorLog2 num den * 30103 / 100000
  let isBelow (p : Int) : Bool := num * Nat.pow 10 (-p).toNat < den * Nat.pow 10 p.toNat
  if isBelow guess then guess
  else if isBelow (guess + 1) then guess + 1
  else guess + 2

/-- The decimal rounds to the double at the index. -/
def readsBack (index : Nat) (d : Decimal) : Bool :=
  nearestIndex d.numerator d.denominator == index

/-- The neighbour of the value on the grid of `count` digits that reads back, the
nearer if both do and the even one of two equally near. -/
def onGrid? (index : Nat) (point : Int) (count : Nat) : Option Decimal :=
  let shift := point - count
  let num := numerator index * Nat.pow 10 (-shift).toNat
  let den := denominator index * Nat.pow 10 shift.toNat
  let below : Decimal := ⟨num / den, shift⟩
  let above : Decimal := ⟨num / den + 1, shift⟩
  let belowHits := below.digits != 0 && readsBack index below
  let aboveHits := readsBack index above
  if belowHits && aboveHits then
    some ⟨roundHalfEven num den, shift⟩
  else if belowHits then some below
  else if aboveHits then some above
  else none

/-- The shortest decimal that reads back as the double at a positive index. -/
def shortest (index : Nat) : Decimal :=
  let point := decimalPoint (numerator index) (denominator index)
  -- seventeen digits tell every double from its neighbours
  match (List.range 17).findSome? fun count => onGrid? index point (count + 1) with
  | some d => d.normalize 20
  | none => ⟨numerator index / denominator index, 0⟩

/-- How a decimal is laid out as text. -/
structure Layout where
  /-- Smallest exponent written positionally. -/
  least : Int
  /-- First exponent no longer written positionally. -/
  bound : Int
  /-- A whole number written positionally ends in `.0`. -/
  keepsPoint : Bool

/-- Numbers on their own: positional from `0.0001` to below `10^16`, always with
a point or an exponent. -/
def Layout.plain : Layout := ⟨-4, 16, true⟩

/-- Parts of a complex number: the same without the `.0`. -/
def Layout.part : Layout := ⟨-4, 16, false⟩

/-- A signed exponent of at least two digits. -/
def exponentText (e : Int) : List Char :=
  let digits := Nat.toDigits 10 e.natAbs
  (if e < 0 then '-' else '+') :: (if digits.length < 2 then '0' :: digits else digits)

/-- The text of a positive decimal. -/
def Decimal.text (layout : Layout) (d : Decimal) : List Char :=
  let digits := Nat.toDigits 10 d.digits
  let point : Int := digits.length + d.shift
  if layout.least < point && point ≤ layout.bound then
    if point ≤ 0 then '0' :: '.' :: List.replicate (-point).toNat '0' ++ digits
    else if digits.length ≤ point.toNat then
      digits ++ List.replicate (point.toNat - digits.length) '0'
        ++ (if layout.keepsPoint then ['.', '0'] else [])
    else digits.take point.toNat ++ '.' :: digits.drop point.toNat
  else
    digits.take 1 ++ (if digits.length > 1 then '.' :: digits.drop 1 else [])
      ++ 'e' :: exponentText (point - 1)

/-- The text of a double. -/
def textWith (layout : Layout) : Double → List Char
  | .nan => ['n', 'a', 'n']
  | .infinite negative => (if negative then ['-'] else []) ++ ['i', 'n', 'f']
  | .finite negative index =>
      (if negative then ['-'] else []) ++
        (if index.val == 0 then '0' :: (if layout.keepsPoint then ['.', '0'] else [])
         else (shortest index).text layout)

/-- The text of a double on its own. -/
def text (d : Double) : String := String.ofList (d.textWith .plain)

end TypedContract.Double
