/-!
Finite binary floating-point numbers of 64 bits.  A magnitude is a whole multiple of the least
positive one, 2⁻¹⁰⁷⁴, so arithmetic is done exactly on natural numbers and rounded once.
-/
namespace TranscriptSearch

/-- The number `± significand · 2 ^ exponent · 2⁻¹⁰⁷⁴`.  In its one normal form the significand is
less than 2⁵³, and not less than 2⁵² unless the exponent is zero. -/
structure Binary64 where
  negative : Bool
  significand : Nat
  exponent : Nat
deriving DecidableEq

namespace Binary64

def zero : Binary64 :=
  ⟨false, 0, 0⟩

def isZero (x : Binary64) : Bool :=
  x.significand == 0

def neg (x : Binary64) : Binary64 :=
  { x with negative := !x.negative }

def units (x : Binary64) : Nat :=
  x.significand * Nat.pow 2 x.exponent

/-- The quotient of two natural numbers to the nearest whole number; a half goes to the even
one. -/
def divideToEven (n d : Nat) : Nat :=
  let quotient := n / d
  let twice := 2 * (n % d)
  if d < twice || (twice = d && quotient % 2 = 1) then quotient + 1 else quotient

/-- The number nearest to `n / d` units of 2⁻¹⁰⁷⁴; of two equally near the one with the even
significand.  There is none if it would be infinite. -/
def ofUnits? (n d : Nat) : Option Binary64 :=
  let exponent := (n / d).log2 + 1 - 53
  let rounded := divideToEven n (d * Nat.pow 2 exponent)
  let (significand, exponent) :=
    if rounded = Nat.pow 2 53 then (Nat.pow 2 52, exponent + 1) else (rounded, exponent)
  if exponent ≤ 2045 then some ⟨false, significand, exponent⟩ else none

def ofRatio? (n d : Nat) : Option Binary64 :=
  ofUnits? (n * Nat.pow 2 1074) d

def mul? (x y : Binary64) : Option Binary64 :=
  ofUnits? (x.units * y.units) (Nat.pow 2 1074)

/-- The quotient of two magnitudes, rounded, if it is finite. -/
def div? (x y : Binary64) : Option Binary64 :=
  ofUnits? (x.units * Nat.pow 2 1074) y.units

def powerOfTen? (n : Nat) : Option Binary64 :=
  ofRatio? (Nat.pow 10 n) 1

def topPower : Nat := 308

/-- A magnitude divided by another as many times as given, rounded each time. -/
def divRepeatedly? (x y : Binary64) : Nat → Option Binary64
  | 0 => some x
  | times + 1 =>
    if x.isZero then some x
    else
      match x.div? y with
      | some quotient => quotient.divRepeatedly? y times
      | none => none

/-- A magnitude divided by `10 ^ n`.  Beyond the largest finite power it is first divided by that
one, as often as it takes, so the result may be rounded more than once. -/
def divByPower? (x : Binary64) (n : Nat) : Option Binary64 := do
  let times := (n - 1) / topPower
  let quotient ← x.divRepeatedly? (← powerOfTen? topPower) times
  quotient.div? (← powerOfTen? (n - topPower * times))

/-- The reading of `significand · 10 ^ exponent`.  The significand is rounded first, and then its
product or quotient with a rounded power of ten.  There is none if the number would be
infinite. -/
def ofDecimal? (significand : Nat) (exponent : Int) : Option Binary64 := do
  let x ← ofRatio? significand 1
  match exponent with
  | .ofNat n =>
    if n ≤ topPower then x.mul? (← powerOfTen? n)
    else if x.isZero then some x
    else none
  | .negSucc n => x.divByPower? (n + 1)

end Binary64

end TranscriptSearch
