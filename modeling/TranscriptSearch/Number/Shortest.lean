import TranscriptSearch.Number.Binary64

namespace TranscriptSearch

/-- The decimal `digits · 10 ^ exponent`. -/
structure Decimal where
  digits : Nat
  exponent : Int
deriving DecidableEq

namespace Binary64

/-- Four times the magnitude in units of 2⁻¹⁰⁷⁴, so that the bounds of its rounding interval are
whole. -/
def quadrupled (x : Binary64) : Nat :=
  4 * x.units

/-- Whether `n / d` quadrupled units round to the number.  The bounds themselves do if the
significand is even; below a power of two the interval is half as wide. -/
def roundsFrom (x : Binary64) (n d : Nat) : Bool :=
  let above := 2 * Nat.pow 2 x.exponent
  let below :=
    if x.significand = Nat.pow 2 52 ∧ 0 < x.exponent then Nat.pow 2 x.exponent else above
  let low := (x.quadrupled - below) * d
  let high := (x.quadrupled + above) * d
  if x.significand % 2 = 0 then low ≤ n && n ≤ high else low < n && n < high

/-- The decimal without a zero as its last digit, where it has at most one. -/
def dropZero (x : Decimal) : Decimal :=
  if x.digits % 10 = 0 then ⟨x.digits / 10, x.exponent + 1⟩ else x

/-- Numerator and denominator of `10 ^ e` in quadrupled units. -/
def gridStep : Int → Nat × Nat
  | .ofNat e => (Nat.pow 10 e * Nat.pow 2 1076, 1)
  | .negSucc e => (Nat.pow 2 1076, Nat.pow 10 (e + 1))

/-- The power of ten that the number is less than, but not less than a tenth of. -/
def decimalMagnitude (x : Binary64) : Int :=
  let isBelow (e : Int) : Bool :=
    let (n, d) := gridStep e
    x.quadrupled * d < n
  (((List.range 633).map fun (i : Nat) => (i : Int) - 323).find? isBelow).getD 310

/-- The multiple of `10 ^ e` that reads back as the number, if one of the two next to it does; if
both do, the nearer, and of two equally near the even one. -/
def onGrid? (x : Binary64) (e : Int) : Option Decimal :=
  let (n, d) := gridStep e
  let scaled := x.quadrupled * d
  let lower := scaled / n
  let fits (k : Nat) : Bool := x.roundsFrom (k * n) d
  let nearest := divideToEven scaled n
  if fits nearest then some ⟨nearest, e⟩
  else if fits lower then some ⟨lower, e⟩
  else if fits (lower + 1) then some ⟨lower + 1, e⟩
  else none

/-- The shortest decimal that reads back as the number, which is not zero. -/
def shortest (x : Binary64) : Decimal :=
  let top := x.decimalMagnitude
  let found := (List.range 17).findSome? fun (length : Nat) => x.onGrid? (top - (length + 1))
  dropZero (found.getD ⟨0, 0⟩)

end Binary64

end TranscriptSearch
