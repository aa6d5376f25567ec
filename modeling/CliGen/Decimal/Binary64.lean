import CliGen.Instances

/-!
# Finite binary floating-point numbers

Numbers `± mantissa · 2 ^ exponent` of 64 bits, held as their exact parts so that reading and
writing them is integer arithmetic. `nearest` rounds a ratio to such a number, ties to the even
mantissa; everything that can overflow answers `none`.
-/

namespace CliGen

/-- Exactly one pair of parts stands for each magnitude: the mantissa has 53 bits unless the
exponent is the least one. -/
def Binary64.Canonical (mantissa : Nat) (exponent : Int) : Prop :=
  mantissa < 2 ^ 53 ∧ -1074 ≤ exponent ∧ exponent ≤ 971 ∧
    (2 ^ 52 ≤ mantissa ∨ exponent = -1074)

instance (m : Nat) (e : Int) : Decidable (Binary64.Canonical m e) :=
  inferInstanceAs (Decidable (_ ∧ _))

/-- A finite number `± mantissa · 2 ^ exponent`; zero has a sign. -/
structure Binary64 where
  negative : Bool
  mantissa : Nat
  exponent : Int
  canonical : Binary64.Canonical mantissa exponent
  deriving DecidableEq

namespace Binary64

/-- Zero of either sign. -/
def zero (negative : Bool) : Binary64 := ⟨negative, 0, -1074, by decide⟩

instance : Inhabited Binary64 := ⟨zero false⟩

/-- `n · base ^ e` as a ratio of whole numbers. -/
def scaled (base n : Nat) (e : Int) : Nat × Nat := (n * base ^ e.toNat, base ^ (-e).toNat)

/-- The parts of the number nearest to `num / den`, ties to the even mantissa. The exponent is the
one that leaves 53 bits for the quotient, or the least one; rounding up to `2 ^ 53` moves to the
next. -/
def nearest (num den : Nat) : Nat × Int :=
  let quotient (e : Int) : Nat × Nat × Nat :=
    let top := num * 2 ^ (-e).toNat
    let bottom := den * 2 ^ e.toNat
    (top / bottom, top % bottom, bottom)
  let low : Int := (num.log2 : Int) - den.log2 - 53
  let e := max (if (quotient low).1 < 2 ^ 53 then low else low + 1) (-1074)
  let (q, rest, unit) := quotient e
  let m := if 2 * rest > unit || (2 * rest == unit && q % 2 == 1) then q + 1 else q
  if m == 2 ^ 53 then (2 ^ 52, e + 1) else (m, e)

/-- The number nearest to `± num / den`, unless it is too large. -/
def ofRatio? (negative : Bool) (num den : Nat) : Option Binary64 :=
  if num = 0 then some (zero negative)
  else
    let parts := nearest num den
    if h : Canonical parts.1 parts.2 then some ⟨negative, parts.1, parts.2, h⟩ else none

/-- The number of decimal digits of a positive whole number. -/
def digitCount (n : Nat) : Nat := (Nat.toDigits 10 n).length

/-- The number nearest to `± digits · 10 ^ scale`, unless it is too large. Magnitudes far outside
the range are settled by counting digits, so that no huge power is computed. -/
def ofDecimal? (negative : Bool) (digits : Nat) (scale : Int) : Option Binary64 :=
  if digits = 0 then some (zero negative)
  else if digitCount digits + scale > 310 then none
  else if digitCount digits + scale < -330 then some (zero negative)
  else
    let (num, den) := scaled 10 digits scale
    ofRatio? negative num den

/-- The magnitude as a ratio. -/
def ratio (x : Binary64) : Nat × Nat := scaled 2 x.mantissa x.exponent

/-- The product, rounded to nearest. -/
def mul? (x y : Binary64) : Option Binary64 :=
  let (num, den) := scaled 2 (x.mantissa * y.mantissa) (x.exponent + y.exponent)
  ofRatio? (x.negative != y.negative) num den

/-- The quotient by a number other than zero, rounded to nearest. -/
def div? (x y : Binary64) : Option Binary64 :=
  let (n, d) := x.ratio
  let (n', d') := y.ratio
  ofRatio? (x.negative != y.negative) (n * d') (d * n')

/-- Equality of the values: the two zeros are equal. -/
def sameValue (x y : Binary64) : Bool := (x.mantissa == 0 && y.mantissa == 0) || decide (x = y)

end Binary64

end CliGen
