import CliGen.Decimal.Binary64

/-!
# The text of a number

A number is written with the fewest decimal digits that read back as it, and of those with the
digits nearest to it. `layout` fixes the spelling: positional from `1e-5` up to below `1e16`, always
with a point, and with an explicitly signed exponent otherwise.
-/

namespace CliGen.Binary64

/-- The `p` with `10 ^ p ≤ num / den < 10 ^ (p + 1)`, for a positive ratio. -/
def decimalExponent (num den : Nat) : Int :=
  if den ≤ num then (digitCount (num / den) : Int) - 1
  else
    let q := (den + num - 1) / num
    Int.negOfNat (digitCount (q - 1))

/-- Of the two decimals with `n` digits around a positive number, the nearest that reads back as it.
`p` is the number's decimal exponent. -/
def withDigits? (x : Binary64) (p : Int) (n : Nat) : Option (Nat × Int) :=
  let (num, den) := x.ratio
  let unit := p + 1 - n
  let top := num * 10 ^ (-unit).toNat
  let bottom := den * 10 ^ unit.toNat
  let low := top / bottom
  let rest := top % bottom
  let fits (d : Nat) : Bool := ofDecimal? x.negative d unit == some x
  if fits low && (!fits (low + 1) || 2 * rest ≤ bottom) then some (low, unit)
  else if fits (low + 1) then some (low + 1, unit)
  else none

/-- The digits and scale of the shortest decimal that reads back as a number. Seventeen digits
always do. -/
def shortest (x : Binary64) : Nat × Int :=
  if x.mantissa = 0 then (0, 0)
  else
    let p := decimalExponent x.ratio.1 x.ratio.2
    ((List.range' 1 17).findSome? (withDigits? x p)).getD (0, 0)

/-- The spelling of the number whose digits are `ds` and whose first digit stands for `10 ^ p`. -/
def layout (ds : List Char) (p : Int) : List Char :=
  if -5 ≤ p && p < 16 then
    if p < 0 then '0' :: '.' :: (List.replicate (-p - 1).toNat '0' ++ ds)
    else
      let whole := (p + 1).toNat
      let fraction := ds.drop whole
      ds.take whole ++ List.replicate (whole - ds.length) '0' ++ '.' ::
        (if fraction.isEmpty then ['0'] else fraction)
  else
    let exponent := (if p < 0 then '-' else '+') :: Nat.toDigits 10 p.natAbs
    match ds with
    | [] => []
    | [d] => d :: 'e' :: exponent
    | d :: rest => d :: '.' :: (rest ++ 'e' :: exponent)

/-- The text of a number. -/
def text (x : Binary64) : String :=
  let (digits, scale) := shortest x
  let ds := Nat.toDigits 10 digits
  let significant := (ds.reverse.dropWhile (· == '0')).reverse
  let body :=
    if x.mantissa = 0 then ['0', '.', '0']
    else layout significant (scale + ds.length - 1)
  String.ofList (if x.negative then '-' :: body else body)

end CliGen.Binary64
