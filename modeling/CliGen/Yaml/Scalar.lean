import CliGen.Value.Basic
import CliGen.Value.Quoted

/-!
# What a plain scalar stands for

A plain scalar is null, a truth value, a number or a text. Whole numbers may be written to the bases
16, 8 and 2; digits behind a leading zero are a text. A whole number beyond 64 bits is refused as
long as it fits 128, beyond those it is read as a floating-point number.
-/

namespace CliGen.Yaml.Scalar

def isNull (cs : List Char) : Bool :=
  cs == "null".toList || cs == "Null".toList || cs == "NULL".toList || cs == ['~']

def bool? (cs : List Char) : Option Bool :=
  if cs == "true".toList || cs == "True".toList || cs == "TRUE".toList then some true
  else if cs == "false".toList || cs == "False".toList || cs == "FALSE".toList then some false
  else none

/-- Digits behind a leading zero, after an optional sign. -/
def hasLeadingZero (cs : List Char) : Bool :=
  let cs := match cs with
    | '-' :: r | '+' :: r => r
    | r => r
  match cs with
  | '0' :: d :: r => (d :: r).all Char.isDigit
  | _ => false

/-- The number that digits to a base write; there must be a digit. -/
def digits? (base : Nat) (cs : List Char) : Option Nat :=
  if cs.isEmpty then none
  else cs.foldl (fun n c => do
    let n ← n
    let d ← Quoted.hexValue? c
    if d < base then some (n * base + d) else none) (some 0)

/-- The base that a mark tells, and the digits behind it. -/
def based? : List Char → Option (Nat × List Char)
  | '0' :: 'x' :: r => some (16, r)
  | '0' :: 'o' :: r => some (8, r)
  | '0' :: 'b' :: r => some (2, r)
  | _ => none

/-- The magnitude written without a sign. With `most` the number must not exceed it. -/
def magnitude? (most : Nat) (plain : Bool) (cs : List Char) : Option Nat :=
  let marked := (based? cs).bind fun (base, r) => (digits? base r).filter (· ≤ most)
  match marked with
  | some n => some n
  | none => if plain then (digits? 10 cs).filter (· ≤ most) else none

/-- A whole number within limits. A number written to another base than ten has its mark behind the
sign. -/
def intWithin? (least most : Nat) (cs : List Char) : Option Int :=
  let plain := !hasLeadingZero cs
  let positive := match cs with
    | '+' :: r => magnitude? most plain r
    | r => magnitude? most plain r
  match positive with
  | some n => some n
  | none =>
    match cs with
    | '-' :: r => (magnitude? least plain r).map fun n => -n
    | _ => none

/-- A whole number; one that fits 128 bits but not 64 is an error. -/
inductive IntText where
  | int (n : Int)
  | tooLarge
  | other

/-- Read a whole number. -/
def intText (cs : List Char) : IntText :=
  match intWithin? (2 ^ 63) (2 ^ 64 - 1) cs with
  | some n => .int n
  | none => if (intWithin? (2 ^ 127) (2 ^ 128 - 1) cs).isSome then .tooLarge else .other

/-- A finite decimal number, from behind its sign: digits with at most one point, and an optional
exponent. -/
def decimal? (negative : Bool) (cs : List Char) : Option Binary64 :=
  let whole := cs.takeWhile Char.isDigit
  let rest := cs.dropWhile Char.isDigit
  let (fraction, rest) := match rest with
    | '.' :: r => (r.takeWhile Char.isDigit, r.dropWhile Char.isDigit)
    | r => ([], r)
  let ds := whole ++ fraction
  let number (ds : List Char) : Nat := ds.foldl (fun n d => n * 10 + (d.toNat - 48)) 0
  if ds.isEmpty then none
  else
    match rest with
    | [] => Binary64.ofDecimal? negative (number ds) (-fraction.length)
    | mark :: r =>
      if mark = 'e' ∨ mark = 'E' then
        let (down, r) := match r with
          | '+' :: r => (false, r)
          | '-' :: r => (true, r)
          | r => (false, r)
        if !r.isEmpty && r.all Char.isDigit then
          let e : Int := number r
          Binary64.ofDecimal? negative (number ds) ((if down then -e else e) - fraction.length)
        else none
      else none

/-- The words for infinity. -/
def isInfinity (cs : List Char) : Bool :=
  cs == ".inf".toList || cs == ".Inf".toList || cs == ".INF".toList

/-- A floating-point number; infinities and not-a-number become null. -/
def float? (cs : List Char) : Option Value :=
  let unsigned := match cs with
    | '+' :: '+' :: _ | '+' :: '-' :: _ => none
    | '+' :: r => some r
    | r => some r
  match unsigned with
  | none => none
  | some r =>
    if isInfinity r || (cs.head? == some '-' && isInfinity (cs.drop 1)) ||
        cs == ".nan".toList || cs == ".NaN".toList || cs == ".NAN".toList then some .null
    else
      match r with
      | '-' :: r => (decimal? true r).map .float
      | r => (decimal? false r).map .float

/-- The value of a plain scalar without a tag. -/
def plain (cs : List Char) : Option Value :=
  if cs.isEmpty || isNull cs then some .null
  else
    match bool? cs with
    | some b => some (.bool b)
    | none =>
      match intText cs with
      | .int n => some (.int n)
      | .tooLarge => none
      | .other =>
        if hasLeadingZero cs then some (.str (String.ofList cs))
        else some ((float? cs).getD (.str (String.ofList cs)))

end CliGen.Yaml.Scalar
