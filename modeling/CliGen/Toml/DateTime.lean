/-!
# Dates and times

Reading a date, a time of day or both, and their normal text: `T` between the two, `Z` or a signed
offset, and a fraction of a second without trailing zeros, cut to nine digits.
-/

namespace CliGen.Toml.DateTime

/-- Exactly `n` decimal digits. -/
def digits : Nat → List Char → Option (List Char × List Char)
  | 0, cs => some ([], cs)
  | n + 1, c :: cs =>
    if c.isDigit then (digits n cs).map fun (ds, rest) => (c :: ds, rest) else none
  | _ + 1, [] => none

/-- The number that decimal digits write. -/
def value (ds : List Char) : Nat := ds.foldl (fun n d => n * 10 + (d.toNat - 48)) 0

/-- Two digits that write a number between two limits. -/
def twoDigits (least most : Nat) (cs : List Char) : Option (List Char × List Char) := do
  let (ds, rest) ← digits 2 cs
  if least ≤ value ds ∧ value ds ≤ most then some (ds, rest) else none

/-- The days of a month. -/
def daysIn (year month : Nat) : Nat :=
  if month = 2 then
    if year % 4 = 0 ∧ (year % 100 ≠ 0 ∨ year % 400 = 0) then 29 else 28
  else if month = 4 ∨ month = 6 ∨ month = 9 ∨ month = 11 then 30
  else 31

/-- A character, if it is the next one. -/
def expect (c : Char) : List Char → Option (List Char)
  | d :: rest => if d = c then some rest else none
  | [] => none

/-- A date, in its normal text. -/
def date (cs : List Char) : Option (List Char × List Char) := do
  let (year, cs) ← digits 4 cs
  let cs ← expect '-' cs
  let (month, cs) ← twoDigits 1 12 cs
  let cs ← expect '-' cs
  let (day, cs) ← twoDigits 1 (daysIn (value year) (value month)) cs
  return (year ++ '-' :: month ++ '-' :: day, cs)

/-- A time of day, in its normal text. -/
def time (cs : List Char) : Option (List Char × List Char) := do
  let (hour, cs) ← twoDigits 0 23 cs
  let cs ← expect ':' cs
  let (minute, cs) ← twoDigits 0 59 cs
  let cs ← expect ':' cs
  let (second, cs) ← twoDigits 0 60 cs
  let whole := hour ++ ':' :: minute ++ ':' :: second
  match cs with
  | '.' :: rest =>
    let fraction := rest.takeWhile Char.isDigit
    if fraction.isEmpty then none
    else
      let kept := ((fraction.take 9).reverse.dropWhile (· == '0')).reverse
      return (whole ++ (if kept.isEmpty then [] else '.' :: kept), rest.dropWhile Char.isDigit)
  | _ => return (whole, cs)

/-- The offset behind a time, in its normal text; there may be none. -/
def offset (cs : List Char) : Option (List Char × List Char) :=
  match cs with
  | 'Z' :: rest | 'z' :: rest => some (['Z'], rest)
  | sign :: rest =>
    if sign = '+' ∨ sign = '-' then do
      let (hour, rest) ← twoDigits 0 23 rest
      let rest ← expect ':' rest
      let (minute, rest) ← twoDigits 0 59 rest
      let sign := if value hour = 0 ∧ value minute = 0 then '+' else sign
      return (sign :: hour ++ ':' :: minute, rest)
    else some ([], cs)
  | [] => some ([], [])

/-- Whether a time of day begins here: an hour and a colon. -/
def beginsTime (cs : List Char) : Bool :=
  match twoDigits 0 23 cs with
  | some (_, ':' :: _) => true
  | _ => false

/-- Whether a date begins here: a year and a dash. -/
def beginsDate (cs : List Char) : Bool :=
  match digits 4 cs with
  | some (_, '-' :: _) => true
  | _ => false

/-- A date, a time of day or a date with one, in normal text. -/
def read (cs : List Char) : Option (String × List Char) := do
  if beginsDate cs then
    let (day, rest) ← date cs
    match rest with
    | c :: more =>
      if (c == 'T' || c == 't' || c == ' ') && beginsTime more then
        let (clock, rest) ← time more
        let (zone, rest) ← offset rest
        return (String.ofList (day ++ 'T' :: clock ++ zone), rest)
      else return (String.ofList day, rest)
    | [] => return (String.ofList day, [])
  else
    let (clock, rest) ← time cs
    return (String.ofList clock, rest)

end CliGen.Toml.DateTime
