import CliGen.Text.CaseTable

/-!
# Letter case

The full case mappings: one character may become several, and a capital sigma becomes the final form
at the end of a word. ASCII letters are mapped without the tables, so that names made of ASCII stay
within reach of a proof.
-/

namespace CliGen.Text

/-- Whether a code point lies in one of some ranges. -/
def inRanges (ranges : List (Nat × Nat)) (n : Nat) : Bool :=
  ranges.any fun r => r.1 ≤ n && n ≤ r.2

private def mapped (long : List (Nat × List Nat)) (runs : List CaseTable.Run) (c : Char) :
    List Char :=
  match long.lookup c.toNat with
  | some ns => ns.map Char.ofNat
  | none => match runs.findSome? (·.mapsTo? c.toNat) with
    | some n => [Char.ofNat n]
    | none => [c]

/-- The small form of one character, without regard to its surroundings. -/
def lowerChar (c : Char) : List Char :=
  if c.toNat < 128 then [c.toLower] else mapped CaseTable.toLowerLong CaseTable.toLower c

/-- The capital form of one character. -/
def upperChar (c : Char) : List Char :=
  if c.toNat < 128 then [c.toUpper] else mapped CaseTable.toUpperLong CaseTable.toUpper c

/-- Whether the first character that case ignores not has case. -/
private def meetsCased (cs : List Char) : Bool :=
  match cs.dropWhile fun c => inRanges CaseTable.ignorable c.toNat with
  | c :: _ => inRanges CaseTable.cased c.toNat
  | [] => false

/-- The small form of a text whose characters `before`, nearest first, have been mapped already. -/
def lowerFrom (before : List Char) : List Char → List Char
  | [] => []
  | c :: rest =>
    (if c.toNat == 0x3A3 then
        if meetsCased before && !meetsCased rest then [Char.ofNat 0x3C2] else [Char.ofNat 0x3C3]
      else lowerChar c) ++ lowerFrom (c :: before) rest

/-- The small form of a text. -/
def lower (cs : List Char) : List Char := lowerFrom [] cs

/-- The capital form of a text. -/
def upper (cs : List Char) : List Char := cs.flatMap upperChar

/-- The text with its first character in its capital form. -/
def capitalize : List Char → List Char
  | [] => []
  | c :: cs => upperChar c ++ cs

/-- ASCII characters have their own small forms, wherever they stand. -/
theorem lowerFrom_ascii {cs : List Char} (h : ∀ c ∈ cs, c.toNat < 128) (before : List Char) :
    lowerFrom before cs = cs.map Char.toLower := by
  induction cs generalizing before with
  | nil => rfl
  | cons c cs ih =>
    have hc := h c (by simp)
    have hs : (c.toNat == 0x3A3) = false := by simp; omega
    simp [lowerFrom, hs, lowerChar, hc, ih (fun d hd => h d (by simp [hd]))]

/-- On ASCII, small letters are made one by one. -/
theorem lower_ascii {cs : List Char} (h : ∀ c ∈ cs, c.toNat < 128) :
    lower cs = cs.map Char.toLower :=
  lowerFrom_ascii h []

end CliGen.Text
