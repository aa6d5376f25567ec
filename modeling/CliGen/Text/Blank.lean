/-!
# Blanks

The characters that separate words of a text, trimming, and cutting a text at separators.

`pieces_flatten` and `mem_pieces` pin cutting down: nothing but separators is lost, and no piece
holds a separator.
-/

namespace CliGen.Text

/-- The characters with the Unicode property `White_Space`. -/
def isBlank (c : Char) : Bool :=
  let n := c.toNat
  (9 ≤ n && n ≤ 13) || n == 0x20 || n == 0x85 || n == 0xA0 || n == 0x1680 ||
    (0x2000 ≤ n && n ≤ 0x200A) || n == 0x2028 || n == 0x2029 || n == 0x202F || n == 0x205F ||
    n == 0x3000

/-- Leave out the characters of a class at the start. -/
def trimLeft (drop : Char → Bool) (s : String) : String := String.ofList (s.toList.dropWhile drop)

/-- Leave out the blanks at both ends. -/
def trim (s : String) : String :=
  String.ofList ((s.toList.dropWhile isBlank).reverse.dropWhile isBlank).reverse

/-- The pieces between the separators, empty ones included; there is always at least one. -/
def pieces (separates : Char → Bool) : List Char → List (List Char)
  | [] => [[]]
  | c :: cs =>
    if separates c then [] :: pieces separates cs
    else match pieces separates cs with
      | [] => [[c]]
      | p :: ps => (c :: p) :: ps

/-- The maximal runs of characters that do not separate. -/
def words (separates : Char → Bool) (cs : List Char) : List (List Char) :=
  (pieces separates cs).filter (!·.isEmpty)

/-- Cut a text at every occurrence of a character. -/
def splitAt (separator : Char) (s : String) : List String :=
  (pieces (· == separator) s.toList).map String.ofList

/-- Words joined by single spaces, whatever blanks stood between them. -/
def oneLine (s : String) : String :=
  " ".intercalate ((words isBlank s.toList).map String.ofList)

/-- Every text has a piece. -/
theorem pieces_ne_nil (separates : Char → Bool) (cs : List Char) : pieces separates cs ≠ [] := by
  cases cs with
  | nil => simp [pieces]
  | cons c cs =>
    unfold pieces
    split
    · simp
    · split <;> simp

/-- The pieces hold all characters but the separators, in order. -/
theorem pieces_flatten (separates : Char → Bool) (cs : List Char) :
    (pieces separates cs).flatten = cs.filter (!separates ·) := by
  induction cs with
  | nil => rfl
  | cons c cs ih =>
    unfold pieces
    split
    next h => simp [h, ih]
    next h =>
      split
      next heq => exact absurd heq (pieces_ne_nil _ _)
      next heq => rw [heq] at ih; simp [h, ← ih]

/-- No piece holds a separator. -/
theorem mem_pieces {separates : Char → Bool} {cs p : List Char} (hp : p ∈ pieces separates cs)
    {c : Char} (hc : c ∈ p) : separates c = false := by
  have : c ∈ (pieces separates cs).flatten := List.mem_flatten.2 ⟨p, hp, hc⟩
  rw [pieces_flatten] at this
  simpa using (List.mem_filter.1 this).2

end CliGen.Text
