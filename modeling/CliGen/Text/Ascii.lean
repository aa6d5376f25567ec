/-!
# ASCII

Letters and digits of ASCII, where no other letters and digits are meant.

Main statement: `number?_toString`, a number is read from the text that shows it.
-/

namespace CliGen.Text

/-- A text with its capital letters made small. -/
def lowerAscii (s : String) : String := String.ofList (s.toList.map Char.toLower)

/-- The number that decimal digits stand for. There has to be a digit. -/
def number? (cs : List Char) : Option Nat :=
  if cs.isEmpty || !cs.all Char.isDigit then none else some (Nat.ofDigitChars 10 cs 0)

/-- A number is read back from its digits. -/
theorem number?_toString (n : Nat) : number? (toString n).toList = some n := by
  have h : (toString n).toList = Nat.toDigits 10 n := by simp [toString, Nat.repr]
  have digits : (Nat.toDigits 10 n).all Char.isDigit = true := by
    rw [List.all_eq_true]
    exact fun c hc => Nat.isDigit_of_mem_toDigits (by decide) (by decide) hc
  have nonempty : (Nat.toDigits 10 n).isEmpty = false := by
    rw [List.isEmpty_eq_false_iff]
    exact Nat.toDigits_ne_nil
  rw [h, number?, nonempty, digits]
  simp [Nat.ofDigitChars_toDigits]

end CliGen.Text
