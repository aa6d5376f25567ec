import CliGen.Proofs.Text.Literal
import CliGen.Target.JavaScript
import CliGen.Target.Python
import CliGen.Target.Rust
import Mathlib.Data.Nat.Digits.Defs

/-!
# Text literals in generated code

What the languages of the targets take for a text between double quotes, and for a list of such
texts. Every text that a target writes is read as that text again, and so is every list of texts
(`Target.literals_denote`): nothing in a text ends its literal or the line that it stands in.
-/

namespace CliGen.Literal

/-! ## Characters by number -/

/-- The number that hexadecimal digits stand for. -/
def hexNumber? (ds : List Char) : Option Nat :=
  ds.foldlM (fun n d => (Quoted.hexValue? d).map (16 * n + ·)) 0

/-- The character with a code point, if there is one. -/
def char? (n : Nat) : Option Char := if n.isValidChar then some (Char.ofNat n) else none

/-- The character whose number is written in a fixed count of hexadecimal digits, behind one letter
that tells the count. -/
def fixed? (count : Nat) (cs : List Char) : Option (List Char × Nat) :=
  if count ≤ cs.length then
    ((hexNumber? (cs.take count)).bind char?).map fun c => ([c], count + 1)
  else none

/-- What stands between braces: the characters up to the closing one. -/
def braced? (cs : List Char) : Option (List Char) :=
  let inner := cs.takeWhile (· ≠ '\x7d')
  if inner.length < cs.length then some inner else none

/-- The digits between braces end at the first closing brace. -/
theorem braced?_append {ds : List Char} (h : ∀ d ∈ ds, d ≠ '\x7d') (rest : List Char) :
    braced? (ds ++ '\x7d' :: rest) = some ds := by
  have hinner : (ds ++ '\x7d' :: rest).takeWhile (· ≠ '\x7d') = ds := by
    rw [List.takeWhile_append_of_pos (by simpa using h), List.takeWhile_cons_of_neg (by simp),
      List.append_nil]
  rw [braced?]
  simp only [hinner]
  rw [if_pos (by simp)]

/-! ## Languages -/

/-- Text literals of Python. Behind a backslash stand one of some characters, a number in octal or
hexadecimal digits, or the end of a line, which means nothing; any other backslash stands for
itself. Characters that are called by their names in Unicode are not read here. -/
def Language.python : Language where
  isPlain c := c ≠ '\n' && c ≠ '\r' && c ≠ '\x00'
  single := [('\\', '\\'), ('\'', '\''), ('"', '"'), ('a', '\x07'), ('b', '\x08'), ('f', '\x0c'),
    ('n', '\n'), ('r', '\r'), ('t', '\t'), ('v', '\x0b')]
  long?
    | [] => none
    | 'x' :: cs => fixed? 2 cs
    | 'u' :: cs => fixed? 4 cs
    | 'U' :: cs => fixed? 8 cs
    | 'N' :: _ => none
    | '\n' :: _ => some ([], 1)
    | '\r' :: '\n' :: _ => some ([], 2)
    | '\r' :: _ => some ([], 1)
    | c :: cs =>
      let octal := ((c :: cs).take 3).takeWhile fun d => '0' ≤ d && d ≤ '7'
      if octal.isEmpty then some (['\\', c], 1)
      else some ([Char.ofNat (Nat.ofDigitChars 8 octal 0)], octal.length)

/-- A character that ends a line in JavaScript. -/
def isScriptBreak (c : Char) : Bool :=
  c == '\n' || c == '\r' || c == '\u2028' || c == '\u2029'

/-- A character by its number in four hexadecimal digits, or by two such numbers, each with its own
backslash, that are the two halves of a pair. -/
def paired? (cs : List Char) : Option (List Char × Nat) :=
  if 4 ≤ cs.length then
    (hexNumber? (cs.take 4)).bind fun n =>
      match char? n, cs.drop 4 with
      | some c, _ => some ([c], 5)
      | none, '\\' :: 'u' :: low =>
        if 4 ≤ low.length then
          (hexNumber? (low.take 4)).bind fun m =>
            if n < 0xDC00 && 0xDC00 ≤ m && m < 0xE000 then
              some ([Char.ofNat (0x10000 + (n - 0xD800) * 0x400 + (m - 0xDC00))], 11)
            else none
        else none
      | none, _ => none
  else none

/-- Text literals of JavaScript in strict code, where digits behind a backslash are refused, zero
alone excepted. A backslash is left out before a character that means nothing else. -/
def Language.javaScript : Language where
  isPlain c := c ≠ '\n' && c ≠ '\r'
  single := [('\\', '\\'), ('\'', '\''), ('"', '"'), ('b', '\x08'), ('f', '\x0c'), ('n', '\n'),
    ('r', '\r'), ('t', '\t'), ('v', '\x0b')]
  long?
    | [] => none
    | '0' :: cs => if cs.head?.any Char.isDigit then none else some (['\x00'], 1)
    | 'x' :: cs => fixed? 2 cs
    | 'u' :: '\x7b' :: cs =>
      (braced? cs).bind fun ds =>
        if ds.isEmpty then none
        else ((hexNumber? ds).bind char?).map fun c => ([c], ds.length + 3)
    | 'u' :: cs => paired? cs
    | '\r' :: '\n' :: _ => some ([], 2)
    | c :: _ =>
      if isScriptBreak c then some ([], 1) else if c.isDigit then none else some ([c], 1)

/-- Text literals of Rust. A text may go on in the next line, and behind a backslash the line break
and the blanks after it are left out. Numbers have up to six digits in braces, with underscores
between them, or two digits below the end of ASCII. -/
def Language.rust : Language where
  isPlain c := c ≠ '\r'
  single := [('\\', '\\'), ('\'', '\''), ('"', '"'), ('n', '\n'), ('r', '\r'), ('t', '\t'),
    ('0', '\x00')]
  long?
    | 'x' :: cs => if (hexNumber? (cs.take 2)).any (· < 0x80) then fixed? 2 cs else none
    | 'u' :: '\x7b' :: cs =>
      (braced? cs).bind fun ds =>
        let digits := ds.filter (· ≠ '_')
        if ds.head? = some '_' || digits.isEmpty || 6 < digits.length then none
        else ((hexNumber? digits).bind char?).map fun c => ([c], ds.length + 3)
    | '\n' :: cs => some ([], (cs.takeWhile isBlank).length + 1)
    | _ => none

/-! ## Escapes by number -/

/-- A character can be told from its code. -/
theorem char?_toNat (c : Char) : char? c.toNat = some c := by
  have hvalid : c.toNat.isValidChar := c.valid
  rw [char?, if_pos hvalid, Char.ofNat_toNat]

/-- One more digit makes a number sixteen times as large, and adds its value. -/
theorem hexNumber?_append (ds : List Char) (d : Char) :
    hexNumber? (ds ++ [d]) =
      (hexNumber? ds).bind fun n => (Quoted.hexValue? d).map (16 * n + ·) := by
  rw [hexNumber?, List.foldlM_append]
  simp only [List.foldlM_cons, List.foldlM_nil, bind_pure]
  rfl

/-- A number is read from its digits. -/
theorem hexNumber?_toDigits (n : Nat) : hexNumber? (Nat.toDigits 16 n) = some n := by
  have hdigit : ∀ d < 16, Quoted.hexValue? (Nat.digitChar d) = some d := by decide
  induction n using Nat.strongRecOn with
  | ind n ih =>
    rw [Nat.toDigits_eq_if (by omega)]
    split
    next hlt => simp [hexNumber?, hdigit n hlt]
    next hge =>
      rw [hexNumber?_append, ih (n / 16) (by omega), Option.bind_some,
        hdigit (n % 16) (Nat.mod_lt n (by omega)), Option.map_some, Nat.div_add_mod]

/-- A digit is none of the characters that the reading of a number or of a text stops at. -/
theorem toDigits_safe {n : Nat} {d : Char} (h : d ∈ Nat.toDigits 16 n) :
    (d ≠ '\x7d' ∧ d ≠ '_') ∧ (d ≠ '"' ∧ d ≠ '\\') ∧ ¬ IsBreak d := by
  have hall : ∀ k < 16, (k.digitChar ≠ '\x7d' ∧ k.digitChar ≠ '_') ∧
      (k.digitChar ≠ '"' ∧ k.digitChar ≠ '\\') ∧ ¬ IsBreak k.digitChar := by decide
  induction n using Nat.strongRecOn with
  | ind n ih =>
    rw [Nat.toDigits_eq_if (by omega)] at h
    split at h
    next hlt =>
      rw [List.mem_singleton.1 h]
      exact hall n hlt
    next hge =>
      rcases List.mem_append.1 h with h | h
      · exact ih (n / 16) (by omega) h
      · rw [List.mem_singleton.1 h]
        exact hall (n % 16) (Nat.mod_lt n (by omega))

/-- The code of a character has six digits at most. -/
theorem length_toDigits_toNat (c : Char) : (Nat.toDigits 16 c.toNat).length ≤ 6 := by
  rw [Nat.length_toDigits_le_iff (by omega) (by omega)]
  have hvalid : c.toNat.isValidChar := c.valid
  rcases hvalid with h | h
  · omega
  · omega

/-! ## The characters of a literal -/

/-- The digits of a control character in an escape of four. -/
def controlDigits (n : Nat) : List Char :=
  ['0', '0', Quoted.hexDigit (n / 16), Quoted.hexDigit (n % 16)]

/-- The code of a control character is read back from its digits. -/
theorem hexNumber?_controlDigits {n : Nat} (h : n < 0x20) :
    hexNumber? (controlDigits n) = some n := by
  have hall : ∀ n < 0x20, hexNumber? (controlDigits n) = some n := by decide
  exact hall n h

/-- The digits of a code are neither quotes nor backslashes, and break no line. -/
theorem controlDigits_safe {n : Nat} (h : n < 0x20) :
    ∀ d ∈ controlDigits n, (d ≠ '"' ∧ d ≠ '\\') ∧ ¬ IsBreak d := by
  have hall : ∀ n < 0x20,
      (controlDigits n).all (fun d => (d ≠ '"' ∧ d ≠ '\\') ∧ ¬ IsBreak d) = true := by decide
  exact fun d hd => of_decide_eq_true (List.all_eq_true.1 (hall n h) d hd)

/-- The letters that quoted text writes behind a backslash, and the characters that they stand
for. -/
def letters : List (Char × Char) :=
  [('"', '"'), ('\\', '\\'), ('n', '\n'), ('r', '\r'), ('t', '\t'), ('b', '\x08'), ('f', '\x0c')]

/-- Quoted text writes a character by a letter, by its number, or as itself. -/
theorem encodeChar_cases (c : Char) :
    (∃ d, (d, c) ∈ letters ∧ Quoted.encodeChar c = ['\\', d]) ∨
      (c.toNat < 0x20 ∧ Quoted.encodeChar c = '\\' :: 'u' :: controlDigits c.toNat) ∨
      (0x20 ≤ c.toNat ∧ (c ≠ '"' ∧ c ≠ '\\' ∧ ¬ IsBreak c) ∧ Quoted.encodeChar c = [c]) := by
  by_cases hletter : ∃ p ∈ letters, p.2 = c
  · have hall : ∀ p ∈ letters, Quoted.encodeChar p.2 = ['\\', p.1] := by decide
    obtain ⟨p, hp, rfl⟩ := hletter
    exact .inl ⟨p.1, hp, hall p hp⟩
  · have hother : ∀ p ∈ letters, c ≠ p.2 := fun p hp h => hletter ⟨p, hp, h.symm⟩
    simp only [letters, List.forall_mem_cons] at hother
    obtain ⟨hquote, hbackslash, hfeed, hreturn, htab, hback, hform, -⟩ := hother
    rw [Quoted.encodeChar, if_neg hquote, if_neg hbackslash, if_neg hfeed, if_neg hreturn,
      if_neg htab, if_neg hback, if_neg hform]
    by_cases hcontrol : c.toNat < 0x20
    · exact .inr (.inl ⟨hcontrol, by rw [if_pos hcontrol]; rfl⟩)
    · exact .inr (.inr ⟨Nat.not_lt.1 hcontrol, ⟨hquote, hbackslash, not_or.2 ⟨hfeed, hreturn⟩⟩,
        if_neg hcontrol⟩)

/-- Quoted text is no shorter than what it stands for. -/
theorem length_encode (cs : List Char) : cs.length ≤ (Quoted.encode cs).length := by
  induction cs with
  | nil => exact Nat.le_refl 0
  | cons c cs ih =>
    have hchar : 1 ≤ (Quoted.encodeChar c).length := by
      rcases encodeChar_cases c with ⟨d, -, hform⟩ | ⟨-, hform⟩ | ⟨-, -, hform⟩ <;> simp [hform]
    rw [Quoted.encode, List.flatMap_cons, List.length_append, List.length_cons]
    rw [Quoted.encode] at ih
    omega

/-- A language that knows the escapes of quoted text reads back every character. -/
theorem Language.writes_encodeChar {l : Language}
    (hplain : ∀ c : Char, 0x20 ≤ c.toNat → l.isPlain c = true)
    (hletters : ∀ p ∈ letters, l.single.lookup p.1 = some p.2)
    (hcontrol : ∀ n < 0x20, ∀ rest,
      l.escape? ('u' :: (controlDigits n ++ rest)) = some ([Char.ofNat n], 5)) (c : Char) :
    l.Writes c (Quoted.encodeChar c) := by
  rcases encodeChar_cases c with ⟨d, hd, hform⟩ | ⟨hsmall, hform⟩ | ⟨hlarge, hother, hform⟩ <;>
    rw [hform]
  · have hline : ∀ p ∈ letters, ¬ IsBreak p.1 := by decide
    exact .letter (hletters (d, c) hd) (hline (d, c) hd)
  · have hsafe := controlDigits_safe hsmall
    refine .escape (fun rest => ?_) (fun e he => (hsafe e he).1)
      (List.forall_mem_cons.2 ⟨by decide, fun e he => (hsafe e he).2⟩)
    rw [hcontrol c.toNat hsmall, Char.ofNat_toNat]
    rfl
  · exact .plain (hplain c hlarge) hother.1 hother.2.1 hother.2.2

section

variable {n : Nat} (h : n < 0x20) (rest : List Char)
include h

/-- Escapes of four digits are read in Python. -/
theorem fixed?_controlDigits : fixed? 4 (controlDigits n ++ rest) = some ([Char.ofNat n], 5) := by
  have htake : (controlDigits n ++ rest).take 4 = controlDigits n := rfl
  have hvalid : char? n = some (Char.ofNat n) := if_pos (.inl (by omega))
  rw [fixed?, if_pos (by simp [controlDigits]), htake, hexNumber?_controlDigits h, Option.bind_some,
    hvalid]
  rfl

/-- Escapes of four digits are read in ECMAScript, as no control character is half of a pair. -/
theorem paired?_controlDigits : paired? (controlDigits n ++ rest) = some ([Char.ofNat n], 5) := by
  have htake : (controlDigits n ++ rest).take 4 = controlDigits n := rfl
  have hvalid : char? n = some (Char.ofNat n) := if_pos (.inl (by omega))
  rw [paired?, if_pos (by simp [controlDigits]), htake, hexNumber?_controlDigits h,
    Option.bind_some, hvalid]

end

/-- No control character is a printed one. -/
theorem ne_of_toNat_le {c d : Char} (hd : d.toNat < 0x20) (hc : 0x20 ≤ c.toNat) : c ≠ d := by
  rintro rfl
  omega

/-- What is written for a character in Python denotes it. -/
theorem python_writes : ∀ c, Language.python.Writes c (Quoted.encodeChar c) := by
  refine Language.writes_encodeChar (fun c hc => ?_) (by decide) fun n hn rest => ?_
  · have hfeed : c ≠ '\n' := ne_of_toNat_le (by decide) hc
    have hreturn : c ≠ '\r' := ne_of_toNat_le (by decide) hc
    have hzero : c ≠ '\x00' := ne_of_toNat_le (by decide) hc
    simp [Language.python, hfeed, hreturn, hzero]
  · exact fixed?_controlDigits hn rest

/-- What is written for a character in JavaScript denotes it. -/
theorem javaScript_writes : ∀ c, Language.javaScript.Writes c (Quoted.encodeChar c) := by
  refine Language.writes_encodeChar (fun c hc => ?_) (by decide) fun n hn rest => ?_
  · have hfeed : c ≠ '\n' := ne_of_toNat_le (by decide) hc
    have hreturn : c ≠ '\r' := ne_of_toNat_le (by decide) hc
    simp [Language.javaScript, hfeed, hreturn]
  · exact paired?_controlDigits hn rest

/-- A number between braces is read as its character. -/
theorem rust_escape?_braces (c : Char) (rest : List Char) :
    Language.rust.escape? ('u' :: '\x7b' :: (Nat.toDigits 16 c.toNat ++ '\x7d' :: rest)) =
      some ([c], (Nat.toDigits 16 c.toNat).length + 3) := by
  have hdigits (d : Char) (hd : d ∈ Nat.toDigits 16 c.toNat) : d ≠ '\x7d' ∧ d ≠ '_' :=
    (toDigits_safe hd).1
  have hfilter : (Nat.toDigits 16 c.toNat).filter (· ≠ '_') = Nat.toDigits 16 c.toNat :=
    List.filter_eq_self.2 fun d hd => by simpa using (hdigits d hd).2
  have hhead : (Nat.toDigits 16 c.toNat).head? ≠ some '_' :=
    fun h => (hdigits '_' (List.mem_of_head? h)).2 rfl
  have hlength := length_toDigits_toNat c
  have hne : Nat.toDigits 16 c.toNat ≠ [] := Nat.toDigits_ne_nil
  rw [Language.escape?]
  show (braced? (Nat.toDigits 16 c.toNat ++ '\x7d' :: rest)).bind _ = _
  rw [braced?_append fun d hd => (hdigits d hd).1, Option.bind_some]
  simp only [hfilter, hexNumber?_toDigits, Option.bind_some, char?_toNat]
  rw [if_neg (by simpa [hhead, hne] using hlength)]
  rfl

/-- What is written for a character in Rust denotes it. -/
theorem rust_writes (c : Char) : Language.rust.Writes c (Target.Rust.encodeChar '"' c) := by
  -- The escapes are tried in this order, and the last case has none.
  rw [Target.Rust.encodeChar]
  split
  next h => subst h; exact .letter (d := '0') (by decide) (by decide)
  split
  next h => subst h; exact .letter (d := 't') (by decide) (by decide)
  split
  next h => subst h; exact .letter (d := 'r') (by decide) (by decide)
  split
  next h => subst h; exact .letter (d := 'n') (by decide) (by decide)
  split
  next h =>
    rcases h with rfl | rfl
    · exact .letter (d := '\\') (by decide) (by decide)
    · exact .letter (d := '"') (by decide) (by decide)
  split
  next =>
    have hinner (e : Char) (he : e ∈ '\x7b' :: (Nat.toDigits 16 c.toNat ++ ['\x7d'])) :
        (e ≠ '"' ∧ e ≠ '\\') ∧ ¬ IsBreak e := by
      rw [List.mem_cons, List.mem_append, List.mem_singleton] at he
      rcases he with rfl | he | rfl
      · decide
      · exact (toDigits_safe he).2
      · decide
    refine .escape (fun rest => ?_) (fun e he => (hinner e he).1)
      (List.forall_mem_cons.2 ⟨by decide, fun e he => (hinner e he).2⟩)
    have hread := rust_escape?_braces c rest
    simpa [Target.Rust.hexDigits] using hread
  next hreturn hfeed hmark _ =>
    have hother := not_or.1 hmark
    have hplain : Language.rust.isPlain c = true := by simpa [Language.rust] using hreturn
    exact .plain hplain hother.2 hother.1 (not_or.2 ⟨hfeed, hreturn⟩)

/-! ## Lists -/

/-- The texts between square brackets, a comma behind the last one or not. -/
def Language.array? (l : Language) (source : String) : Option (List String) :=
  (l.list? '[' ']' source).map (·.1)

/-- The texts of a tuple: between round brackets, with a comma behind a single text, which is in
brackets only otherwise. -/
def Language.tuple? (l : Language) (source : String) : Option (List String) :=
  match l.list? '(' ')' source with
  | some (ss, commas) => if !ss.isEmpty && commas == 0 then none else some ss
  | none => none

/-- A comma with or without a blank behind it is read as a comma. -/
theorem Language.tokens_comma (l : Language) (rest : List Char) :
    l.tokens (",".toList ++ rest) = (l.tokens rest).map (.mark ',' :: ·) ∧
      l.tokens (", ".toList ++ rest) = (l.tokens rest).map (.mark ',' :: ·) := by
  have hblank : l.tokens (' ' :: rest) = l.tokens rest := by rw [tokens, if_pos (by decide)]
  refine ⟨tokens_mark (by decide) (by decide) rest, ?_⟩
  show l.tokens (',' :: ' ' :: rest) = _
  rw [tokens_mark (by decide) (by decide), hblank]

/-- A list in square brackets is read as its texts. -/
theorem Language.array?_intercalate {l : Language} {write : Char → List Char}
    (h : ∀ c, l.Writes c (write c)) {separator : String}
    (hseparator : ∀ rest, l.tokens (separator.toList ++ rest) =
      (l.tokens rest).map (.mark ',' :: ·)) (ss : List String) :
    l.array? ("[" ++ separator.intercalate (ss.map (quoted write)) ++ "]") = some ss := by
  have hlist : l.list? '[' ']' ("[" ++ separator.intercalate (ss.map (quoted write)) ++ "]") =
      some (ss, ss.length - 1) :=
    list?_intercalate h hseparator (by decide) (by decide) ss
  rw [array?, hlist]
  rfl

/-- Texts are written as quoted texts in Python. -/
theorem python_literals (ss : List String) :
    Target.Python.literals (ss.map .str) = ss.map (quoted Quoted.encodeChar) := by
  induction ss with
  | nil => rfl
  | cons s ss ih =>
    rw [List.map_cons, Target.Python.literals, ih]
    rfl

/-- Texts in a JSON list are written as quoted texts. -/
theorem compactItems_str (ss : List String) :
    Value.compactItems (ss.map .str) = ss.map (quoted Quoted.encodeChar) := by
  induction ss with
  | nil => rfl
  | cons s ss ih =>
    rw [List.map_cons, Value.compactItems, ih]
    rfl

/-- A text in round brackets, with a comma behind it. -/
theorem list?_single (s : String) :
    Language.python.list? '(' ')' ("(" ++ quoted Quoted.encodeChar s ++ ",)") = some ([s], 1) := by
  have htokens : Language.python.tokens ("(" ++ quoted Quoted.encodeChar s ++ ",)").toList =
      some [.mark '(', .text s, .mark ',', .mark ')'] := by
    have hclosing : Language.python.tokens [')'] = some [.mark ')'] := by
      rw [Language.tokens_mark (c := ')') (by decide) (by decide), Language.tokens]
      rfl
    have hcomma : Language.python.tokens [',', ')'] = some [.mark ',', .mark ')'] := by
      rw [Language.tokens_mark (c := ',') (by decide) (by decide), hclosing]
      rfl
    have hopen : "(".toList = ['('] := rfl
    have hend : ",)".toList = [',', ')'] := rfl
    rw [String.toList_append, String.toList_append, List.append_assoc, hopen, hend,
      List.singleton_append, Language.tokens_mark (c := '(') (by decide) (by decide),
      Language.tokens_quoted python_writes, hcomma]
    rfl
  rw [Language.list?, htokens]
  rfl

/-- A list in parentheses is a tuple if it is empty or has a comma. -/
theorem Language.tuple?_of_list? {l : Language} {source : String} {ss : List String} {commas : Nat}
    (h : l.list? '(' ')' source = some (ss, commas)) (hcommas : ss = [] ∨ commas ≠ 0) :
    l.tuple? source = some ss := by
  rw [tuple?, h]
  simpa [or_iff_not_imp_left] using hcommas

/-- A tuple is read from the way in which it is written, the tuple of one text included. -/
theorem tuple?_tuple (ss : List String) :
    Language.python.tuple? (Target.Python.tuple (ss.map .str)) = some ss := by
  have hlist : Language.python.list? '(' ')' ("(" ++
      ", ".intercalate (ss.map (quoted Quoted.encodeChar)) ++ ")") = some (ss, ss.length - 1) :=
    Language.list?_intercalate python_writes (fun rest => (Language.python.tokens_comma rest).2)
      (by decide) (by decide) ss
  rw [Target.Python.tuple, python_literals]
  cases ss with
  | nil => exact Language.tuple?_of_list? hlist (.inl rfl)
  | cons s ss =>
    cases ss with
    | nil => exact Language.tuple?_of_list? (list?_single s) (.inr (by decide))
    | cons s' ss => exact Language.tuple?_of_list? hlist (.inr (by simp))

end CliGen.Literal

namespace CliGen.Target

open Literal

/-- Texts and lists of texts in generated code stand for what the user wrote. The literal of a text
is one line, only its first and its last character are quotes without a backslash, and its language
reads it as the text; a list is read as the same list. -/
theorem literals_denote :
    (∀ s : String, Language.python.Denotes (Python.literal (.str s)) s ∧
      Language.javaScript.Denotes (JavaScript.literal (.str s)) s ∧
      Language.rust.Denotes (Rust.literal (.str s)) s) ∧
    ∀ ss : List String, Language.python.array? (Python.literal (.list (ss.map .str))) = some ss ∧
      Language.python.tuple? (Python.tuple (ss.map .str)) = some ss ∧
      Language.javaScript.array? (JavaScript.literal (.list (ss.map .str))) = some ss ∧
      Language.rust.array? (Rust.slice (ss.map .str)) = some ss := by
  refine ⟨fun s => ⟨Language.denotes python_writes s, Language.denotes javaScript_writes s,
    Language.denotes rust_writes s⟩, fun ss => ⟨?_, tuple?_tuple ss, ?_, ?_⟩⟩
  · have harray := Language.array?_intercalate python_writes
      (fun rest => (Language.python.tokens_comma rest).2) ss
    rwa [← python_literals] at harray
  · have harray := Language.array?_intercalate javaScript_writes
      (fun rest => (Language.javaScript.tokens_comma rest).1) ss
    rwa [← compactItems_str] at harray
  · have harray := Language.array?_intercalate rust_writes
      (fun rest => (Language.rust.tokens_comma rest).2) ss
    rw [Rust.slice, List.map_map]
    exact harray

example : Language.python.text? "\"\\x41\\101\\q\"" = some "AA\\q" := by decide +kernel

example : Language.javaScript.text? "\"\\ud83d\\ude00\\u\x7b41\x7d\\q\"" = some "😀Aq" := by
  decide +kernel

example : Language.rust.text? "\"\\u\x7b1_F600\x7d\\x41\"" = some "😀A" := by decide +kernel

example : Language.python.tuple? "(\"a\")" = none := by decide +kernel

end CliGen.Target
