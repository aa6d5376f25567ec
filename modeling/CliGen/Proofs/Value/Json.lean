import CliGen.Proofs.Target.Literals
import CliGen.Value.Json

/-!
# Texts, lists and objects in JSON

Every text is read back from its quotes (`Json.Written.text`), and a list or an object from what is
written for its items or fields (`Json.Written.list`, `Json.Written.object`). So a document that is
put together from texts between quotes is read as what it was put together from
(`Json.Written.parse_line`).
-/

namespace CliGen.Json

/-! ## Texts -/

/-- Letters behind a backslash are read as what they stand for. -/
theorem readEscape_letter {d c : Char} (h : (d, c) ∈ Literal.letters) (rest : List Char) :
    readEscape (d :: rest) = .ok (c, rest) := by
  simp only [Literal.letters, List.mem_cons, Prod.mk.injEq, List.not_mem_nil, or_false] at h
  rcases h with ⟨rfl, rfl⟩ | ⟨rfl, rfl⟩ | ⟨rfl, rfl⟩ | ⟨rfl, rfl⟩ | ⟨rfl, rfl⟩ | ⟨rfl, rfl⟩ |
    ⟨rfl, rfl⟩ <;> rfl

/-- The code of a control character is read back from its digits. -/
theorem readCodePoint_controlDigits {n : Nat} (h : n < 0x20) (rest : List Char) :
    readCodePoint (Literal.controlDigits n ++ rest) = .ok (Char.ofNat n, rest) := by
  have hhigh : ∀ n < 0x20, Quoted.hexValue? (Quoted.hexDigit (n / 16)) = some (n / 16) := by decide
  have hlow : ∀ n < 0x20, Quoted.hexValue? (Quoted.hexDigit (n % 16)) = some (n % 16) := by decide
  have hzero : Quoted.hexValue? '0' = some 0 := rfl
  have hread : readHex (Literal.controlDigits n ++ rest) = .ok (n, rest) := by
    show readHex ('0' :: '0' :: Quoted.hexDigit (n / 16) :: Quoted.hexDigit (n % 16) :: rest) = _
    rw [readHex, hzero, hhigh n h, hlow n h]
    show Except.ok (4096 * 0 + 256 * 0 + 16 * (n / 16) + n % 16, rest) = _
    congr 2
    omega
  rw [readCodePoint, hread]
  show (if 0xDC00 ≤ n ∧ n ≤ 0xDFFF then _ else _) = _
  rw [if_neg (by omega), if_pos (by omega)]

/-- A character is read from what quoted text writes for it. -/
theorem readText_encodeChar (c : Char) (fuel : Nat) (read rest : List Char) :
    readText (fuel + 1) read (Quoted.encodeChar c ++ rest) = readText fuel (c :: read) rest := by
  rcases Literal.encodeChar_cases c with ⟨d, hd, hform⟩ | ⟨hsmall, hform⟩ | ⟨hlarge, hother, hform⟩
  · rw [hform, List.cons_append, List.singleton_append, readText, if_neg (by decide), if_pos rfl,
      readEscape_letter hd]
  · have hread : readEscape ('u' :: (Literal.controlDigits c.toNat ++ rest)) = .ok (c, rest) := by
      rw [readEscape, readCodePoint_controlDigits hsmall, Char.ofNat_toNat]
    rw [hform, List.cons_append, List.cons_append, readText, if_neg (by decide), if_pos rfl, hread]
  · rw [hform, List.singleton_append, readText, if_neg hother.1, if_neg hother.2.1,
      if_neg (Nat.not_lt.2 hlarge)]

/-- The characters between the quotes are read up to the closing one. -/
theorem readText_encode (cs read rest : List Char) {fuel : Nat} (hfuel : cs.length < fuel) :
    readText fuel read (Quoted.encode cs ++ '"' :: rest) =
      .ok (String.ofList (read.reverse ++ cs), rest) := by
  induction cs generalizing read fuel with
  | nil =>
    obtain ⟨fuel, rfl⟩ : ∃ n, fuel = n + 1 := ⟨fuel - 1, by rw [List.length_nil] at hfuel; omega⟩
    rw [Quoted.encode, List.flatMap_nil, List.nil_append, readText, if_pos rfl, List.append_nil]
  | cons c cs ih =>
    obtain ⟨fuel, rfl⟩ : ∃ n, fuel = n + 1 := ⟨fuel - 1, by rw [List.length_cons] at hfuel; omega⟩
    have hencode : Quoted.encode (c :: cs) ++ '"' :: rest =
        Quoted.encodeChar c ++ (Quoted.encode cs ++ '"' :: rest) := by
      rw [Quoted.encode, List.flatMap_cons, List.append_assoc]
      rfl
    rw [hencode, readText_encodeChar, ih (c :: read) (by rw [List.length_cons] at hfuel; omega),
      List.reverse_cons, List.append_assoc, List.singleton_append]

/-- A text is read from behind its opening quote. -/
theorem readText_quote (s : String) (rest : List Char) :
    readText ((Quoted.encode s.toList ++ '"' :: rest).length + 1) []
      (Quoted.encode s.toList ++ '"' :: rest) = .ok (s, rest) := by
  have hfuel : s.toList.length < (Quoted.encode s.toList ++ '"' :: rest).length + 1 := by
    have hlength := Literal.length_encode s.toList
    rw [List.length_append]
    omega
  rw [readText_encode s.toList [] rest hfuel, List.reverse_nil, List.nil_append,
    String.ofList_toList]

/-- What a quoted text begins and ends with. -/
theorem toList_quote_append (s : String) (rest : List Char) :
    (Quoted.quote s).toList ++ rest = '"' :: (Quoted.encode s.toList ++ '"' :: rest) := by
  rw [Quoted.quote, String.toList_ofList, List.cons_append, List.cons_append, List.append_assoc,
    List.singleton_append]

/-! ## Blanks -/

/-- What stands in front of a line: the end of the line before, and the line's indentation. -/
def gap (n : Nat) : List Char := '\n' :: List.replicate n ' '

/-- There is nothing to skip where no blank stands in front. -/
theorem skipBlanks_cons {c : Char} (h : c ∉ [' ', '\n', '\t', '\r']) (rest : List Char) :
    skipBlanks (c :: rest) = c :: rest := by
  refine List.dropWhile_cons_of_neg ?_
  simpa [and_assoc] using h

/-- The line break and the indentation before an item are skipped. -/
theorem skipBlanks_gap (n : Nat) (cs : List Char) : skipBlanks (gap n ++ cs) = skipBlanks cs := by
  have hspaces : skipBlanks (List.replicate n ' ' ++ cs) = skipBlanks cs := by
    induction n with
    | zero => rfl
    | succ n ih =>
      rw [List.replicate_succ, List.cons_append]
      exact ih
  exact hspaces

/-- A blank before a value is skipped. -/
theorem readValue_space (depth fuel : Nat) (cs : List Char) :
    readValue depth (fuel + 1) (' ' :: cs) = readValue depth (fuel + 1) cs := by
  have hskip : skipBlanks (' ' :: cs) = skipBlanks cs := rfl
  rw [readValue, readValue, hskip]

/-! ## Values -/

/-- A character that a text, a list or an object opens with. -/
def Opens (c : Char) : Prop := c = '"' ∨ c = '[' ∨ c = '\x7b'

/-- There is nothing to skip before the beginning of a value. -/
theorem Opens.skipBlanks {c : Char} (h : Opens c) (rest : List Char) :
    skipBlanks (c :: rest) = c :: rest := by
  refine skipBlanks_cons ?_ rest
  rcases h with rfl | rfl | rfl <;> decide

/-- A value as it is written, with so many containers in one another at most: it is read back,
whatever stands behind it. -/
structure Written (depth : Nat) where
  chars : List Char
  value : Value
  opens : ∃ c cs, Opens c ∧ chars = c :: cs
  reads : ∀ fuel rest, chars.length ≤ fuel →
    readValue depth fuel (chars ++ rest) = .ok (value, rest)

namespace Written

variable {depth : Nat}

/-- No value is written by nothing. -/
theorem length_pos (w : Written depth) : 0 < w.chars.length := by
  obtain ⟨c, cs, -, hchars⟩ := w.opens
  rw [hchars, List.length_cons]
  exact Nat.succ_pos _

/-- A text in quotes. -/
def text (s : String) : Written depth where
  chars := (Quoted.quote s).toList
  value := .str s
  opens := ⟨'"', _, .inl rfl, by rw [Quoted.quote, String.toList_ofList, List.cons_append]⟩
  reads fuel rest hfuel := by
    obtain ⟨fuel, rfl⟩ : ∃ n, fuel = n + 1 := by
      have hlength : 0 < (Quoted.quote s).toList.length := by simp [Quoted.quote]
      exact ⟨fuel - 1, by omega⟩
    rw [toList_quote_append, readValue, Opens.skipBlanks (.inl rfl)]
    show (readText _ [] _ >>= fun p => .ok (Value.str p.1, p.2)) = _
    rw [readText_quote]
    rfl

/-! ### Lists -/

/-- The items of a list in one line, up to the bracket that closes it. -/
def itemsChars : Bool → List (Written depth) → List Char
  | _, [] => [']']
  | first, w :: ws => (if first then [] else [',', ' ']) ++ (w.chars ++ itemsChars false ws)

/-- An item in front of others is read by itself. -/
theorem readItems_item (w : Written depth) (first : Bool) (items : List Value) (rest : List Char)
    {fuel : Nat} (hfuel : w.chars.length ≤ fuel) :
    readItems depth (fuel + 1) first items
      ((if first then [] else [',', ' ']) ++ (w.chars ++ rest)) =
        readItems depth fuel false (w.value :: items) rest := by
  have hread := w.reads fuel rest hfuel
  obtain ⟨c, cs, hc, hchars⟩ := w.opens
  rw [hchars, List.cons_append] at hread ⊢
  have hitem : readItems depth (fuel + 1) first items
      ((if first then [] else [',', ' ']) ++ (c :: (cs ++ rest))) =
        (readValue depth fuel (c :: (cs ++ rest)) >>= fun p =>
          readItems depth fuel false (p.1 :: items) p.2) := by
    cases first with
    | true =>
      rw [if_pos rfl, List.nil_append, readItems, hc.skipBlanks]
      rcases hc with rfl | rfl | rfl <;> rfl
    | false =>
      rw [if_neg (by decide), readItems, List.cons_append, skipBlanks_cons (by decide)]
      rcases hc with rfl | rfl | rfl <;> rfl
  rw [hitem, hread]
  rfl

/-- Items that are written are read back, up to the closing bracket. -/
theorem readItems_chars (ws : List (Written depth)) (first : Bool) (items : List Value)
    (rest : List Char) {fuel : Nat} (hfuel : (itemsChars first ws).length ≤ fuel) :
    readItems depth fuel first items (itemsChars first ws ++ rest) =
      .ok (.list (items.reverse ++ ws.map (·.value)), rest) := by
  induction ws generalizing first items fuel with
  | nil =>
    obtain ⟨fuel, rfl⟩ : ∃ n, fuel = n + 1 := ⟨fuel - 1, by simp [itemsChars] at hfuel; omega⟩
    rw [itemsChars, List.cons_append, readItems, skipBlanks_cons (by decide), List.map_nil,
      List.append_nil]
    rfl
  | cons w ws ih =>
    simp only [itemsChars, List.length_append] at hfuel
    have hclose : 0 < (itemsChars false ws).length := by cases ws <;> simp [itemsChars]
    have hlength := w.length_pos
    obtain ⟨fuel, rfl⟩ : ∃ n, fuel = n + 1 := ⟨fuel - 1, by omega⟩
    rw [itemsChars, List.append_assoc, List.append_assoc,
      readItems_item w first items _ (by omega), ih false (w.value :: items) (by omega),
      List.reverse_cons, List.append_assoc]
    rfl

/-- A list in one line. -/
def list (ws : List (Written depth)) : Written (depth + 1) where
  chars := '[' :: itemsChars true ws
  value := .list (ws.map (·.value))
  opens := ⟨'[', _, .inr (.inl rfl), rfl⟩
  reads fuel rest hfuel := by
    rw [List.length_cons] at hfuel
    obtain ⟨fuel, rfl⟩ : ∃ n, fuel = n + 1 := ⟨fuel - 1, by omega⟩
    rw [List.cons_append, readValue, Opens.skipBlanks (.inr (.inl rfl))]
    exact readItems_chars ws true [] rest (by omega)

/-! ### Objects -/

/-- The key of a field, in a line of its own with so many blanks in front, and what parts it from
the value. -/
def keyChars (n : Nat) (key : String) : List Char :=
  gap n ++ ((Quoted.quote key).toList ++ [':', ' '])

/-- The fields of an object up to the brace that closes it, which has so many blanks in front. -/
def fieldsChars (n : Nat) : Bool → List (String × Written depth) → List Char
  | _, [] => gap n ++ ['\x7d']
  | first, (key, w) :: fields =>
    (if first then [] else [',']) ++
      (keyChars (n + 2) key ++ (w.chars ++ fieldsChars n false fields))

/-- The rest of the fields from behind the quote that opens a key. -/
def readKeyed (depth fuel : Nat) (fields : Fields) (cs : List Char) :
    Outcome (Value × List Char) := do
  let (key, rest) ← readText (cs.length + 1) [] cs
  match skipBlanks rest with
  | ':' :: rest =>
    let (v, rest) ← readValue depth fuel rest
    readFields depth fuel false (fields.put key v) rest
  | other => stopPastOr .endOfObject .noColon other

/-- A field from behind the comma in front of it. -/
def readNext (depth fuel : Nat) (fields : Fields) : List Char → Outcome (Value × List Char)
  | '"' :: rest => readKeyed depth fuel fields rest
  | '\x7d' :: rest => stopPast .trailingComma ('\x7d' :: rest)
  | other => stopPastOr .endOfValue .keyIsNoText other

/-- Fields go on with a key, whether it is the first one or not. -/
theorem readFields_eq_readKeyed (depth fuel : Nat) (first : Bool) (fields : Fields)
    {cs rest : List Char} (h : skipBlanks cs = '"' :: rest) :
    readFields depth (fuel + 1) first fields ((if first then [] else [',']) ++ cs) =
      readKeyed depth fuel fields rest := by
  cases first with
  | true =>
    rw [if_pos rfl, List.nil_append, readFields, h]
    rfl
  | false =>
    rw [if_neg (by decide), List.singleton_append, readFields, skipBlanks_cons (by decide)]
    show readNext depth fuel fields (skipBlanks cs) = _
    rw [h]
    rfl

/-- A key that is written is read back, and the value behind it is put under it. -/
theorem readKeyed_quote (key : String) (depth fuel : Nat) (fields : Fields) (cs : List Char) :
    readKeyed depth fuel fields (Quoted.encode key.toList ++ '"' :: ':' :: cs) =
      (readValue depth fuel cs >>= fun p =>
        readFields depth fuel false (fields.put key p.1) p.2) := by
  rw [readKeyed, readText_quote]
  show (match skipBlanks (':' :: cs) with
    | ':' :: rest => readValue depth fuel rest >>= fun p =>
      readFields depth fuel false (fields.put key p.1) p.2
    | other => stopPastOr .endOfObject .noColon other) = _
  rw [skipBlanks_cons (by decide)]
  rfl

/-- The gap before a key is skipped. -/
theorem skipBlanks_keyChars (n : Nat) (key : String) (cs : List Char) :
    skipBlanks (keyChars n key ++ cs) =
      '"' :: (Quoted.encode key.toList ++ '"' :: ':' :: ' ' :: cs) := by
  rw [keyChars, List.append_assoc, List.append_assoc, skipBlanks_gap, toList_quote_append,
    Opens.skipBlanks (.inl rfl)]
  rfl

/-- A field in front of others is read by itself. -/
theorem readFields_field (n : Nat) (key : String) (w : Written depth) (first : Bool)
    (fields : Fields) (rest : List Char) {fuel : Nat} (hfuel : w.chars.length ≤ fuel) :
    readFields depth (fuel + 1) first fields
      ((if first then [] else [',']) ++ (keyChars n key ++ (w.chars ++ rest))) =
        readFields depth fuel false (fields.put key w.value) rest := by
  have hread : readValue depth fuel (' ' :: (w.chars ++ rest)) = .ok (w.value, rest) := by
    have hlength := w.length_pos
    obtain ⟨fuel, rfl⟩ : ∃ n, fuel = n + 1 := ⟨fuel - 1, by omega⟩
    rw [readValue_space, w.reads (fuel + 1) rest hfuel]
  rw [readFields_eq_readKeyed depth fuel first fields (skipBlanks_keyChars n key _),
    readKeyed_quote, hread]
  rfl

/-- Fields that are written are read back, up to the closing brace. -/
theorem readFields_chars (n : Nat) (ws : List (String × Written depth)) (first : Bool)
    (fields : Fields) (rest : List Char) {fuel : Nat}
    (hfuel : (fieldsChars n first ws).length ≤ fuel) :
    readFields depth fuel first fields (fieldsChars n first ws ++ rest) =
      .ok (.object (fields.extend (ws.map fun f => (f.1, f.2.value))), rest) := by
  induction ws generalizing first fields fuel with
  | nil =>
    obtain ⟨fuel, rfl⟩ : ∃ n, fuel = n + 1 :=
      ⟨fuel - 1, by simp [fieldsChars, gap] at hfuel; omega⟩
    rw [fieldsChars, List.append_assoc, readFields, skipBlanks_gap, List.singleton_append,
      skipBlanks_cons (by decide)]
    rfl
  | cons f ws ih =>
    obtain ⟨key, w⟩ := f
    simp only [fieldsChars, List.length_append] at hfuel
    have hkey : 0 < (keyChars (n + 2) key).length := by simp [keyChars, gap]
    obtain ⟨fuel, rfl⟩ : ∃ n, fuel = n + 1 := ⟨fuel - 1, by omega⟩
    rw [fieldsChars, List.append_assoc, List.append_assoc, List.append_assoc,
      readFields_field (n + 2) key w first fields _ (by omega),
      ih false (fields.put key w.value) (by omega)]
    rfl

/-- An object with its fields in lines of their own, indented by two more blanks than its end. Of
fields with one key the last one counts. -/
def object (n : Nat) (ws : List (String × Written depth)) : Written (depth + 1) where
  chars := '\x7b' :: fieldsChars n true ws
  value := .object (Fields.ofPairs (ws.map fun f => (f.1, f.2.value)))
  opens := ⟨'\x7b', _, .inr (.inr rfl), rfl⟩
  reads fuel rest hfuel := by
    rw [List.length_cons] at hfuel
    obtain ⟨fuel, rfl⟩ : ∃ n, fuel = n + 1 := ⟨fuel - 1, by omega⟩
    rw [List.cons_append, readValue, Opens.skipBlanks (.inr (.inr rfl))]
    exact readFields_chars n ws true [] rest (by omega)

/-- A value that stands in a line of its own is what the whole text means. -/
theorem parse_line (w : Written maxDepth) :
    parse (String.ofList (w.chars ++ ['\n'])) = .ok w.value := by
  have hread := w.reads ((w.chars ++ ['\n']).length + 1) ['\n']
    (by rw [List.length_append]; omega)
  rw [parse, String.toList_ofList, parseChars, hread]
  rfl

end Written

end CliGen.Json
