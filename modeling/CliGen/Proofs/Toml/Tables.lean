import CliGen.Proofs.Toml.Printed
import CliGen.Text.Ascii

/-!
# Printed settings in TOML

What is printed for settings is read as their values, and tables of settings as an object of objects
(`Toml.parse_tables`), as long as no key is given twice.
-/

namespace CliGen.Toml

/-- The value of a setting. -/
def Setting.value : Setting → Value
  | bool b => .bool b
  | nat n => .int n
  | text s => .str s
  | texts items => .list (items.map .str)

/-- There is room for a setting: it is no number that is too large. -/
def Setting.Fits : Setting → Prop
  | nat n => n ≤ maxInt
  | _ => True

/-- Exactly the settings that fit into TOML can be printed. -/
theorem Setting.exists_text? (s : Setting) : (∃ text, s.text? = some text) ↔ s.Fits := by
  cases s with
  | nat n =>
    rw [text?, Fits]
    split <;> simp [*]
  | bool b | text s | texts items => exact ⟨fun _ => trivial, fun _ => ⟨_, rfl⟩⟩

/-- Tables are printed if there is room for all of their settings. -/
theorem exists_tables? {tables : List (String × List (String × Setting))} :
    (∃ text, tables? tables = some text) ↔ ∀ t ∈ tables, ∀ p ∈ t.2, p.2.Fits := by
  have hmap {α : Type} (x : Option α) (f : α → String) :
      (∃ text, x.bind (fun a => some (f a)) = some text) ↔ ∃ a, x = some a := by
    cases x <;> simp
  have htable (t : String × List (String × Setting)) :
      (∃ text, table? t.1 t.2 = some text) ↔ ∀ p ∈ t.2, p.2.Fits := by
    refine (hmap _ _).trans (exists_mapM_eq_some.trans (forall₂_congr fun p _ => ?_))
    exact (hmap _ _).trans p.2.exists_text?
  exact (hmap _ _).trans (exists_mapM_eq_some.trans (forall₂_congr fun t _ => htable t))

/-! ## Numbers -/

/-- Only zero begins with a zero. -/
theorem head?_toDigits {n : Nat} (h : n ≠ 0) : (Nat.toDigits 10 n).head? ≠ some '0' := by
  induction n using Nat.strongRecOn with
  | ind n ih =>
    rw [Nat.toDigits_eq_if (by omega)]
    split
    · next hsmall =>
      have hdigits : ∀ n < 10, n ≠ 0 → [n.digitChar].head? ≠ some '0' := by decide
      exact hdigits n hsmall h
    · rw [List.head?_append_of_ne_nil _ Nat.toDigits_ne_nil]
      exact ih (n / 10) (by omega) (by omega)

section

variable {ds rest : List Char}

/-- A number of digits is read from digits that end there, if there are enough. -/
theorem digits_append (hds : ∀ d ∈ ds, d.isDigit = true)
    (hrest : ∀ c ∈ rest.head?, c.isDigit = false) (k : Nat) :
    DateTime.digits k (ds ++ rest) =
      if k ≤ ds.length then some (ds.take k, ds.drop k ++ rest) else none := by
  induction ds generalizing k with
  | nil =>
    cases k with
    | zero => rfl
    | succ k =>
      cases rest with
      | nil => rfl
      | cons c rest => simp [DateTime.digits, hrest c rfl]
  | cons d ds ih =>
    cases k with
    | zero => simp [DateTime.digits]
    | succ k =>
      rw [List.forall_mem_cons] at hds
      simp only [List.cons_append, DateTime.digits, hds.1, if_true, ih hds.2 k, List.length_cons,
        Nat.add_le_add_iff_right, List.take_succ_cons, List.drop_succ_cons]
      split <;> rfl

/-- Behind its first digits a number has more of them, or ends with its line. -/
theorem head?_drop_append (hds : ∀ d ∈ ds, d.isDigit = true) (k : Nat) (rest : List Char) :
    ∀ c ∈ (ds.drop k ++ '\n' :: rest).head?, c.isDigit = true ∨ c = '\n' := by
  intro c hc
  cases hdrop : ds.drop k with
  | nil =>
    rw [hdrop] at hc
    cases hc
    exact .inr rfl
  | cons d more =>
    rw [hdrop] at hc
    have hmem : d ∈ ds.drop k := by rw [hdrop]; exact List.mem_cons_self
    cases hc
    exact .inl (hds _ (List.mem_of_mem_drop hmem))

/-- A line of digits is neither a date nor a time. -/
theorem not_begins (hds : ∀ d ∈ ds, d.isDigit = true) (rest : List Char) :
    DateTime.beginsDate (ds ++ '\n' :: rest) = false ∧
      DateTime.beginsTime (ds ++ '\n' :: rest) = false := by
  have hdigits := digits_append hds (show ∀ c ∈ ('\n' :: rest).head?, c.isDigit = false by
    rintro c ⟨⟩
    rfl)
  constructor
  · rw [DateTime.beginsDate, hdigits]
    split
    -- A mark would have to stand among the digits, or be the end of the line.
    next heq =>
      split at heq
      · next hlong =>
        rw [Option.some.injEq, Prod.mk.injEq] at heq
        rcases head?_drop_append hds 4 rest '-' (by rw [heq.2]; rfl) with h | h <;> cases h
      · cases heq
    next => rfl
  · rw [DateTime.beginsTime, DateTime.twoDigits, hdigits]
    split
    next heq =>
      obtain ⟨⟨hour, more⟩, hread, heq⟩ := Option.bind_eq_some_iff.1 heq
      split at hread
      · rw [Option.some.injEq, Prod.mk.injEq] at hread
        dsimp only at heq
        split at heq
        · rw [Option.some.injEq, Prod.mk.injEq] at heq
          rcases head?_drop_append hds 2 rest ':' (by rw [hread.2, heq.2]; rfl) with h | h <;>
            cases h
        · cases heq
      · cases hread
    next => rfl

/-- Digits without underscores have no two of them in a row. -/
theorem not_doubled (h : '_' ∉ ds) : readDigits.doubled ds = false := by
  induction ds with
  | nil => rfl
  | cons d ds ih =>
    rw [List.mem_cons, not_or] at h
    rw [readDigits.doubled.eq_def]
    split
    next heq => exact absurd (List.cons.inj heq).1.symm h.1
    next heq =>
      rw [← (List.cons.inj heq).2]
      exact ih h.2
    next => rfl

/-- Digits are read to their end. -/
theorem readDigits_append (hne : ds ≠ []) (hds : ∀ d ∈ ds, d.isDigit = true)
    (hrest : ∀ c ∈ rest.head?, c.isDigit = false ∧ c ≠ '_') :
    readDigits Char.isDigit (ds ++ rest) = some (ds, rest) := by
  have hall : ∀ d ∈ ds, (d.isDigit || d == '_') = true := fun d hd => by rw [hds d hd]; rfl
  have hmark : '_' ∉ ds := fun hmem => absurd (hds '_' hmem) (by decide)
  have hstop : rest.takeWhile (fun c => c.isDigit || c == '_') = [] ∧
      rest.dropWhile (fun c => c.isDigit || c == '_') = rest := by
    cases rest with
    | nil => exact ⟨rfl, rfl⟩
    | cons c rest =>
      have hc : ¬ (c.isDigit || c == '_') = true := by simp [hrest c rfl]
      exact ⟨List.takeWhile_cons_of_neg hc, List.dropWhile_cons_of_neg hc⟩
  have hfirst : ds.head? ≠ some '_' := fun h => hmark (List.mem_of_mem_head? h)
  have hlast : ds.getLast? ≠ some '_' := fun h => hmark (List.mem_of_getLast? h)
  have hfilter : ds.filter (· != '_') = ds := by
    rw [List.filter_eq_self]
    intro d hd
    rw [bne_iff_ne]
    rintro rfl
    exact hmark hd
  rw [readDigits, List.takeWhile_append_of_pos hall, List.dropWhile_append_of_pos hall, hstop.1,
    hstop.2, List.append_nil, hfilter]
  simp [hne, hfirst, hlast, not_doubled hmark]

end

/-- The digits of a number denote it. -/
theorem value_toDigits (n : Nat) : DateTime.value (Nat.toDigits 10 n) = n := by
  have hvalue : DateTime.value (Nat.toDigits 10 n) = Nat.ofDigitChars 10 (Nat.toDigits 10 n) 0 := by
    rw [DateTime.value, Nat.ofDigitChars]
    refine congrArg (fun f => List.foldl f 0 (Nat.toDigits 10 n)) ?_
    funext m d
    rw [Nat.mul_comm]
    rfl
  rw [hvalue, Nat.ofDigitChars_toDigits (by decide) (by decide)]

/-- Numbers up to the largest one are whole numbers of TOML. -/
theorem whole_natCast {n : Nat} (h : n ≤ maxInt) : whole n = some (.int n) := by
  rw [maxInt] at h
  rw [whole, if_pos ⟨by omega, by omega⟩]

/-- A number at the end of a line. -/
theorem readNumber_toDigits {n : Nat} (h : n ≤ maxInt) (rest : List Char) :
    readNumber false (Nat.toDigits 10 n ++ '\n' :: rest) = some (.int n, '\n' :: rest) := by
  have hdigits : ∀ d ∈ Nat.toDigits 10 n, d.isDigit = true :=
    fun d hd => Nat.isDigit_of_mem_toDigits (by decide) (by decide) hd
  -- A zero in front is only read where it is the whole number.
  have hleading : readLeading (Nat.toDigits 10 n ++ '\n' :: rest) =
      some (Nat.toDigits 10 n, '\n' :: rest) := by
    rw [readLeading.eq_def]
    split
    next more heq =>
      by_cases hzero : n = 0
      · subst hzero
        cases heq
        rfl
      · have hfirst := head?_toDigits hzero
        rw [← List.head?_append_of_ne_nil _ Nat.toDigits_ne_nil, heq] at hfirst
        exact absurd rfl hfirst
    next =>
      refine readDigits_append Nat.toDigits_ne_nil hdigits ?_
      rintro c ⟨⟩
      exact ⟨rfl, by decide⟩
  have hwhole := whole_natCast h
  have hexponent : readExponent ('\n' :: rest) = some (none, '\n' :: rest) := rfl
  rw [readNumber.eq_def]
  split
  -- Neither of the two words for other floats begins with a digit.
  next heq =>
    have hfirst := head?_drop_append hdigits 0 rest 'i' (by rw [List.drop_zero, heq]; rfl)
    rcases hfirst with h | h <;> cases h
  next heq =>
    have hfirst := head?_drop_append hdigits 0 rest 'n' (by rw [List.drop_zero, heq]; rfl)
    rcases hfirst with h | h <;> cases h
  next =>
    refine Option.bind_eq_some_iff.2 ⟨_, hleading, ?_⟩
    refine Option.bind_eq_some_iff.2 ⟨_, hexponent, ?_⟩
    refine Option.bind_eq_some_iff.2 ⟨_, ?_, rfl⟩
    rw [if_neg Bool.false_ne_true, value_toDigits]
    exact hwhole

/-- The digits of a number are read as that number at the end of a line. -/
theorem readScalar_toDigits {n : Nat} (h : n ≤ maxInt) (rest : List Char) :
    readScalar (Nat.toDigits 10 n ++ '\n' :: rest) = some (.int n, '\n' :: rest) := by
  have hdigits : ∀ d ∈ Nat.toDigits 10 n, d.isDigit = true :=
    fun d hd => Nat.isDigit_of_mem_toDigits (by decide) (by decide) hd
  have hnumber := readNumber_toDigits h rest
  have hbegins := not_begins hdigits rest
  obtain ⟨d, ds, hds⟩ := List.exists_cons_of_ne_nil (Nat.toDigits_ne_nil (b := 10) (n := n))
  have hfirst : d.isDigit = true := hdigits d (by rw [hds]; exact List.mem_cons_self)
  have hsecond := head?_drop_append hdigits 1 rest
  rw [hds, List.cons_append] at hnumber hbegins ⊢
  rw [hds, List.drop_one, List.tail_cons] at hsecond
  generalize ds ++ '\n' :: rest = more at hnumber hbegins hsecond ⊢
  have hmark (c : Char) (hc : c.isDigit = false) : d ≠ c := by
    rintro rfl
    rw [hc] at hfirst
    cases hfirst
  have hnext (c : Char) (hc : c.isDigit = false) (hfeed : c ≠ '\n') (tail : List Char) :
      more ≠ c :: tail := by
    rintro rfl
    rcases hsecond c rfl with h | h
    · rw [hc] at h
      cases h
    · exact hfeed h
  -- Values of other kinds begin with no digit, or go on with a letter behind it.
  rw [readScalar.eq_def]
  split
  next heq => exact absurd (List.cons.inj heq).1 (hmark _ rfl)
  next heq => exact absurd (List.cons.inj heq).1 (hmark _ rfl)
  next heq => exact absurd (List.cons.inj heq).1 (hmark _ rfl)
  next heq => exact absurd (List.cons.inj heq).1 (hmark _ rfl)
  next heq => exact absurd (List.cons.inj heq).2 (hnext _ rfl (by decide) _)
  next heq => exact absurd (List.cons.inj heq).2 (hnext _ rfl (by decide) _)
  next heq => exact absurd (List.cons.inj heq).2 (hnext _ rfl (by decide) _)
  next heq => exact absurd (List.cons.inj heq).1 (hmark _ rfl)
  next heq => exact absurd (List.cons.inj heq).1 (hmark _ rfl)
  next heq =>
    cases heq
    rw [hbegins.1, hbegins.2, if_neg (by decide), hfirst, Bool.true_or, Bool.true_or, if_pos rfl]
    exact hnumber
  next heq => cases heq

/-! ## Values -/

/-- A value that begins neither a list nor a table is a scalar. -/
theorem readValue_eq_readScalar {c : Char} (hc : c ≠ '[' ∧ c ≠ '\x7b') (depth fuel : Nat)
    (cs : List Char) : readValue depth (fuel + 1) (c :: cs) = readScalar (c :: cs) := by
  rw [readValue]
  · rintro rest ⟨⟩
    exact hc.1 rfl
  · rintro rest ⟨⟩
    exact hc.2 rfl

/-- The characters of a printed text. -/
theorem toList_quote (s : String) : (quote s).toList = quoteChars s.toList := String.toList_ofList

/-- A printed text begins with a quote. -/
theorem exists_quoteChars (cs : List Char) :
    ∃ d item, quoteChars cs = d :: item ∧ (d = '"' ∨ d = '\'') := by
  unfold quoteChars
  extract_lets t opening doubles singles
  split
  · exact ⟨'"', _, rfl, .inl rfl⟩
  split
  · exact ⟨'\'', _, rfl, .inr rfl⟩
  split
  · exact ⟨'"', _, rfl, .inl rfl⟩
  split
  · exact ⟨'\'', _, rfl, .inr rfl⟩
  split
  · exact ⟨'"', _, rfl, .inl rfl⟩
  · exact ⟨'"', _, rfl, .inl rfl⟩

/-- A printed text is read back where no quote stands behind it. -/
theorem readValue_quoteChars (depth fuel : Nat) (cs : List Char) {rest : List Char}
    (hdouble : rest.head? ≠ some '"') (hsingle : rest.head? ≠ some '\'') :
    readValue depth (fuel + 1) (quoteChars cs ++ rest) = some (.str (String.ofList cs), rest) := by
  have htext := readText_quoteChars cs hdouble hsingle
  obtain ⟨d, item, hitem, hd⟩ := exists_quoteChars cs
  rw [hitem, List.cons_append] at htext ⊢
  rw [readValue_eq_readScalar (by rcases hd with rfl | rfl <;> decide), readScalar.eq_def]
  rcases hd with rfl | rfl <;> simp only [htext, Option.map_some]

/-- A printed text as an item of a list. -/
theorem readItems_quoteChars (depth fuel : Nat) (items : List Value) (s : String) {c : Char}
    (hc : c = ',' ∨ c = ']') (rest : List Char) :
    readItems depth (fuel + 2) items ((quote s).toList ++ c :: rest) =
      if c = ',' then readItems depth (fuel + 1) (.str s :: items) rest
      else some (.list (.str s :: items).reverse, rest) := by
  have hvalue := readValue_quoteChars depth fuel s.toList
    (show (c :: rest).head? ≠ some '"' by rcases hc with rfl | rfl <;> simp)
    (by rcases hc with rfl | rfl <;> simp)
  rw [String.ofList_toList] at hvalue
  obtain ⟨d, item, hitem, hd⟩ := exists_quoteChars s.toList
  rw [toList_quote, hitem, List.cons_append]
  rw [hitem, List.cons_append] at hvalue
  exact readItems_next hd items hc hvalue

/-- Items on lines of their own. -/
def itemLines (ss : List String) : List Char :=
  ss.flatMap fun s => ' ' :: ' ' :: ' ' :: ' ' :: ((quote s).toList ++ [',', '\n'])

/-- Items that are printed one to a line are read back, up to the closing bracket. -/
theorem readItems_itemLines (depth : Nat) (ss : List String) (items : List Value)
    (rest : List Char) {fuel : Nat} (hfuel : ss.length + 1 < fuel) :
    readItems depth fuel items ('\n' :: (itemLines ss ++ ']' :: rest)) =
      some (.list (items.reverse ++ ss.map .str), rest) := by
  induction ss generalizing items fuel with
  | nil =>
    obtain ⟨fuel, rfl⟩ : ∃ n, fuel = n + 1 := ⟨fuel - 1, by omega⟩
    have hgap : skipGap false ('\n' :: (itemLines [] ++ ']' :: rest)) = ']' :: rest := by
      simp [itemLines, skipGap, isBlank]
    rw [readItems, hgap]
    simp
  | cons s ss ih =>
    rw [List.length_cons] at hfuel
    obtain ⟨fuel, rfl⟩ : ∃ n, fuel = n + 2 := ⟨fuel - 2, by omega⟩
    have hline : itemLines (s :: ss) ++ ']' :: rest = ' ' :: ' ' :: ' ' :: ' ' ::
        ((quote s).toList ++ ',' :: '\n' :: (itemLines ss ++ ']' :: rest)) := by
      simp [itemLines]
    have hgap (cs : List Char) :
        skipGap false ('\n' :: ' ' :: ' ' :: ' ' :: ' ' :: cs) = skipGap false cs := by
      simp [skipGap, isBlank]
    have hitem := readItems_quoteChars depth fuel items s (.inl rfl)
      ('\n' :: (itemLines ss ++ ']' :: rest))
    rw [if_pos rfl, ih _ (by omega), readItems] at hitem
    rw [hline, readItems, hgap, hitem]
    simp

/-- Every item takes up a character at least. -/
theorem length_le_itemLines (ss : List String) : ss.length ≤ (itemLines ss).length := by
  induction ss with
  | nil => exact Nat.le_refl 0
  | cons s ss ih =>
    rw [itemLines, List.flatMap_cons, ← itemLines, List.length_append, List.length_cons,
      List.length_cons]
    omega

/-- A printed list is read as the list. -/
theorem endsLine_texts (depth : Nat) (ss : List String) :
    EndsLine (depth + 1) (listText (ss.map quote)).toList (some (.list (ss.map .str))) := by
  intro fuel rest hfuel
  -- A list is printed on one line only if it has less than two items.
  match ss with
  | [] =>
    obtain ⟨fuel, rfl⟩ : ∃ n, fuel = n + 2 := ⟨fuel - 2, by simp [listText] at hfuel; omega⟩
    simp [listText, readValue, readItems, skipGap, isBlank]
  | [s] =>
    have hchars : (listText ([s].map quote)).toList = '[' :: ((quote s).toList ++ [']']) := by
      simp [listText]
    rw [hchars] at hfuel ⊢
    rw [List.length_cons, List.length_append, List.length_singleton] at hfuel
    obtain ⟨d, item, hitem, -⟩ := exists_quoteChars s.toList
    rw [toList_quote, hitem, List.length_cons] at hfuel
    obtain ⟨fuel, rfl⟩ : ∃ n, fuel = n + 3 := ⟨fuel - 3, by omega⟩
    have hread := readItems_quoteChars depth fuel [] s (.inr rfl) ('\n' :: rest)
    rw [if_neg (by decide)] at hread
    rw [List.cons_append, List.append_assoc, List.singleton_append, readValue, hread]
    rfl
  | s :: s' :: ss =>
    have hchars : (listText ((s :: s' :: ss).map quote)).toList =
        '[' :: '\n' :: (itemLines (s :: s' :: ss) ++ [']']) := by
      have hlist : listText ((s :: s' :: ss).map quote) = "[\n" ++ String.join
          (((s :: s' :: ss).map quote).map fun item => "    " ++ item ++ ",\n") ++ "]" := rfl
      rw [hlist, String.toList_append, String.toList_append, String.toList_join, List.map_map,
        List.flatMap_map, itemLines]
      simp only [Function.comp_apply, String.toList_append, List.append_assoc]
      rfl
    have hlength := length_le_itemLines (s :: s' :: ss)
    rw [hchars] at hfuel ⊢
    simp only [List.length_cons, List.length_append, List.length_nil] at hfuel hlength
    obtain ⟨fuel, rfl⟩ : ∃ n, fuel = n + 1 := ⟨fuel - 1, by omega⟩
    rw [List.cons_append, List.cons_append, List.append_assoc, List.singleton_append, readValue,
      readItems_itemLines depth _ [] _ (by simp only [List.length_cons]; omega)]
    rfl

/-- No printed list begins with a blank. -/
theorem isBlank_head_listText (items : List String) :
    ∀ c ∈ (listText items).toList.head?, isBlank c = false := by
  unfold listText
  split
  · rintro c ⟨⟩
    rfl
  · rw [String.toList_append, String.toList_append]
    rintro c ⟨⟩
    rfl
  · rw [String.toList_append, String.toList_append]
    rintro c ⟨⟩
    rfl

/-- Numbers up to the largest one are read at the end of a line. -/
theorem endsLine_toDigits (depth : Nat) {n : Nat} (h : n ≤ maxInt) :
    EndsLine depth (Nat.toDigits 10 n) (some (.int n)) := by
  intro fuel rest hfuel
  obtain ⟨fuel, rfl⟩ : ∃ n, fuel = n + 1 := ⟨fuel - 1, by omega⟩
  have hread := readScalar_toDigits h rest
  obtain ⟨d, ds, hds⟩ := List.exists_cons_of_ne_nil (Nat.toDigits_ne_nil (b := 10) (n := n))
  have hdigit : d.isDigit = true :=
    Nat.isDigit_of_mem_toDigits (by decide) (by decide) (hds ▸ List.mem_cons_self)
  rw [hds, List.cons_append] at hread ⊢
  rw [readValue_eq_readScalar (by constructor <;> rintro rfl <;> cases hdigit), hread]
  rfl

/-- No number begins with a blank. -/
theorem isBlank_head_toDigits (n : Nat) :
    ∀ c ∈ (Nat.toDigits 10 n).head?, isBlank c = false := by
  intro c hc
  have hdigit : c.isDigit = true :=
    Nat.isDigit_of_mem_toDigits (by decide) (by decide) (List.mem_of_mem_head? hc)
  exact isBlank_of_isKeyChar (by simp [isKeyChar, Char.isAlphanum, hdigit])

/-- A number is shown by its digits. -/
theorem toList_toString (n : Nat) : (toString n).toList = Nat.toDigits 10 n := by
  simp [toString, Nat.repr]

/-- The words for truth values are read at the end of a line. -/
theorem endsLine_bool (depth : Nat) (b : Bool) :
    EndsLine depth (if b then "true" else "false" : String).toList (some (.bool b)) := by
  intro fuel rest hfuel
  obtain ⟨fuel, rfl⟩ : ∃ n, fuel = n + 1 := ⟨fuel - 1, by omega⟩
  cases b with
  | false =>
    exact readValue_eq_readScalar (by decide) depth fuel ('a' :: 'l' :: 's' :: 'e' :: '\n' :: rest)
  | true => exact readValue_eq_readScalar (by decide) depth fuel ('r' :: 'u' :: 'e' :: '\n' :: rest)

/-- **A printed setting is read as its value.** -/
theorem Setting.endsLine {s : Setting} {text : String} (h : s.text? = some text) :
    EndsLine (depthLimit - 1) text.toList (some s.value) ∧
      ∀ c ∈ text.toList.head?, isBlank c = false := by
  cases s with
  | bool b =>
    cases h
    refine ⟨endsLine_bool _ b, ?_⟩
    cases b <;> (rintro c ⟨⟩; rfl)
  | nat n =>
    rw [text?] at h
    split at h
    · next hn =>
      cases h
      rw [toList_toString]
      exact ⟨endsLine_toDigits _ hn, isBlank_head_toDigits n⟩
    · cases h
  | text s =>
    cases h
    refine ⟨fun fuel rest hfuel => ?_, ?_⟩
    · obtain ⟨fuel, rfl⟩ : ∃ n, fuel = n + 1 := ⟨fuel - 1, by omega⟩
      rw [toList_quote, readValue_quoteChars _ fuel _ (by simp) (by simp), String.ofList_toList]
      rfl
    · obtain ⟨d, item, hitem, hd⟩ := exists_quoteChars s.toList
      rw [toList_quote, hitem]
      rintro c ⟨⟩
      rcases hd with rfl | rfl <;> rfl
  | texts items =>
    cases h
    exact ⟨endsLine_texts _ items, isBlank_head_listText _⟩

/-- A line of a table. -/
theorem Setting.reads {key line : String} {s : Setting} {text : String}
    (h : IsBareKey [] key.toList) (htext : s.text? = some text)
    (hline : line = key ++ " = " ++ text) :
    Reads line.toList (Draft.define [] key s.value) := by
  obtain ⟨hends, hfirst⟩ := Setting.endsLine htext
  have hchars : line.toList = dotted [] key.toList ++ ' ' :: '=' :: ' ' :: text.toList := by
    rw [hline, String.toList_append, String.toList_append, List.append_assoc]
    rfl
  have hreads := h.reads hfirst hends
  rwa [String.ofList_toList, ← hchars] at hreads

/-! ## Tables -/

/-- The tables of a document, each with its settings. -/
abbrev Tables := List (String × List (String × Setting))

/-- The entries of a table that is read. -/
def entries (settings : List (String × Setting)) : Entries :=
  settings.map fun p => (p.1, .value p.2.value)

/-- The entries of a document whose tables are read. -/
def nodes (tables : Tables) : Entries :=
  tables.map fun t => (t.1, .table false false (entries t.2))

/-- Tables that are told apart by their names, and settings by their keys, all of them bare. -/
structure Distinct (tables : Tables) : Prop where
  names : (tables.map (·.1)).Nodup
  keys : ∀ t ∈ tables, (t.2.map (·.1)).Nodup
  bareNames : ∀ t ∈ tables, IsBareKey [] t.1.toList
  bareKeys : ∀ t ∈ tables, ∀ key ∈ t.2.map (·.1), IsBareKey [] key.toList

/-- Fewer tables have distinct names too. -/
theorem Distinct.of_cons {t : String × List (String × Setting)} {tables : Tables}
    (h : Distinct (t :: tables)) : Distinct tables where
  names := (List.nodup_cons.1 h.names).2
  keys u hu := h.keys u (List.mem_cons_of_mem _ hu)
  bareNames u hu := h.bareNames u (List.mem_cons_of_mem _ hu)
  bareKeys u hu := h.bareKeys u (List.mem_cons_of_mem _ hu)

/-- A key that no entry has is not found. -/
theorem get?_eq_none {key : String} {entries : Entries} (h : key ∉ entries.map (·.1)) :
    entries.get? key = none := by
  induction entries with
  | nil => rfl
  | cons e entries ih =>
    rw [List.map_cons, List.mem_cons, not_or] at h
    rw [Entries.get?, if_neg (Ne.symm h.1), ih h.2]

/-- What the lines of tables do. -/
def tableSteps (t : String × List (String × Setting)) : List (Draft → Option Draft) :=
  Draft.openTable [t.1] :: t.2.map fun p => Draft.define [] p.1 p.2.value

@[inherit_doc tableSteps]
def documentSteps : Tables → List (Draft → Option Draft)
  | [] => []
  | [t] => tableSteps t
  | t :: tables => tableSteps t ++ some :: documentSteps tables

/-- Every line of printed settings is read as the definition of its key. -/
theorem exists_lines_settings {settings : List (String × Setting)} {printed : List String}
    (hkeys : ∀ key ∈ settings.map (·.1), IsBareKey [] key.toList)
    (h : settings.mapM (fun (key, s) => do return key ++ " = " ++ (← s.text?) ++ "\n") =
      some printed) :
    ∃ lines, List.Forall₂ (fun (line : String) step => Reads line.toList step) lines
      (settings.map fun p => Draft.define [] p.1 p.2.value) ∧
        printed = lines.map (· ++ "\n") := by
  induction settings generalizing printed with
  | nil =>
    cases h
    exact ⟨[], .nil, rfl⟩
  | cons p settings ih =>
    obtain ⟨key, s⟩ := p
    rw [List.map_cons, List.forall_mem_cons] at hkeys
    rw [List.mapM_cons] at h
    obtain ⟨line, hline, h⟩ := Option.bind_eq_some_iff.1 h
    obtain ⟨text, htext, hline⟩ := Option.bind_eq_some_iff.1 hline
    obtain ⟨more, hmore, h⟩ := Option.bind_eq_some_iff.1 h
    obtain ⟨lines, hreads, rfl⟩ := ih hkeys.2 hmore
    cases hline
    cases h
    exact ⟨_, .cons (Setting.reads hkeys.1 htext rfl) hreads, rfl⟩

/-- The lines of a printed table. -/
theorem exists_lines_table {name : String} {settings : List (String × Setting)} {text : String}
    (hname : IsBareKey [] name.toList) (hkeys : ∀ key ∈ settings.map (·.1), IsBareKey [] key.toList)
    (h : table? name settings = some text) :
    ∃ lines, List.Forall₂ (fun (line : String) step => Reads line.toList step) lines
      (tableSteps (name, settings)) ∧ text = String.join (lines.map (· ++ "\n")) ∧
        lines.head? = some ("[" ++ name ++ "]") := by
  obtain ⟨printed, hprinted, htext⟩ := Option.bind_eq_some_iff.1 h
  obtain ⟨lines, hreads, rfl⟩ := exists_lines_settings hkeys hprinted
  have hheader : Reads ("[" ++ name ++ "]").toList (Draft.openTable [name]) := by
    have hread := reads_header hname
    rw [List.nil_append, List.map_singleton, String.ofList_toList] at hread
    rwa [String.toList_append, String.toList_append]
  refine ⟨("[" ++ name ++ "]") :: lines, .cons hheader hreads, ?_, rfl⟩
  rw [← Option.some.inj htext, List.map_cons, String.join_cons]
  simp only [String.append_assoc]
  rfl

/-- The lines of a printed document. -/
theorem exists_lines {tables : Tables} {text : String} (hdistinct : Distinct tables)
    (h : tables? tables = some text) :
    ∃ lines, List.Forall₂ (fun (line : String) step => Reads line.toList step) lines
      (documentSteps tables) ∧ text = String.join (lines.map (· ++ "\n")) ∧
        ∀ line ∈ lines.head?, line.toList.head? = some '[' := by
  have hfirst (name : String) : ∀ line ∈ some ("[" ++ name ++ "]"),
      line.toList.head? = some '[' := by
    rintro line ⟨⟩
    rw [String.toList_append, String.toList_append]
    rfl
  obtain ⟨printed, hprinted, htext⟩ := Option.bind_eq_some_iff.1 h
  cases htext
  clear h
  induction tables generalizing printed with
  | nil =>
    cases hprinted
    exact ⟨[], .nil, rfl, by simp⟩
  | cons t tables ih =>
    rw [List.mapM_cons] at hprinted
    obtain ⟨first, hhead, hprinted⟩ := Option.bind_eq_some_iff.1 hprinted
    obtain ⟨more, hmore, hprinted⟩ := Option.bind_eq_some_iff.1 hprinted
    cases hprinted
    obtain ⟨lines, hreads, rfl, hname⟩ := exists_lines_table
      (hdistinct.bareNames t List.mem_cons_self) (hdistinct.bareKeys t List.mem_cons_self) hhead
    cases tables with
    | nil =>
      cases hmore
      refine ⟨lines, hreads, String.intercalate_singleton, ?_⟩
      rw [hname]
      exact hfirst t.1
    | cons u tables =>
      obtain ⟨others, hothers, hjoin, -⟩ := ih hdistinct.of_cons more hmore
      have hne : more ≠ [] := by
        rw [List.mapM_cons] at hmore
        obtain ⟨second, -, hmore⟩ := Option.bind_eq_some_iff.1 hmore
        obtain ⟨rest, -, hmore⟩ := Option.bind_eq_some_iff.1 hmore
        cases hmore
        exact List.cons_ne_nil _ _
      -- An empty line stands between two tables.
      refine ⟨lines ++ "" :: others, ?_, ?_, ?_⟩
      · exact List.rel_append hreads (.cons reads_empty hothers)
      · rw [String.intercalate_cons_of_ne_nil hne, hjoin, List.map_append, String.join_append,
          List.map_cons, String.join_cons]
        simp only [String.append_assoc]
        rfl
      · rw [List.head?_append, hname]
        exact hfirst t.1

/-- Settings are added to the open table. -/
theorem foldlM_define {root given : Entries} {path : List String} {listed : Bool}
    {settings : List (String × Setting)}
    (hkeys : ((given.map (·.1)) ++ settings.map (·.1)).Nodup) :
    (settings.map fun p => Draft.define [] p.1 p.2.value).foldlM
      (fun d (step : Draft → Option Draft) => step d) ⟨root, path, listed, given⟩ =
        some ⟨root, path, listed, given ++ entries settings⟩ := by
  induction settings generalizing given with
  | nil => simp [entries]
  | cons p settings ih =>
    obtain ⟨key, s⟩ := p
    rw [List.map_cons] at hkeys
    have hnew : key ∉ given.map (·.1) := by
      intro hmem
      exact (List.nodup_append.1 hkeys).2.2 key hmem key List.mem_cons_self rfl
    have hdefine : Draft.define [] key s.value ⟨root, path, listed, given⟩ =
        some ⟨root, path, listed, given ++ [(key, .value s.value)]⟩ := by
      simp [Draft.define, Entries.define, Entries.updateAt, get?_eq_none hnew]
    have hrest : ((given ++ [(key, Node.value s.value)]).map (·.1) ++
        settings.map (·.1)).Nodup := by
      rwa [List.map_append, List.map_singleton, List.append_assoc, List.singleton_append]
    rw [List.map_cons, List.foldlM_cons, hdefine, Option.bind_eq_bind, Option.bind_some, ih hrest,
      List.append_assoc]
    rfl

/-- A header with a new name opens a table of that name. -/
theorem openTable_of_new {d : Draft} {root : Entries} {name : String} (hclose : d.close = some root)
    (hnew : name ∉ root.map (·.1)) : d.openTable [name] = some ⟨root, [name], false, []⟩ := by
  rw [Draft.openTable, hclose]
  simp [Entries.updateAt, get?_eq_none hnew]

/-- Closing a new table puts it behind the others. -/
theorem close_of_new {root : Entries} (given : Entries) {name : String}
    (hnew : name ∉ root.map (·.1)) : (⟨root, [name], false, given⟩ : Draft).close =
      some (root ++ [(name, .table false false given)]) := by
  simp [Draft.close, Entries.updateAt, get?_eq_none hnew]

/-- Tables are put behind those that are read already. -/
theorem foldlM_documentSteps {tables : Tables} (hdistinct : Distinct tables) {root : Entries}
    {d : Draft} (hclose : d.close = some root)
    (hnew : ∀ t ∈ tables, t.1 ∉ root.map (·.1)) :
    ((documentSteps tables).foldlM (fun d (step : Draft → Option Draft) => step d) d).bind
      Draft.close = some (root ++ nodes tables) := by
  induction tables generalizing root d with
  | nil => simpa [documentSteps, nodes] using hclose
  | cons t tables ih =>
    obtain ⟨name, settings⟩ := t
    have hname := hnew (name, settings) List.mem_cons_self
    have hread : (tableSteps (name, settings)).foldlM
        (fun d (step : Draft → Option Draft) => step d) d =
          some ⟨root, [name], false, entries settings⟩ := by
      rw [tableSteps, List.foldlM_cons, openTable_of_new hclose hname, Option.bind_eq_bind,
        Option.bind_some, foldlM_define (by
          simpa using hdistinct.keys (name, settings) List.mem_cons_self)]
      rfl
    have hclosed := close_of_new (entries settings) hname
    have hnodes : nodes ((name, settings) :: tables) =
        (name, .table false false (entries settings)) :: nodes tables := rfl
    cases tables with
    | nil =>
      rw [documentSteps, hread, Option.bind_some, hclosed]
      rfl
    | cons u tables =>
      have hothers : ∀ t ∈ u :: tables, t.1 ∉
          (root ++ [(name, Node.table false false (entries settings))]).map (·.1) := by
        intro t ht
        rw [List.map_append, List.mem_append, not_or]
        refine ⟨hnew t (List.mem_cons_of_mem _ ht), ?_⟩
        rw [List.map_singleton, List.mem_singleton]
        intro heq
        have hmem : t.1 ∈ (u :: tables).map (·.1) := List.mem_map_of_mem ht
        rw [heq] at hmem
        exact (List.nodup_cons.1 hdistinct.names).1 hmem
      -- The table is closed when the next one is opened.
      rw [documentSteps, List.foldlM_append, hread, Option.bind_eq_bind, Option.bind_some,
        List.foldlM_cons, Option.bind_eq_bind, Option.bind_some,
        ih hdistinct.of_cons hclosed hothers, hnodes, List.append_assoc, List.singleton_append]
      · simp

/-- The fields of a table that is read are its settings. -/
theorem toFields_entries (settings : List (String × Setting)) :
    Node.toFields (entries settings) = settings.map fun p => (p.1, p.2.value) := by
  induction settings with
  | nil => rfl
  | cons p settings ih =>
    rw [entries, List.map_cons, ← entries, Node.toFields, ih, Node.toValue, List.map_cons]

/-- The fields of a document that is read are its tables. -/
theorem toFields_nodes (tables : Tables) : Node.toFields (nodes tables) =
    tables.map fun t => (t.1, .object (t.2.map fun p => (p.1, p.2.value))) := by
  induction tables with
  | nil => rfl
  | cons t tables ih =>
    rw [nodes, List.map_cons, ← nodes, Node.toFields, ih, Node.toValue, toFields_entries,
      List.map_cons]

/-- **Printed tables are read as what they hold.** -/
theorem parse_tables {tables : Tables} {text : String} (hdistinct : Distinct tables)
    (h : tables? tables = some text) :
    parse text = some (.object (tables.map fun t =>
      (t.1, .object (t.2.map fun p => (p.1, p.2.value))))) := by
  obtain ⟨lines, hreads, rfl, hfirst⟩ := exists_lines hdistinct h
  have hmark : ∀ line ∈ lines.head?, line.toList.head? ≠ some '\uFEFF' := by
    intro line hline
    rw [hfirst line hline]
    decide
  have hclose : Draft.empty.close = some [] := rfl
  have hfold := foldlM_documentSteps hdistinct hclose (by simp)
  rw [parse_lines hreads hmark, ← toFields_nodes]
  obtain ⟨d, hd, hfinal⟩ := Option.bind_eq_some_iff.1 hfold
  rw [hd, Option.bind_some, Draft.finish, hfinal]
  rfl

end CliGen.Toml
