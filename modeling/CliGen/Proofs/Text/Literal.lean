import Mathlib.Data.List.Basic

/-!
# Text literals of programming languages

A language reads a literal from its opening quote on: a character stands for itself, or a backslash
and the characters behind it stand for others, up to the first quote that is not behind a backslash
(`Language.readText`). Lists of literals are read from the brackets and commas around them
(`Language.list?`).

Languages differ in their escapes. A way of writing that gives each character a form of its own
which the language reads back (`Language.Writes`) is a way of writing texts: the literal is one
line, its quotes are the first and the last character, and it is read as the text
(`Language.denotes`). The same holds of lists (`Language.list?_intercalate`).
-/

namespace CliGen.Literal

/-- How a language reads what stands between double quotes. -/
structure Language where
  /-- The characters that may stand for themselves, quotes and backslashes apart. -/
  isPlain : Char → Bool
  /-- The characters that stand behind a backslash for one character each. -/
  single : List (Char × Char)
  /-- What else stands behind a backslash: its meaning, and how many characters belong to it. -/
  long? : List Char → Option (List Char × Nat)

/-- A part of a source text. -/
inductive Token where
  | text (s : String)
  | mark (c : Char)

/-- Blanks between the parts of a source text. -/
def isBlank (c : Char) : Bool := c == ' ' || c == '\t' || c == '\n' || c == '\r'

namespace Language

variable (l : Language)

/-- What a backslash in front of some characters means, and how many of them belong to it. -/
def escape? : List Char → Option (List Char × Nat)
  | [] => none
  | c :: cs =>
    match l.single.lookup c with
    | some d => some ([d], 1)
    | none => l.long? (c :: cs)

/-- The text up to the closing quote, and what stands behind that quote. -/
def readText : List Char → Option (List Char × List Char)
  | [] => none
  | c :: cs =>
    if c = '"' then some ([], cs)
    else if c = '\\' then
      match l.escape? cs with
      | some e => (readText (cs.drop e.2)).map fun p => (e.1 ++ p.1, p.2)
      | none => none
    else if l.isPlain c then (readText cs).map fun p => (c :: p.1, p.2)
    else none
termination_by cs => cs.length
decreasing_by
  · simp only [List.length_drop, List.length_cons]
    omega
  · simp

/-- The text of a literal, if the whole source text is one. -/
def text? (source : String) : Option String :=
  match source.toList with
  | '"' :: cs =>
    match l.readText cs with
    | some (text, []) => some (String.ofList text)
    | _ => none
  | _ => none

/-- Reading a text takes characters away. -/
theorem length_readText {cs text rest : List Char} (h : l.readText cs = some (text, rest)) :
    rest.length < cs.length := by
  fun_induction readText l cs generalizing text with
  | case1 => cases h
  | case2 cs =>
    cases h
    simp
  | case3 cs _ e _ ih =>
    obtain ⟨p, hp, hpair⟩ := Option.map_eq_some_iff.1 h
    cases hpair
    have hshorter := ih hp
    simp only [List.length_drop, List.length_cons] at hshorter ⊢
    omega
  | case4 => cases h
  | case5 c cs _ _ _ ih =>
    obtain ⟨p, hp, hpair⟩ := Option.map_eq_some_iff.1 h
    cases hpair
    have hshorter := ih hp
    rw [List.length_cons]
    omega
  | case6 => cases h

/-- The parts of a source text that holds literals and single marks. -/
def tokens : List Char → Option (List Token)
  | [] => some []
  | c :: cs =>
    if isBlank c then tokens cs
    else if c = '"' then
      match h : l.readText cs with
      | some (text, rest) =>
        have : rest.length < cs.length := l.length_readText h
        (tokens rest).map (.text (String.ofList text) :: ·)
      | none => none
    else (tokens cs).map (.mark c :: ·)
termination_by cs => cs.length
decreasing_by all_goals simp only [List.length_cons]; omega

end Language

/-- The texts up to a closing bracket, and the number of commas behind them. The last text may or
may not have a comma. -/
def items (closing : Char) : List Token → Option (List String × Nat)
  | [.mark c] => if c = closing then some ([], 0) else none
  | [.text s, .mark c] => if c = closing then some ([s], 0) else none
  | .text s :: .mark c :: rest =>
    if c = ',' then (items closing rest).map fun p => (s :: p.1, p.2 + 1) else none
  | _ => none

/-- The texts between two brackets, and the number of commas. -/
def Language.list? (l : Language) (opening closing : Char) (source : String) :
    Option (List String × Nat) :=
  match l.tokens source.toList with
  | some (.mark c :: rest) => if c = opening then items closing rest else none
  | _ => none

/-- The positions of the quotes that do not stand behind a backslash. -/
def quotePositions : Nat → List Char → List Nat
  | _, [] => []
  | i, '\\' :: _ :: cs => quotePositions (i + 2) cs
  | i, c :: cs => if c = '"' then i :: quotePositions (i + 1) cs else quotePositions (i + 1) cs

/-! ## Ways of writing -/

/-- A character that ends a line. -/
def IsBreak (c : Char) : Prop := c = '\n' ∨ c = '\r'

instance : DecidablePred IsBreak := fun c => inferInstanceAs (Decidable (c = '\n' ∨ c = '\r'))

/-- A form of a character that a language reads back: the character itself, or an escape that holds
no further quote or backslash. -/
inductive Language.Writes (l : Language) (c : Char) : List Char → Prop where
  | plain (hplain : l.isPlain c = true) (hquote : c ≠ '"') (hbackslash : c ≠ '\\')
      (hline : ¬ IsBreak c) : l.Writes c [c]
  | escape {d : Char} {ds : List Char}
      (hmeaning : ∀ rest, l.escape? (d :: (ds ++ rest)) = some ([c], ds.length + 1))
      (hinner : ∀ e ∈ ds, e ≠ '"' ∧ e ≠ '\\') (hline : ∀ e ∈ d :: ds, ¬ IsBreak e) :
      l.Writes c ('\\' :: d :: ds)

/-- A literal stands for a text in a language. -/
structure Language.Denotes (l : Language) (literal text : String) : Prop where
  oneLine : ∀ c ∈ literal.toList, ¬ IsBreak c
  quotes : quotePositions 0 literal.toList = [0, literal.length - 1]
  text?_eq : l.text? literal = some text

/-- The literal of a text. -/
def quoted (write : Char → List Char) (s : String) : String :=
  String.ofList ('"' :: s.toList.flatMap write ++ ['"'])

section

variable {l : Language} {write : Char → List Char}

/-- Characters that are no quotes and no backslashes are passed. -/
theorem quotePositions_append {cs : List Char} (h : ∀ c ∈ cs, c ≠ '"' ∧ c ≠ '\\') (i : Nat)
    (rest : List Char) : quotePositions i (cs ++ rest) = quotePositions (i + cs.length) rest := by
  induction cs generalizing i with
  | nil => rfl
  | cons c cs ih =>
    rw [List.forall_mem_cons] at h
    rw [List.cons_append, quotePositions, if_neg h.1.1, ih h.2, List.length_cons]
    · congr 1
      omega
    · intro d ds hbackslash
      exact absurd hbackslash h.1.2

namespace Language.Writes

variable {c : Char} {form : List Char}

/-- The form of a character is read as the character. -/
theorem readText (h : l.Writes c form) (rest : List Char) :
    l.readText (form ++ rest) = (l.readText rest).map fun p => (c :: p.1, p.2) := by
  cases h with
  | plain hplain hquote hbackslash =>
    rw [List.singleton_append, Language.readText, if_neg hquote, if_neg hbackslash, if_pos hplain]
  | @escape d ds hmeaning =>
    have hdrop : (d :: (ds ++ rest)).drop (ds.length + 1) = rest := by
      rw [List.drop_succ_cons]
      exact List.drop_left
    rw [List.cons_append, List.cons_append, Language.readText, if_neg (by decide), if_pos rfl,
      hmeaning]
    dsimp only
    rw [hdrop]
    rfl

/-- No quote of a form stands without a backslash. -/
theorem quotePositions (h : l.Writes c form) (i : Nat) (rest : List Char) :
    quotePositions i (form ++ rest) = quotePositions (i + form.length) rest := by
  cases h with
  | plain hplain hquote hbackslash =>
    exact quotePositions_append (List.forall_mem_singleton.2 ⟨hquote, hbackslash⟩) i rest
  | @escape d ds hmeaning hinner =>
    rw [List.cons_append, List.cons_append, Literal.quotePositions,
      quotePositions_append hinner (i + 2)]
    congr 1
    simp only [List.length_cons]
    omega

/-- A letter behind a backslash is a form of what it stands for. -/
theorem letter {d : Char} (h : l.single.lookup d = some c) (hline : ¬ IsBreak d) :
    l.Writes c ['\\', d] := by
  refine .escape (fun rest => ?_) (by simp) (List.forall_mem_singleton.2 hline)
  rw [Language.escape?, h]
  rfl

/-- What is written for a character stands in one line. -/
theorem oneLine (h : l.Writes c form) : ∀ d ∈ form, ¬ IsBreak d := by
  cases h with
  | plain _ _ _ hline => exact List.forall_mem_singleton.2 hline
  | escape _ _ hline => exact List.forall_mem_cons.2 ⟨by decide, hline⟩

end Language.Writes

/-- A text is read from the forms of its characters. -/
theorem Language.readText_flatMap (h : ∀ c, l.Writes c (write c)) (cs rest : List Char) :
    l.readText (cs.flatMap write ++ '"' :: rest) = some (cs, rest) := by
  induction cs with
  | nil => rw [List.flatMap_nil, List.nil_append, readText, if_pos rfl]
  | cons c cs ih =>
    rw [List.flatMap_cons, List.append_assoc, (h c).readText, ih]
    rfl

/-- No quote stands in what is written for characters. -/
theorem quotePositions_flatMap (h : ∀ c, l.Writes c (write c)) (cs rest : List Char) (i : Nat) :
    quotePositions i (cs.flatMap write ++ rest) =
      quotePositions (i + (cs.flatMap write).length) rest := by
  induction cs generalizing i with
  | nil => rfl
  | cons c cs ih =>
    rw [List.flatMap_cons, List.append_assoc, (h c).quotePositions, ih, List.length_append]
    congr 1
    omega

/-- A text that is written with forms which a language reads back is a literal of the language. -/
theorem Language.denotes (h : ∀ c, l.Writes c (write c)) (s : String) :
    l.Denotes (quoted write s) s := by
  have hchars : (quoted write s).toList = '"' :: (s.toList.flatMap write ++ ['"']) :=
    String.toList_ofList
  refine ⟨?_, ?_, ?_⟩
  · rw [hchars]
    intro c hc
    rw [List.mem_cons, List.mem_append, List.mem_singleton, List.mem_flatMap] at hc
    rcases hc with rfl | ⟨d, -, hc⟩ | rfl
    · decide
    · exact (h d).oneLine c hc
    · decide
  · have hlast : (quoted write s).length - 1 = 0 + 1 + (s.toList.flatMap write).length := by
      rw [← String.length_toList, hchars]
      simp only [List.length_cons, List.length_append, List.length_nil]
      omega
    rw [hchars, quotePositions, if_pos rfl, quotePositions_flatMap h, quotePositions, if_pos rfl,
      hlast, quotePositions]
    all_goals simp
  · rw [text?, hchars]
    simp only [readText_flatMap h, String.ofList_toList]

/-! ## Lists -/

/-- The parts of the literals of some texts, with commas between them. -/
def separated : List String → List Token
  | [] => []
  | [s] => [.text s]
  | s :: rest => .text s :: .mark ',' :: separated rest

/-- A quoted text is read as one token of this text. -/
theorem Language.tokens_quoted (h : ∀ c, l.Writes c (write c)) (s : String) (rest : List Char) :
    l.tokens ((quoted write s).toList ++ rest) = (l.tokens rest).map (.text s :: ·) := by
  have hread := readText_flatMap h s.toList rest
  rw [quoted, String.toList_ofList, List.cons_append, List.cons_append, List.append_assoc,
    List.singleton_append, tokens, if_neg (by decide), if_pos rfl]
  split
  next text after hsome =>
    rw [hread] at hsome
    cases hsome
    rw [String.ofList_toList]
  next hnone =>
    rw [hread] at hnone
    cases hnone

/-- A character that is neither blank nor a quote is a token of its own. -/
theorem Language.tokens_mark {c : Char} (hblank : isBlank c = false) (hquote : c ≠ '"')
    (cs : List Char) : l.tokens (c :: cs) = (l.tokens cs).map (.mark c :: ·) := by
  rw [tokens, if_neg (by simp [hblank]), if_neg hquote]

/-- The parts of texts that are joined by a separator, which is read as a comma. -/
theorem Language.tokens_intercalate (h : ∀ c, l.Writes c (write c)) {separator : String}
    (hseparator : ∀ rest, l.tokens (separator.toList ++ rest) =
      (l.tokens rest).map (.mark ',' :: ·)) (ss : List String) (rest : List Char) :
    l.tokens ((separator.intercalate (ss.map (quoted write))).toList ++ rest) =
      (l.tokens rest).map (separated ss ++ ·) := by
  induction ss with
  | nil => simp [separated]
  | cons s ss ih =>
    cases ss with
    | nil => rw [List.map_singleton, String.intercalate_singleton, tokens_quoted h]; rfl
    | cons s' ss =>
      rw [List.map_cons, String.intercalate_cons_of_ne_nil (by simp), String.toList_append,
        String.toList_append, List.append_assoc, List.append_assoc, tokens_quoted h, hseparator, ih,
        Option.map_map, Option.map_map]
      rfl

/-- The texts between commas, up to the closing bracket. -/
theorem items_separated (closing : Char) (ss : List String) :
    items closing (separated ss ++ [.mark closing]) = some (ss, ss.length - 1) := by
  induction ss with
  | nil => simp [separated, items]
  | cons s ss ih =>
    cases ss with
    | nil => simp [separated, items]
    | cons s' ss =>
      have hne : separated (s' :: ss) ++ [.mark closing] ≠ [] := by simp
      rw [separated, List.cons_append, List.cons_append, items, if_pos rfl, ih]
      · rfl
      · intro hnil
        exact hne hnil
      · simp

/-- A list of texts is read from what stands between its brackets. -/
theorem Language.list?_intercalate (h : ∀ c, l.Writes c (write c)) {separator : String}
    (hseparator : ∀ rest, l.tokens (separator.toList ++ rest) =
      (l.tokens rest).map (.mark ',' :: ·)) {opening closing : Char}
    (hopening : isBlank opening = false ∧ opening ≠ '"')
    (hclosing : isBlank closing = false ∧ closing ≠ '"') (ss : List String) :
    l.list? opening closing (String.singleton opening ++
      separator.intercalate (ss.map (quoted write)) ++ String.singleton closing) =
      some (ss, ss.length - 1) := by
  have htokens : l.tokens (String.singleton opening ++
      separator.intercalate (ss.map (quoted write)) ++ String.singleton closing).toList =
      some (.mark opening :: (separated ss ++ [.mark closing])) := by
    rw [String.toList_append, String.toList_append, String.toList_singleton,
      String.toList_singleton, List.append_assoc, List.singleton_append,
      tokens_mark hopening.1 hopening.2, tokens_intercalate h hseparator,
      tokens_mark hclosing.1 hclosing.2, tokens]
    rfl
  rw [list?, htokens]
  dsimp only
  rw [if_pos rfl, items_separated]

end

end CliGen.Literal
