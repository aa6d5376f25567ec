import CliGen.Proofs.Outcome
import CliGen.Proofs.Text.Blank
import CliGen.Proofs.Toml.Text

/-!
# Lines of a document in TOML

A document is read line by line. What a line does to the tables that are read so far does not depend
on what stands behind it (`Toml.Reads`), so the meaning of a document is that of its lines, one
after the other (`Toml.parse_lines`).

The lines here are empty ones, headers, and keys whose parts are bare, with texts and lists of texts
for values.
-/

namespace CliGen.Toml

/-! ## Blanks -/

/-- There is nothing to skip where no blank stands in front. -/
theorem skipBlanks_of_head {cs : List Char} (h : ∀ c ∈ cs.head?, isBlank c = false) :
    skipBlanks cs = cs := by
  cases cs with
  | nil => rfl
  | cons c cs => exact List.dropWhile_cons_of_neg (by simp [h c rfl])

/-- No character of a bare key is blank. -/
theorem isBlank_of_isKeyChar {c : Char} (h : isKeyChar c = true) : isBlank c = false := by
  rw [← Bool.not_eq_true]
  intro hblank
  rw [isBlank, Bool.or_eq_true, beq_iff_eq, beq_iff_eq] at hblank
  rcases hblank with rfl | rfl <;> cases h

/-! ## Keys -/

/-- No part of a key begins with this character. -/
def EndsPart (c : Char) : Prop := isKeyChar c = false ∧ c ≠ '"' ∧ c ≠ '\''

/-- A key that stands in front of some characters has ended there. -/
def EndsKey (rest : List Char) : Prop := ∀ c ∈ (skipBlanks rest).head?, EndsPart c ∧ c ≠ '.'

/-- Where a key has ended, its last part has. -/
theorem EndsKey.part {rest : List Char} (h : EndsKey rest) : ∀ c ∈ rest.head?, EndsPart c := by
  intro c hc
  by_cases hblank : isBlank c = true
  · rw [isBlank, Bool.or_eq_true, beq_iff_eq, beq_iff_eq] at hblank
    rcases hblank with rfl | rfl <;> exact ⟨rfl, by decide, by decide⟩
  · have hsame : skipBlanks rest = rest := by
      refine skipBlanks_of_head fun d hd => ?_
      rw [Option.mem_def.1 hc] at hd
      cases hd
      exact Bool.eq_false_iff.2 hblank
    exact (h c (by rwa [hsame])).1

/-- A bare part of a key is read up to its end. -/
theorem readKeyPart_bare {part rest : List Char} (hpart : ∀ c ∈ part, isKeyChar c = true)
    (hrest : ∀ c ∈ rest.head?, EndsPart c) :
    readKeyPart (part ++ rest) = if part = [] then none else some (String.ofList part, rest) := by
  have hfirst : ∀ c ∈ (part ++ rest).head?, c ≠ '"' ∧ c ≠ '\'' := by
    cases part with
    | nil => exact fun c hc => (hrest c hc).2
    | cons d part =>
      rintro c ⟨⟩
      have hd := hpart d List.mem_cons_self
      constructor <;> rintro rfl <;> cases hd
  have hnext : rest.takeWhile isKeyChar = [] ∧ rest.dropWhile isKeyChar = rest := by
    cases rest with
    | nil => exact ⟨rfl, rfl⟩
    | cons c rest =>
      have hc : ¬ isKeyChar c = true := by simp [(hrest c rfl).1]
      exact ⟨List.takeWhile_cons_of_neg hc, List.dropWhile_cons_of_neg hc⟩
  unfold readKeyPart
  split
  next heq => exact absurd rfl (hfirst '"' (by rw [heq]; rfl)).1
  next heq => exact absurd rfl (hfirst '\'' (by rw [heq]; rfl)).2
  next =>
    rw [List.takeWhile_append_of_pos hpart, List.dropWhile_append_of_pos hpart, hnext.1, hnext.2,
      List.append_nil]
    cases part <;> rfl

/-- Parts of a key with points between them. -/
def dotted (front : List (List Char)) (last : List Char) : List Char :=
  front.foldr (fun part cs => part ++ '.' :: cs) last

/-- A key of bare parts is read as its parts, unless one of them is empty or there are too many. -/
theorem readKey_dotted {front : List (List Char)} {last rest : List Char}
    (hchars : ∀ part ∈ front ++ [last], ∀ c ∈ part, isKeyChar c = true) (hrest : EndsKey rest)
    (read : List String) (fuel : Nat) :
    readKey fuel read (dotted front last ++ rest) =
      if [] ∉ front ++ [last] ∧ front.length < fuel then
        some ((read.reverse ++ front.map String.ofList, String.ofList last), skipBlanks rest)
      else none := by
  -- By induction on the parts in front of the last one, each of which takes a unit of fuel.
  induction front generalizing read fuel with
  | nil =>
    cases fuel with
    | zero => simp [readKey]
    | succ fuel =>
      rw [List.nil_append, List.forall_mem_singleton] at hchars
      rw [dotted, List.foldr_nil, readKey]
      cases last with
      | nil =>
        -- No part can be read where the key has ended.
        have hnone : readKeyPart ([] ++ skipBlanks rest) = none :=
          readKeyPart_bare (by simp) fun c hc => (hrest c hc).1
        rw [List.nil_append] at hnone
        simp [hnone]
      | cons c last =>
        have hblank : skipBlanks (c :: last ++ rest) = c :: last ++ rest := by
          refine skipBlanks_of_head ?_
          rintro d ⟨⟩
          exact isBlank_of_isKeyChar (hchars c List.mem_cons_self)
        rw [hblank, readKeyPart_bare hchars hrest.part, if_neg (by simp)]
        simp only [Option.bind_eq_bind, Option.bind_some]
        split
        -- A point behind the last part would belong to the key.
        next heq => exact absurd rfl (hrest '.' (by rw [heq]; rfl)).2
        next => simp
  | cons part front ih =>
    rw [List.cons_append, List.forall_mem_cons] at hchars
    have hsplit : dotted (part :: front) last ++ rest =
        part ++ '.' :: (dotted front last ++ rest) := by
      rw [dotted, List.foldr_cons, List.append_assoc]
      rfl
    have hpoint (more : List Char) : ∀ c ∈ ('.' :: more).head?, EndsPart c := by
      rintro c ⟨⟩
      exact ⟨rfl, by decide, by decide⟩
    cases fuel with
    | zero => simp [readKey]
    | succ fuel =>
      rw [hsplit, readKey]
      cases part with
      | nil =>
        have hnone := readKeyPart_bare hchars.1 (hpoint (dotted front last ++ rest))
        rw [List.nil_append] at hnone ⊢
        rw [skipBlanks_of_head (by rintro c ⟨⟩; rfl), hnone]
        simp
      | cons c part =>
        have hblank (more : List Char) : skipBlanks (c :: part ++ more) = c :: part ++ more := by
          refine skipBlanks_of_head ?_
          rintro d ⟨⟩
          exact isBlank_of_isKeyChar (hchars.1 c List.mem_cons_self)
        rw [hblank, readKeyPart_bare hchars.1 (hpoint _), if_neg (by simp)]
        simp only [Option.bind_eq_bind, Option.bind_some]
        rw [skipBlanks_of_head (by rintro c ⟨⟩; rfl)]
        simp only [ih hchars.2]
        simp

/-! ## Values -/

/-- The value of a quoted text. -/
def textValue (s : String) : Option Value := if delete ∈ s.toList then none else some (.str s)

/-- TOML reads no quoted text with a delete character. -/
theorem textValue_of_mem {s : String} (h : delete ∈ s.toList) : textValue s = none := if_pos h

/-- Without one a quoted text is read as itself. -/
theorem textValue_of_notMem {s : String} (h : delete ∉ s.toList) : textValue s = some (.str s) :=
  if_neg h

/-- Characters are read as a value, or refused, wherever no quote stands behind them. -/
def ReadsValue (depth : Nat) (cs : List Char) (v : Option Value) : Prop :=
  ∀ fuel rest, cs.length < fuel → rest.head? ≠ some '"' →
    readValue depth fuel (cs ++ rest) = v.map (·, rest)

/-- Characters are read as a value, or refused, at the end of a line. -/
def EndsLine (depth : Nat) (cs : List Char) (v : Option Value) : Prop :=
  ∀ fuel rest, cs.length < fuel →
    readValue depth fuel (cs ++ '\n' :: rest) = v.map (·, '\n' :: rest)

/-- What is read wherever no quote follows is read at the end of a line. -/
theorem ReadsValue.endsLine {depth : Nat} {cs : List Char} {v : Option Value}
    (h : ReadsValue depth cs v) : EndsLine depth cs v :=
  fun fuel rest hfuel => h fuel ('\n' :: rest) hfuel (by simp)

/-- A text quoted as in JSON is read by TOML, unless it has a delete character. -/
theorem readsValue_quote (depth : Nat) (s : String) :
    ReadsValue depth (Quoted.quote s).toList (textValue s) := by
  intro fuel rest hfuel hrest
  obtain ⟨fuel, rfl⟩ : ∃ n, fuel = n + 1 := ⟨fuel - 1, by omega⟩
  have htext := readText_quote s hrest
  have hchars : (Quoted.quote s).toList ++ rest =
      '"' :: (Quoted.encode s.toList ++ ['"'] ++ rest) := by
    rw [Quoted.quote, String.toList_ofList, List.cons_append, List.cons_append]
  rw [hchars] at htext ⊢
  have hscalar : readValue depth (fuel + 1) ('"' :: (Quoted.encode s.toList ++ ['"'] ++ rest)) =
      readScalar ('"' :: (Quoted.encode s.toList ++ ['"'] ++ rest)) := by
    rw [readValue]
    all_goals simp
  rw [hscalar, readScalar, htext, textValue]
  split <;> rfl

/-- A quoted text begins with its quote. -/
theorem isBlank_head_quote (s : String) :
    ∀ c ∈ (Quoted.quote s).toList.head?, isBlank c = false := by
  rw [Quoted.quote, String.toList_ofList]
  rintro c ⟨⟩
  rfl

/-- Quoted texts with commas between them. -/
def listed (ss : List String) : List Char := (", ".intercalate (ss.map Quoted.quote)).toList

/-- No gap stands in front of a comma or of a closing bracket. -/
theorem skipGap_mark {c : Char} (h : c = ',' ∨ c = ']') (rest : List Char) :
    skipGap false (c :: rest) = c :: rest := by
  rcases h with rfl | rfl <;> simp [skipGap, isBlank]

/-- A blank in front of an item is left out. -/
theorem readItems_blank (depth fuel : Nat) (items : List Value) (cs : List Char) :
    readItems depth fuel items (' ' :: cs) = readItems depth fuel items cs := by
  have hgap : skipGap false (' ' :: cs) = skipGap false cs := by simp [skipGap, isBlank]
  cases fuel with
  | zero => rw [readItems, readItems]
  | succ fuel => rw [readItems, readItems, hgap]

/-- An item that begins with a quote, in front of others or of the end of the list. -/
theorem readItems_next {depth fuel : Nat} {d : Char} {item : List Char} {v : Value}
    (hd : d = '"' ∨ d = '\'') (items : List Value) {c : Char} (hc : c = ',' ∨ c = ']')
    {rest : List Char}
    (hvalue : readValue depth fuel (d :: (item ++ c :: rest)) = some (v, c :: rest)) :
    readItems depth (fuel + 1) items (d :: (item ++ c :: rest)) =
      if c = ',' then readItems depth fuel (v :: items) rest
      else some (.list (v :: items).reverse, rest) := by
  have hgap : skipGap false (d :: (item ++ c :: rest)) = d :: (item ++ c :: rest) := by
    rcases hd with rfl | rfl <;> simp [skipGap, isBlank]
  rw [readItems, hgap]
  split
  next heq => rcases hd with rfl | rfl <;> simp at heq
  next =>
    simp only [hvalue, Option.bind_eq_bind, Option.bind_some, skipGap_mark hc]
    rcases hc with rfl | rfl <;> rfl

/-- One quoted item is read, and the list goes on behind a comma. -/
theorem readItems_quote {s : String} (h : delete ∉ s.toList) (depth : Nat) (items : List Value)
    {c : Char} (hc : c = ',' ∨ c = ']') (rest : List Char) {fuel : Nat}
    (hfuel : (Quoted.quote s).toList.length < fuel) :
    readItems depth (fuel + 1) items ((Quoted.quote s).toList ++ c :: rest) =
      if c = ',' then readItems depth fuel (.str s :: items) rest
      else some (.list (.str s :: items).reverse, rest) := by
  have hvalue : readValue depth fuel ((Quoted.quote s).toList ++ c :: rest) =
      some (.str s, c :: rest) := by
    rw [readsValue_quote depth s fuel (c :: rest) hfuel (by rcases hc with rfl | rfl <;> simp),
      textValue_of_notMem h]
    rfl
  rw [Quoted.quote, String.toList_ofList] at hvalue ⊢
  exact readItems_next (.inl rfl) items hc hvalue

/-- Quoted items in a row are read back, up to the closing bracket. -/
theorem readItems_listed {ss : List String} (h : ∀ s ∈ ss, delete ∉ s.toList) (depth : Nat)
    (items : List Value) (rest : List Char) {fuel : Nat} (hfuel : (listed ss).length < fuel) :
    readItems depth (fuel + 1) items (listed ss ++ ']' :: rest) =
      some (.list (items.reverse ++ ss.map .str), rest) := by
  induction ss generalizing items fuel with
  | nil =>
    have hempty : listed [] = [] := rfl
    rw [hempty, List.nil_append, readItems]
    simp [skipGap, isBlank]
  | cons s ss ih =>
    rw [List.forall_mem_cons] at h
    cases ss with
    | nil =>
      have hsingle : listed [s] = (Quoted.quote s).toList := by
        rw [listed, List.map_singleton, String.intercalate_singleton]
      rw [hsingle] at hfuel ⊢
      rw [readItems_quote h.1 depth items (.inr rfl) rest hfuel, if_neg (by decide)]
      simp
    | cons s' ss =>
      -- Another item follows, behind a comma and a blank.
      have hsplit : listed (s :: s' :: ss) =
          (Quoted.quote s).toList ++ ',' :: ' ' :: listed (s' :: ss) := by
        rw [listed, List.map_cons, String.intercalate_cons_of_ne_nil (by simp),
          String.toList_append, String.toList_append, List.append_assoc]
        rfl
      rw [hsplit] at hfuel ⊢
      simp only [List.length_append, List.length_cons] at hfuel
      obtain ⟨fuel, rfl⟩ : ∃ n, fuel = n + 1 := ⟨fuel - 1, by omega⟩
      rw [List.append_assoc, List.cons_append, List.cons_append,
        readItems_quote h.1 depth items (.inl rfl) _ (by omega), if_pos rfl, readItems_blank,
        ih h.2 (.str s :: items) (by omega)]
      simp

/-- A list of texts is read from what stands between its brackets. -/
theorem readsValue_listed {ss : List String} (h : ∀ s ∈ ss, delete ∉ s.toList) (depth : Nat) :
    ReadsValue (depth + 1) ('[' :: (listed ss ++ [']'])) (some (.list (ss.map .str))) := by
  intro fuel rest hfuel _
  rw [List.length_cons, List.length_append, List.length_singleton] at hfuel
  obtain ⟨fuel, rfl⟩ : ∃ n, fuel = n + 2 := ⟨fuel - 2, by omega⟩
  have hshort : (listed ss).length < fuel := by omega
  have hitems := readItems_listed h depth [] rest hshort
  rw [List.cons_append, List.append_assoc, List.singleton_append, readValue, hitems]
  rfl

/-- Parts that a bare key can have. -/
structure IsBareKey (front : List (List Char)) (last : List Char) : Prop where
  chars : ∀ part ∈ front ++ [last], ∀ c ∈ part, isKeyChar c = true
  parts : [] ∉ front ++ [last]
  length : front.length < depthLimit - 1

/-- A bare key is read to its end, part by part. -/
theorem IsBareKey.readKey {front : List (List Char)} {last rest : List Char}
    (h : IsBareKey front last) (hrest : EndsKey rest) :
    readKey (depthLimit - 1) [] (dotted front last ++ rest) =
      some ((front.map String.ofList, String.ofList last), skipBlanks rest) := by
  rw [readKey_dotted h.chars hrest, if_pos ⟨h.parts, h.length⟩, List.reverse_nil, List.nil_append]

/-- Whether parts make a bare key can be computed. -/
theorem IsBareKey.of_all {front : List (List Char)} {last : List Char}
    (h : (front ++ [last]).all (fun part => !part.isEmpty && part.all isKeyChar) = true)
    (hlength : front.length < depthLimit - 1) : IsBareKey front last := by
  simp only [List.all_eq_true, Bool.and_eq_true, Bool.not_eq_true'] at h
  exact ⟨fun part hpart => (h part hpart).2, fun hnil => absurd (h [] hnil).1 (by simp), hlength⟩

/-- A key of one part. -/
theorem IsBareKey.single (key : String)
    (h : (!key.toList.isEmpty && key.toList.all isKeyChar) = true) : IsBareKey [] key.toList :=
  .of_all (by rw [List.nil_append, List.all_cons, h]; rfl) (by decide)

/-- Characters of a bare key are cut at the points. There is one part unless there is a point. -/
theorem exists_dotted {cs : List Char} (h : ∀ c ∈ cs, isKeyChar c = true ∨ c = '.') :
    ∃ front last, dotted front last = cs ∧
      (∀ part ∈ front ++ [last], ∀ c ∈ part, isKeyChar c = true) ∧ (front = [] ↔ '.' ∉ cs) := by
  induction cs with
  | nil => exact ⟨[], [], rfl, by simp, by simp⟩
  | cons c cs ih =>
    rw [List.forall_mem_cons] at h
    obtain ⟨front, last, hcs, hchars, hpoint⟩ := ih h.2
    by_cases hc : c = '.'
    · subst hc
      refine ⟨[] :: front, last, by rw [← hcs]; rfl, ?_, by simp⟩
      exact List.forall_mem_cons.2 ⟨by simp, hchars⟩
    · have hkey : isKeyChar c = true := h.1.resolve_right hc
      cases front with
      | nil =>
        rw [List.nil_append, List.forall_mem_singleton] at hchars
        refine ⟨[], c :: last, by rw [← hcs]; rfl, ?_, by simpa [Ne.symm hc] using hpoint⟩
        exact List.forall_mem_singleton.2 (List.forall_mem_cons.2 ⟨hkey, hchars⟩)
      | cons part front =>
        rw [List.cons_append, List.forall_mem_cons] at hchars
        refine ⟨(c :: part) :: front, last, by rw [← hcs]; rfl, ?_,
          by simpa [Ne.symm hc] using hpoint⟩
        exact List.forall_mem_cons.2 ⟨List.forall_mem_cons.2 ⟨hkey, hchars.1⟩, hchars.2⟩

/-- What a key begins with, if there is anything of it. -/
theorem exists_dotted_eq_cons {front : List (List Char)} {last : List Char}
    (hchars : ∀ part ∈ front ++ [last], ∀ c ∈ part, isKeyChar c = true)
    (hne : dotted front last ≠ []) :
    ∃ c cs, dotted front last = c :: cs ∧ (isKeyChar c = true ∨ c = '.') := by
  cases front with
  | nil =>
    obtain ⟨c, cs, hcons⟩ := List.exists_cons_of_ne_nil hne
    have hlast : last = c :: cs := hcons
    exact ⟨c, cs, hcons, .inl (hchars last (by simp) c (by simp [hlast]))⟩
  | cons part front =>
    cases part with
    | nil => exact ⟨'.', _, rfl, .inr rfl⟩
    | cons c part => exact ⟨c, _, rfl, .inl (hchars (c :: part) (by simp) c (by simp))⟩

/-- A line that begins in this way is none of the other kinds. -/
theorem ne_of_begins {c : Char} (h : isKeyChar c = true ∨ c = '.') :
    c ≠ '#' ∧ c ≠ '[' ∧ c ≠ '\n' ∧ c ≠ '\r' ∧ isBlank c = false := by
  rcases h with h | rfl
  · refine ⟨?_, ?_, ?_, ?_, isBlank_of_isKeyChar h⟩ <;> rintro rfl <;> cases h
  · decide

/-- A bare key is not empty. -/
theorem IsBareKey.dotted_ne_nil {front : List (List Char)} {last : List Char}
    (h : IsBareKey front last) : dotted front last ≠ [] := by
  cases front with
  | nil => exact fun hnil => h.parts (by simp [← hnil, dotted])
  | cons part front => simp [dotted]

/-! ## Lines -/

/-- What a line does to a document, whatever stands behind it. -/
def Reads (line : List Char) (step : Draft → Option Draft) : Prop :=
  ∀ d fuel rest, readDocument (fuel + 1) d (line ++ '\n' :: rest) =
    (step d).bind fun d => readDocument fuel d rest

/-- An empty line does nothing. -/
theorem reads_empty : Reads [] some := fun _ _ _ => rfl

/-- A line that begins with a bracket is a header. -/
theorem readDocument_header (fuel : Nat) (d : Draft) (rest : List Char) :
    readDocument (fuel + 1) d ('[' :: rest) =
      (readHeader d rest).bind fun p => readDocument fuel p.1 p.2 := by
  have hblank : skipBlanks ('[' :: rest) = '[' :: rest := rfl
  rw [readDocument, hblank]
  cases hread : readHeader d rest <;> simp [hread]

/-- A line that begins with a key defines a value. -/
theorem readDocument_pair {c : Char} (h : isKeyChar c = true ∨ c = '.') (fuel : Nat) (d : Draft)
    (rest : List Char) : readDocument (fuel + 1) d (c :: rest) =
      (readPair d (c :: rest)).bind fun p => readDocument fuel p.1 p.2 := by
  obtain ⟨hcomment, hheader, hfeed, hreturn, hblank⟩ := ne_of_begins h
  have hline : lineEnd? (c :: rest) = none := by
    rw [lineEnd?.eq_def]
    split
    next heq => exact absurd (List.cons.inj heq).1 hfeed
    next heq => exact absurd (List.cons.inj heq).1 hreturn
    next => rfl
  rw [readDocument, skipBlanks_of_head (by rintro d ⟨⟩; exact hblank)]
  split
  next heq => cases heq
  next heq => exact absurd (List.cons.inj heq).1 hcomment
  next heq => exact absurd (List.cons.inj heq).1 hheader
  next =>
    rw [hline]
    cases readPair d (c :: rest) <;> rfl

section

variable {front : List (List Char)} {last : List Char}

/-- A header opens a table. -/
theorem reads_header (h : IsBareKey front last) :
    Reads ('[' :: (dotted front last ++ [']']))
      (Draft.openTable ((front ++ [last]).map String.ofList)) := by
  intro d fuel rest
  have hkey := h.readKey (show EndsKey (']' :: '\n' :: rest) by
    rintro c ⟨⟩
    exact ⟨⟨rfl, by decide, by decide⟩, by decide⟩)
  have hheader : readHeader d (dotted front last ++ ']' :: '\n' :: rest) =
      (d.openTable ((front ++ [last]).map String.ofList)).map (·, rest) := by
    obtain ⟨c, cs, hcons, hbegins⟩ := exists_dotted_eq_cons h.chars h.dotted_ne_nil
    rw [readHeader.eq_def]
    split
    -- A second bracket would begin a listed table, but no key begins with one.
    next heq =>
      rw [hcons] at heq
      cases heq
      exact absurd rfl (ne_of_begins hbegins).2.1
    next =>
      have hblank : skipBlanks (']' :: '\n' :: rest) = ']' :: '\n' :: rest := rfl
      have hend : endLine ('\n' :: rest) = some rest := rfl
      rw [hkey, hblank]
      simp only [Option.bind_eq_bind, Option.bind_some, hend, List.map_append, List.map_cons,
        List.map_nil]
      cases d.openTable _ <;> rfl
  rw [List.cons_append, List.append_assoc, List.singleton_append, readDocument_header, hheader,
    Option.bind_map]
  rfl

/-- A header in two brackets opens the next table of a list. -/
theorem reads_listed (h : IsBareKey front last) :
    Reads ('[' :: '[' :: (dotted front last ++ [']', ']']))
      (Draft.openListed ((front ++ [last]).map String.ofList)) := by
  intro d fuel rest
  have hkey := h.readKey (show EndsKey (']' :: ']' :: '\n' :: rest) by
    rintro c ⟨⟩
    exact ⟨⟨rfl, by decide, by decide⟩, by decide⟩)
  have hheader : readHeader d ('[' :: (dotted front last ++ ']' :: ']' :: '\n' :: rest)) =
      (d.openListed ((front ++ [last]).map String.ofList)).map (·, rest) := by
    have hblank : skipBlanks (']' :: ']' :: '\n' :: rest) = ']' :: ']' :: '\n' :: rest := rfl
    have hend : endLine ('\n' :: rest) = some rest := rfl
    rw [readHeader, hkey, hblank]
    simp only [Option.bind_eq_bind, Option.bind_some, hend, List.map_append, List.map_cons,
      List.map_nil]
    cases d.openListed _ <;> rfl
  rw [List.cons_append, List.cons_append, List.append_assoc, List.cons_append,
    List.singleton_append, readDocument_header, hheader, Option.bind_map]
  rfl

/-- A key in front of its value. The key may have empty parts or too many; then the line is
refused. -/
theorem reads_pair (hchars : ∀ part ∈ front ++ [last], ∀ c ∈ part, isKeyChar c = true)
    (hne : dotted front last ≠ []) {value : List Char} {v : Option Value}
    (hfirst : ∀ c ∈ value.head?, isBlank c = false)
    (hvalue : EndsLine (depthLimit - 1) value v) :
    Reads (dotted front last ++ ' ' :: '=' :: ' ' :: value) fun d =>
      if [] ∉ front ++ [last] ∧ front.length < depthLimit - 1 then
        v.bind fun v => d.define (front.map String.ofList) (String.ofList last) v
      else none := by
  intro d fuel rest
  have hkey := readKey_dotted hchars (show EndsKey (' ' :: '=' :: ' ' :: (value ++ '\n' :: rest)) by
    rintro c ⟨⟩
    exact ⟨⟨rfl, by decide, by decide⟩, by decide⟩) [] (depthLimit - 1)
  have hblank : skipBlanks (' ' :: (value ++ '\n' :: rest)) = value ++ '\n' :: rest := by
    have hskip : skipBlanks (' ' :: (value ++ '\n' :: rest)) =
        skipBlanks (value ++ '\n' :: rest) := rfl
    rw [hskip]
    refine skipBlanks_of_head fun c hc => ?_
    cases value with
    | nil => cases hc; rfl
    | cons e value => exact hfirst c hc
  have hread := hvalue ((' ' :: (value ++ '\n' :: rest)).length + 1) rest
    (by rw [List.length_cons, List.length_append]; omega)
  -- The pair is read up to the end of the line, or refused for its key or its value.
  have hpair : readPair d (dotted front last ++ ' ' :: '=' :: ' ' :: (value ++ '\n' :: rest)) =
      (if [] ∉ front ++ [last] ∧ front.length < depthLimit - 1 then
        v.bind fun v => d.define (front.map String.ofList) (String.ofList last) v
      else none).map (·, rest) := by
    rw [readPair, hkey]
    split
    next =>
      have hskip : skipBlanks (' ' :: '=' :: ' ' :: (value ++ '\n' :: rest)) =
          '=' :: ' ' :: (value ++ '\n' :: rest) := rfl
      have hexpect : DateTime.expect '=' ('=' :: ' ' :: (value ++ '\n' :: rest)) =
          some (' ' :: (value ++ '\n' :: rest)) := rfl
      have hend : endLine ('\n' :: rest) = some rest := rfl
      rw [hskip]
      simp only [Option.bind_eq_bind, Option.bind_some, hexpect, hblank, hread]
      cases v with
      | none => rfl
      | some v =>
        simp only [Option.map_some, Option.bind_some, hend, List.reverse_nil, List.nil_append]
        cases d.define _ _ v <;> rfl
    next => rfl
  -- A line that begins with a key is neither a header nor a comment.
  obtain ⟨c, cs, hcons, hbegins⟩ := exists_dotted_eq_cons hchars hne
  have hline : dotted front last ++ ' ' :: '=' :: ' ' :: value ++ '\n' :: rest =
      c :: (cs ++ ' ' :: '=' :: ' ' :: (value ++ '\n' :: rest)) := by
    rw [hcons, List.append_assoc]
    rfl
  rw [hcons, List.cons_append] at hpair
  rw [hline, readDocument_pair hbegins, hpair, Option.bind_map]
  rfl

/-- A line with a bare key and a value defines the value in the table that is open. -/
theorem IsBareKey.reads (h : IsBareKey front last) {value : List Char} {v : Option Value}
    (hfirst : ∀ c ∈ value.head?, isBlank c = false)
    (hvalue : EndsLine (depthLimit - 1) value v) :
    Reads (dotted front last ++ ' ' :: '=' :: ' ' :: value) fun d =>
      v.bind fun v => d.define (front.map String.ofList) (String.ofList last) v := by
  have hpair := reads_pair h.chars h.dotted_ne_nil hfirst hvalue
  simp only [if_pos (And.intro h.parts h.length)] at hpair
  exact hpair

end

/-- A key of one part in front of a text. -/
theorem reads_text {line key s : String} (h : IsBareKey [] key.toList)
    (hline : line = key ++ " = " ++ Quoted.quote s) :
    Reads line.toList fun d => (textValue s).bind fun v => d.define [] key v := by
  have hchars : line.toList =
      dotted [] key.toList ++ ' ' :: '=' :: ' ' :: (Quoted.quote s).toList := by
    rw [hline, String.toList_append, String.toList_append, List.append_assoc]
    rfl
  have hreads := h.reads (isBlank_head_quote s) (readsValue_quote _ s).endsLine
  rwa [String.ofList_toList, ← hchars] at hreads

/-- A key of one part in front of a list of texts. -/
theorem reads_texts {line key : String} (ss : List String) (h : IsBareKey [] key.toList)
    (hline : line = key ++ " = [" ++ ", ".intercalate (ss.map Quoted.quote) ++ "]")
    (hss : ∀ s ∈ ss, delete ∉ s.toList) :
    Reads line.toList (Draft.define [] key (.list (ss.map .str))) := by
  have hchars : line.toList =
      dotted [] key.toList ++ ' ' :: '=' :: ' ' :: '[' :: (listed ss ++ [']']) := by
    rw [hline, String.toList_append, String.toList_append, String.toList_append,
      List.append_assoc, List.append_assoc]
    rfl
  have hreads := h.reads (by rintro c ⟨⟩; rfl) (readsValue_listed hss _).endsLine
  rwa [String.ofList_toList, ← hchars] at hreads

section

variable {front : List (List Char)} {last : List Char}

/-! ## Inline tables -/

/-- Blanks in front of a key are skipped. -/
theorem readKey_blank (fuel : Nat) (read : List String) (cs : List Char) :
    readKey fuel read (' ' :: cs) = readKey fuel read cs := by
  cases fuel <;> rfl

/-- Blanks in front of the pairs of an inline table are skipped. -/
theorem readPairs_blank (depth fuel : Nat) (entries : Entries) (cs : List Char) :
    readPairs depth fuel entries (' ' :: cs) = readPairs depth fuel entries cs := by
  cases fuel with
  | zero => rw [readPairs, readPairs]
  | succ fuel => rw [readPairs, readPairs, readKey_blank]

/-- An inline table begins with a brace and goes on with a key. -/
theorem readValue_table {c : Char} (h : isKeyChar c = true) (depth fuel : Nat) (cs : List Char) :
    readValue (depth + 1) (fuel + 1) ('\x7b' :: ' ' :: c :: cs) =
      readPairs depth fuel [] (c :: cs) := by
  have hskip : skipBlanks (' ' :: c :: cs) = c :: cs := by
    have hfirst : ∀ d ∈ (c :: cs).head?, isBlank d = false := by
      rintro d ⟨⟩
      exact isBlank_of_isKeyChar h
    exact skipBlanks_of_head hfirst
  rw [readValue, hskip]
  split
  next heq =>
    cases heq
    cases h
  next => rfl

/-- One key of an inline table and its value, in front of others or of the end of the table. -/
theorem readPairs_next {depth : Nat} {entries entries' : Entries} {value rest rest' : List Char}
    {v : Value} (h : IsBareKey front last) (hfirst : ∀ c ∈ value.head?, isBlank c = false)
    (hne : value ≠ []) (hvalue : ReadsValue depth value (some v))
    (hdefine : entries.define (front.map String.ofList) (String.ofList last) v = some entries')
    {c : Char} (hc : c = ',' ∨ c = '\x7d') (hrest : skipBlanks rest = c :: rest') {fuel : Nat}
    (hfuel : value.length < fuel) :
    readPairs depth (fuel + 1) entries (dotted front last ++ ' ' :: '=' :: ' ' :: (value ++ rest)) =
      if c = ',' then readPairs depth fuel entries' rest'
      else some (.object (Node.toFields entries'), rest') := by
  have hkey := h.readKey (show EndsKey (' ' :: '=' :: ' ' :: (value ++ rest)) by
    rintro c ⟨⟩
    exact ⟨⟨rfl, by decide, by decide⟩, by decide⟩)
  have hskip : skipBlanks (' ' :: '=' :: ' ' :: (value ++ rest)) = '=' :: ' ' :: (value ++ rest) :=
    rfl
  have hexpect : DateTime.expect '=' ('=' :: ' ' :: (value ++ rest)) =
      some (' ' :: (value ++ rest)) := rfl
  have hblank : skipBlanks (' ' :: (value ++ rest)) = value ++ rest := by
    have hone : skipBlanks (' ' :: (value ++ rest)) = skipBlanks (value ++ rest) := rfl
    rw [hone]
    refine skipBlanks_of_head fun c hc => hfirst c ?_
    rwa [List.head?_append_of_ne_nil _ hne] at hc
  have hquote : rest.head? ≠ some '"' := by
    rintro heq
    obtain ⟨rest, rfl⟩ := List.head?_eq_some_iff.1 heq
    rw [skipBlanks_of_head (by rintro d ⟨⟩; rfl)] at hrest
    rcases hc with rfl | rfl <;> cases hrest
  rw [readPairs, hkey, hskip]
  simp only [Option.bind_eq_bind, Option.bind_some, hexpect, hblank, hvalue fuel rest hfuel hquote,
    Option.map_some, hdefine, hrest]
  rcases hc with rfl | rfl <;> rfl

/-- A key of one part in front of further keys. -/
theorem readPairs_comma {depth fuel : Nat} {key : String} {entries entries' : Entries}
    {value : List Char} {v : Value} (h : IsBareKey [] key.toList)
    (hfirst : ∀ c ∈ value.head?, isBlank c = false) (hne : value ≠ [])
    (hvalue : ReadsValue depth value (some v))
    (hdefine : entries.define [] key v = some entries') (hfuel : value.length < fuel)
    (rest : List Char) :
    readPairs depth (fuel + 1) entries (dotted [] key.toList ++ ' ' :: '=' :: ' ' ::
      (value ++ ',' :: rest)) = readPairs depth fuel entries' rest := by
  rw [← String.ofList_toList (s := key)] at hdefine
  have hnext := readPairs_next h hfirst hne hvalue hdefine (.inl rfl)
    (show skipBlanks (',' :: rest) = ',' :: rest from rfl) hfuel
  rwa [if_pos rfl] at hnext

/-- The last key, in front of the end of the table. -/
theorem readPairs_close {depth fuel : Nat} {key : String} {entries entries' : Entries}
    {value : List Char} {v : Value} (h : IsBareKey [] key.toList)
    (hfirst : ∀ c ∈ value.head?, isBlank c = false) (hne : value ≠ [])
    (hvalue : ReadsValue depth value (some v))
    (hdefine : entries.define [] key v = some entries') (hfuel : value.length < fuel)
    (rest : List Char) :
    readPairs depth (fuel + 1) entries (dotted [] key.toList ++ ' ' :: '=' :: ' ' ::
      (value ++ ' ' :: '\x7d' :: rest)) = some (.object (Node.toFields entries'), rest) := by
  rw [← String.ofList_toList (s := key)] at hdefine
  have hnext := readPairs_next h hfirst hne hvalue hdefine (.inr rfl)
    (show skipBlanks (' ' :: '\x7d' :: rest) = '\x7d' :: rest from rfl) hfuel
  rwa [if_neg (by decide)] at hnext

end

/-! ## Documents -/

/-- A document is read line by line. -/
theorem readDocument_lines {lines : List (List Char)} {steps : List (Draft → Option Draft)}
    (h : List.Forall₂ Reads lines steps) (d : Draft) {fuel : Nat} (hfuel : lines.length < fuel) :
    readDocument fuel d (lines.flatMap (· ++ ['\n'])) =
      steps.foldlM (fun d step => step d) d := by
  induction h generalizing d fuel with
  | nil =>
    obtain ⟨fuel, rfl⟩ : ∃ n, fuel = n + 1 := ⟨fuel - 1, by rw [List.length_nil] at hfuel; omega⟩
    rfl
  | @cons line step lines steps hline _ ih =>
    rw [List.length_cons] at hfuel
    obtain ⟨fuel, rfl⟩ : ∃ n, fuel = n + 1 := ⟨fuel - 1, by omega⟩
    rw [List.flatMap_cons, List.append_assoc, List.singleton_append, hline, List.foldlM_cons]
    refine congrArg _ (funext fun d => ?_)
    exact ih d (by omega)

/-- The whole text of a document means what its lines do, one after the other. -/
theorem parse_lines {lines : List String} {steps : List (Draft → Option Draft)}
    (h : List.Forall₂ (fun line step => Reads line.toList step) lines steps)
    (hmark : ∀ line ∈ lines.head?, line.toList.head? ≠ some '\uFEFF') :
    parse (String.join (lines.map (· ++ "\n"))) =
      (steps.foldlM (fun d (step : Draft → Option Draft) => step d) Draft.empty).bind
        Draft.finish := by
  have hchars : (String.join (lines.map (· ++ "\n"))).toList =
      (lines.map String.toList).flatMap (· ++ ['\n']) := by
    rw [String.toList_join, List.flatMap_map, List.flatMap_map]
    refine List.flatMap_congr fun line _ => ?_
    rw [String.toList_append]
    rfl
  -- A line has a character at least, its end, so the fuel lasts for all of them.
  have hlength (lines : List String) :
      lines.length ≤ ((lines.map String.toList).flatMap (· ++ ['\n'])).length := by
    induction lines with
    | nil => exact Nat.le_refl 0
    | cons line lines ih =>
      simp only [List.map_cons, List.flatMap_cons, List.length_append, List.length_cons,
        List.length_nil]
      omega
  have hread := readDocument_lines (List.forall₂_map_left_iff.2 h) Draft.empty
    (show (lines.map String.toList).length <
      ((lines.map String.toList).flatMap (· ++ ['\n'])).length + 1 by
        rw [List.length_map]
        exact Nat.lt_succ_of_le (hlength lines))
  rw [parse, hchars]
  split
  -- No mark in front of the first line is dropped.
  next heq =>
    exfalso
    cases lines with
    | nil => cases heq
    | cons line lines =>
      rw [List.map_cons, List.flatMap_cons] at heq
      cases hline : line.toList with
      | nil =>
        rw [hline] at heq
        cases heq
      | cons c cs =>
        rw [hline] at heq
        cases heq
        exact hmark line rfl (by rw [hline]; rfl)
  next => rw [hread]

end CliGen.Toml
