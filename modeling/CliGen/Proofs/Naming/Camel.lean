import CliGen.Proofs.Naming.Words

/-!
# Names in camel case

Camel case marks the beginning of a word by a capital, and a digit has none. So the camel case of a
name tells its words up to digits: a word that begins with a digit cannot be told from a
continuation of the word in front of it (`Naming.camel_eq_iff`).

Camel case can also be written from one character to the next (`Naming.camelFrom`), for any rule on
what separates words. This compares the camel case of a name with one that cuts at dashes only and
leaves all letters as they are (`Naming.camelFrom_eq_iff`).
-/

namespace CliGen.Naming

/-! ## Words that capitals tell apart -/

/-- Whether a text begins with a digit. -/
def beginsWithDigit (s : String) : Bool := s.toList.head?.any Char.isDigit

/-- Words, with each one that begins with a digit joined to the word in front of it. -/
def joinDigits (w : String) : List String → List String
  | [] => [w]
  | v :: vs => if beginsWithDigit v then joinDigits (w ++ v) vs else w :: joinDigits v vs

/-- The words of a name that capitals tell apart. -/
def capitalWords (name : String) : List String :=
  match words name with
  | [] => []
  | w :: ws => joinDigits w ws

/-- The characters of words in camel case. -/
def camelChars (w : String) (ws : List String) : List Char :=
  w.toList ++ ws.flatMap (Text.capitalize ·.toList)

/-- The characters of a name in camel case, by its words. -/
theorem toList_camel {name w : String} {ws : List String} (h : words name = w :: ws) :
    (camel name).toList = camelChars w ws := by
  rw [camel, h]
  dsimp only
  rw [String.join_cons, String.toList_append, toList_pascal, camelChars]

/-- Capitalizing a text changes its first word alone. -/
theorem capitalize_append {cs : List Char} (h : cs ≠ []) (ds : List Char) :
    Text.capitalize (cs ++ ds) = Text.capitalize cs ++ ds := by
  obtain ⟨c, cs, rfl⟩ := List.exists_cons_of_ne_nil h
  rw [List.cons_append, Text.capitalize, Text.capitalize, List.append_assoc]

/-- A word has characters. -/
theorem IsWord.toList_ne_nil {w : String} (hw : IsWord w) : w.toList ≠ [] := by
  intro hnil
  exact hw.ne_empty (String.toList_eq_nil_iff.1 hnil)

/-- Words put together make a word. -/
theorem IsWord.append {w v : String} (hw : IsWord w) (hv : IsWord v) : IsWord (w ++ v) := by
  refine ⟨fun hempty => ?_, fun c hc => ?_⟩
  · have hchars := congrArg String.toList hempty
    rw [String.toList_append] at hchars
    exact hw.toList_ne_nil (List.append_eq_nil_iff.1 hchars).1
  · rw [String.toList_append, List.mem_append] at hc
    exact hc.elim (hw.small c) (hv.small c)

/-- A word that begins with a digit is its own capital form. -/
theorem IsWord.capitalize_of_digit {w : String} (hw : IsWord w) (h : beginsWithDigit w = true) :
    Text.capitalize w.toList = w.toList := by
  obtain ⟨c, cs, hchars, hcapital⟩ := hw.capitalize_toList
  have hdigit : c.isDigit = true := by simpa [beginsWithDigit, hchars] using h
  rw [hcapital, hchars, toUpper_of_isDigit hdigit]

/-- Joining digits keeps the camel case, and leaves no word but the first that begins with a
digit. -/
theorem joinDigits_eq_cons {w : String} {ws : List String} (hw : IsWord w)
    (hws : ∀ u ∈ ws, IsWord u) : ∃ v vs, joinDigits w ws = v :: vs ∧ IsWord v ∧
      (∀ u ∈ vs, IsWord u ∧ beginsWithDigit u = false) ∧ v.toList.head? = w.toList.head? ∧
      camelChars v vs = camelChars w ws := by
  induction ws generalizing w with
  | nil => exact ⟨w, [], rfl, hw, by simp, rfl, rfl⟩
  | cons u us ih =>
    rw [List.forall_mem_cons] at hws
    rw [joinDigits, camelChars, List.flatMap_cons]
    by_cases hdigit : beginsWithDigit u = true
    · rw [if_pos hdigit, hws.1.capitalize_of_digit hdigit]
      obtain ⟨v, vs, hjoin, hv, hvs, hhead, hchars⟩ := ih (hw.append hws.1) hws.2
      refine ⟨v, vs, hjoin, hv, hvs, ?_, ?_⟩
      · rw [hhead, String.toList_append, List.head?_append_of_ne_nil _ hw.toList_ne_nil]
      · rw [hchars, camelChars, String.toList_append, List.append_assoc]
    · rw [if_neg hdigit]
      obtain ⟨v, vs, hjoin, hv, hvs, hhead, hchars⟩ := ih hws.1 hws.2
      have hletter : beginsWithDigit v = false := by
        rw [beginsWithDigit, hhead]
        exact Bool.eq_false_iff.2 hdigit
      refine ⟨w, v :: vs, by rw [hjoin], hw, List.forall_mem_cons.2 ⟨⟨hv, hletter⟩, hvs⟩, rfl, ?_⟩
      -- Both sides are the capital forms of the two texts that are known to be the same.
      have hcapital := congrArg Text.capitalize hchars
      rw [camelChars, camelChars, capitalize_append hv.toList_ne_nil,
        capitalize_append hws.1.toList_ne_nil] at hcapital
      rw [camelChars, List.flatMap_cons, hcapital]

/-- Words that begin with letters, but for the first, can be read back from their camel case. -/
theorem camelChars_inj {w v : String} {ws vs : List String} (hw : IsWord w) (hv : IsWord v)
    (hws : ∀ u ∈ ws, IsWord u ∧ beginsWithDigit u = false)
    (hvs : ∀ u ∈ vs, IsWord u ∧ beginsWithDigit u = false)
    (h : camelChars w ws = camelChars v vs) : w :: ws = v :: vs := by
  have hcut : ∀ {u : String} {us : List String}, IsWord u →
      (∀ x ∈ us, IsWord x ∧ beginsWithDigit x = false) →
      (camelChars u us).splitBy (fun _ c => !c.isUpper) =
        u.toList :: us.map (Text.capitalize ·.toList) := by
    intro u us hu hus
    rw [camelChars, List.flatMap_def]
    refine splitBy_capitals hu.toList_ne_nil (fun c hc => ?_) fun m hm => ?_
    · exact (of_small (hu.small c (List.mem_of_mem_tail hc))).2.1
    · obtain ⟨x, hx, rfl⟩ := List.mem_map.1 hm
      refine (hus x hx).1.capital_of_letter fun c hc => ?_
      have hletter := (hus x hx).2
      rw [beginsWithDigit, Option.mem_def.1 hc] at hletter
      exact hletter
  have hparts := hcut hw hws
  rw [h, hcut hv hvs, List.cons.injEq] at hparts
  obtain ⟨hfirst, hrest⟩ := hparts
  rw [String.toList_inj.1 hfirst,
    map_capitalize_inj (fun u hu => (hws u hu).1) (fun u hu => (hvs u hu).1) hrest.symm]

/-- Two names have the same camel case exactly where capitals tell the same words apart. -/
theorem camel_eq_iff {a b : String} (ha : Field.isName a = true) (hb : Field.isName b = true) :
    camel a = camel b ↔ capitalWords a = capitalWords b := by
  have hcamel : ∀ {name : String}, Field.isName name = true → ∃ v vs,
      capitalWords name = v :: vs ∧ IsWord v ∧
        (∀ u ∈ vs, IsWord u ∧ beginsWithDigit u = false) ∧
        (camel name).toList = camelChars v vs := by
    intro name hname
    obtain ⟨w, ws, hwords⟩ := List.exists_cons_of_ne_nil (words_ne_nil hname)
    have hall : ∀ u ∈ w :: ws, IsWord u := fun u hu => isWord_of_mem_words hname (hwords ▸ hu)
    rw [List.forall_mem_cons] at hall
    obtain ⟨v, vs, hjoin, hv, hvs, -, hchars⟩ := joinDigits_eq_cons hall.1 hall.2
    refine ⟨v, vs, ?_, hv, hvs, by rw [toList_camel hwords, hchars]⟩
    rw [capitalWords, hwords]
    exact hjoin
  obtain ⟨w, ws, hwa, hw, hws, hca⟩ := hcamel ha
  obtain ⟨v, vs, hvb, hv, hvs, hcb⟩ := hcamel hb
  rw [hwa, hvb, ← String.toList_inj, hca, hcb]
  constructor
  · exact camelChars_inj hw hv hws hvs
  · rintro ⟨⟩
    rfl

/-- Where no word but the first begins with a digit, capitals tell all words apart. -/
theorem capitalWords_eq_words {name : String}
    (h : ∀ w ∈ (words name).tail, beginsWithDigit w = false) :
    capitalWords name = words name := by
  rw [capitalWords]
  cases hwords : words name with
  | nil => rfl
  | cons w ws =>
    rw [hwords, List.tail_cons] at h
    dsimp only
    clear hwords
    induction ws generalizing w with
    | nil => rfl
    | cons v vs ih =>
      rw [List.forall_mem_cons] at h
      rw [joinDigits, if_neg (by rw [h.1]; decide), ih v h.2]

/-! ## From one character to the next -/

/-- Camel case character by character: separators are left out, and a character behind one gets its
capital form. -/
def camelFrom (separates : Char → Bool) (form : Char → Char) : Bool → List Char → List Char
  | _, [] => []
  | begins, c :: cs =>
    if separates c then camelFrom separates form true cs
    else (if begins then Text.upperChar (form c) else [form c]) ++
      camelFrom separates form false cs

variable {separates : Char → Bool} {form : Char → Char}

/-- It is the camel case of the pieces between separators. -/
theorem camelFrom_of_pieces {cs p : List Char} {ps : List (List Char)}
    (h : Text.pieces separates cs = p :: ps) :
    camelFrom separates form false cs =
        p.map form ++ ps.flatMap (fun q => Text.capitalize (q.map form)) ∧
      camelFrom separates form true cs =
        (p :: ps).flatMap fun q => Text.capitalize (q.map form) := by
  induction cs generalizing p ps with
  | nil =>
    cases h
    exact ⟨rfl, rfl⟩
  | cons c cs ih =>
    cases hrest : Text.pieces separates cs with
    | nil => exact absurd hrest (Text.pieces_ne_nil separates cs)
    | cons q qs =>
      obtain ⟨hplain, hcapital⟩ := ih hrest
      rw [Text.pieces] at h
      by_cases hc : separates c = true
      · rw [if_pos hc, hrest] at h
        cases h
        rw [camelFrom, if_pos hc, camelFrom, if_pos hc, hcapital]
        exact ⟨rfl, rfl⟩
      · rw [if_neg hc, hrest] at h
        cases h
        rw [camelFrom, if_neg hc, camelFrom, if_neg hc, hplain, List.flatMap_cons, List.map_cons,
          Text.capitalize, List.append_assoc]
        exact ⟨rfl, rfl⟩

/-- Empty pieces leave nothing behind. -/
theorem flatMap_filter_capitalize (ps : List (List Char)) :
    (ps.filter (!·.isEmpty)).flatMap (fun q => Text.capitalize (q.map form)) =
      ps.flatMap fun q => Text.capitalize (q.map form) := by
  induction ps with
  | nil => rfl
  | cons p ps ih =>
    cases p with
    | nil => exact ih
    | cons c cs => rw [List.filter_cons_of_pos (by simp), List.flatMap_cons, List.flatMap_cons, ih]

/-- The camel case of a name is written from one character to the next, in small letters. -/
theorem toList_camel_eq_camelFrom {name : String} (h : Field.isName name = true) :
    (camel name).toList = camelFrom isSeparator Char.toLower false name.toList := by
  obtain ⟨c, p, ps, -, -, hcut, hwords⟩ := exists_pieces_eq_cons h
  have hlower : ∀ q ∈ (c :: p) :: ps, Text.lower q = q.map Char.toLower := by
    intro q hq
    refine Text.lower_ascii fun d hd => (isNameChar_of_mem h d ?_).toNat_lt
    have hflat : d ∈ (Text.pieces isSeparator name.toList).flatten :=
      List.mem_flatten.2 ⟨q, hcut ▸ hq, hd⟩
    rw [Text.pieces_flatten] at hflat
    exact List.mem_of_mem_filter hflat
  rw [List.forall_mem_cons] at hlower
  rw [toList_camel hwords, (camelFrom_of_pieces hcut).1, camelChars, String.toList_ofList, hlower.1,
    List.flatMap_map, ← flatMap_filter_capitalize]
  congr 1
  refine List.flatMap_congr fun q hq => ?_
  rw [String.toList_ofList, hlower.2 q (List.mem_of_mem_filter hq)]

/-! ## Two rules for what separates words -/

/-- Only letters and digits of a name belong to its words. -/
theorem IsNameChar.isSeparator_eq {c : Char} (h : IsNameChar c) :
    isSeparator c = !c.isAlphanum := by
  rcases h with h | rfl | rfl | rfl
  · rw [isSeparator_of_isAlphanum h, h]
    rfl
  all_goals decide

/-- A character that separates nothing is written as a capital where a word begins. -/
theorem camelFrom_cons (separates : Char → Bool) (form : Char → Char) {c : Char}
    (hc : separates c = false) (hascii : (form c).toNat < 128) (begins : Bool) (cs : List Char) :
    camelFrom separates form begins (c :: cs) =
      (if begins then (form c).toUpper else form c) :: camelFrom separates form false cs := by
  rw [camelFrom, if_neg (by simp [hc])]
  cases begins with
  | false => rfl
  | true => rw [if_pos rfl, if_pos rfl, Text.upperChar, if_pos hascii]; rfl

/-- Capitals of letters and digits are letters and digits, and of nothing else. -/
theorem isAlphanum_toUpper {c : Char} (h : c.toNat < 128) :
    c.toUpper.isAlphanum = c.isAlphanum :=
  forall_ascii (p := fun c => c.toUpper.isAlphanum = c.isAlphanum) (by decide) h

/-- Small forms of letters and digits are letters and digits, and of nothing else. -/
theorem isAlphanum_toLower {c : Char} (h : c.toNat < 128) :
    c.toLower.isAlphanum = c.isAlphanum ∧ c.toLower.toNat < 128 :=
  forall_ascii (p := fun c => c.toLower.isAlphanum = c.isAlphanum ∧ c.toLower.toNat < 128)
    (by decide) h

/-- The capital form of a letter or digit is that of its small form, which is the character itself
unless that is a capital. -/
theorem forms_of_isAlphanum {c : Char} (h : c.isAlphanum = true) :
    c.toLower.toUpper = c.toUpper ∧ (c.toLower = c ↔ c.isUpper = false) :=
  forall_ascii (p := fun c => c.isAlphanum = true →
    c.toLower.toUpper = c.toUpper ∧ (c.toLower = c ↔ c.isUpper = false)) (by decide)
    (toNat_lt_of_isAlphanum h) h

/-- Camel case keeps the number of letters and digits, if it keeps each of them. -/
theorem countP_camelFrom {cs : List Char} (begins : Bool)
    (hcs : ∀ c ∈ cs, (separates c = true → c.isAlphanum = false) ∧
      (form c).isAlphanum = c.isAlphanum ∧ (form c).toNat < 128) :
    (camelFrom separates form begins cs).countP Char.isAlphanum = cs.countP Char.isAlphanum := by
  induction cs generalizing begins with
  | nil => rfl
  | cons c cs ih =>
    rw [List.forall_mem_cons] at hcs
    obtain ⟨⟨hout, hsame, hascii⟩, hcs⟩ := hcs
    rw [List.countP_cons]
    by_cases hc : separates c = true
    · rw [camelFrom, if_pos hc, ih true hcs, hout hc]
      rfl
    · have hkept : (if begins then (form c).toUpper else form c).isAlphanum = c.isAlphanum := by
        split
        · rw [isAlphanum_toUpper hascii, hsame]
        · exact hsame
      rw [camelFrom_cons _ _ (Bool.eq_false_iff.2 hc) hascii, List.countP_cons, ih false hcs, hkept]

/-- Nothing but letters and digits is left of a name. -/
theorem isAlphanum_of_mem_camelFrom {cs : List Char} (hcs : ∀ c ∈ cs, IsNameChar c)
    {begins : Bool} {d : Char} (hd : d ∈ camelFrom isSeparator Char.toLower begins cs) :
    d.isAlphanum = true := by
  induction cs generalizing begins with
  | nil => exact absurd hd List.not_mem_nil
  | cons c cs ih =>
    rw [List.forall_mem_cons] at hcs
    by_cases hc : isSeparator c = true
    · rw [camelFrom, if_pos hc] at hd
      exact ih hcs.2 hd
    · have halnum : c.isAlphanum = true := by
        rw [hcs.1.isSeparator_eq] at hc
        simpa using hc
      obtain ⟨hlower, hascii⟩ := isAlphanum_toLower hcs.1.toNat_lt
      rw [camelFrom_cons _ _ (Bool.eq_false_iff.2 hc) hascii, List.mem_cons] at hd
      rcases hd with rfl | hd
      · split
        · rw [isAlphanum_toUpper hascii, hlower, halnum]
        · rw [hlower, halnum]
      · exact ih hcs.2 hd

/-- Names in camel case are made of letters and digits. -/
theorem isAlphanum_of_mem_camel {name : String} (h : Field.isName name = true) {c : Char}
    (hc : c ∈ (camel name).toList) : c.isAlphanum = true := by
  rw [toList_camel_eq_camelFrom h] at hc
  exact isAlphanum_of_mem_camelFrom (isNameChar_of_mem h) hc

/-- A name begins with a digit exactly where its camel case does. -/
theorem beginsWithDigit_camel {name : String} (h : Field.isName name = true) :
    beginsWithDigit (camel name) = beginsWithDigit name := by
  obtain ⟨c, w, ws, hc, halnum, hwords, hw⟩ := exists_words_eq_cons h
  obtain ⟨cs, hchars⟩ := List.head?_eq_some_iff.1 hw
  have hdigit : c.toLower.isDigit = c.isDigit :=
    forall_ascii (p := fun c => c.toLower.isDigit = c.isDigit) (by decide)
      (toNat_lt_of_isAlphanum halnum)
  rw [beginsWithDigit, beginsWithDigit, toList_camel hwords, camelChars, hchars, List.cons_append,
    List.head?_cons, hc, Option.any_some, Option.any_some, hdigit]

/-- The camel case of a name equals the one that cuts at dashes only, and leaves all letters as they
are, exactly where dashes are the only separators and capitals stand behind dashes only. -/
theorem camelFrom_eq_iff {a : Char} {cs : List Char} (hcs : ∀ c ∈ cs, IsNameChar c) :
    camelFrom isSeparator Char.toLower (a == '-') cs = camelFrom (· == '-') id (a == '-') cs ↔
      (∀ c ∈ cs, c ≠ '_' ∧ c ≠ '.') ∧
        (a :: cs).IsChain fun b c => c.isUpper = true → b = '-' := by
  induction cs generalizing a with
  | nil => simp [camelFrom]
  | cons c cs ih =>
    rw [List.forall_mem_cons] at hcs
    obtain ⟨hc, hcs⟩ := hcs
    rw [List.forall_mem_cons, List.isChain_cons_cons]
    rcases hc with halnum | rfl | hmark
    · -- A letter or digit is kept by both, in forms that differ for a capital that begins no word.
      have hascii : c.toNat < 128 := toNat_lt_of_isAlphanum halnum
      have hmarks : c ≠ '-' ∧ c ≠ '_' ∧ c ≠ '.' :=
        ⟨fun h => by simp [h] at halnum, fun h => by simp [h] at halnum,
          fun h => by simp [h] at halnum⟩
      have hdash : (c == '-') = false := beq_eq_false_iff_ne.2 hmarks.1
      have hfirst : (if (a == '-') = true then c.toLower.toUpper else c.toLower) =
          (if (a == '-') = true then c.toUpper else c) ↔ (c.isUpper = true → a = '-') := by
        obtain ⟨hupper, hlower⟩ := forms_of_isAlphanum halnum
        by_cases ha : a = '-'
        · simp [ha, hupper]
        · simpa [ha] using hlower
      have hnext := ih (a := c) hcs
      rw [hdash] at hnext
      have hplain : camelFrom (· == '-') id (a == '-') (c :: cs) =
          (if (a == '-') = true then c.toUpper else c) :: camelFrom (· == '-') id false cs :=
        camelFrom_cons (· == '-') id hdash hascii _ cs
      rw [camelFrom_cons _ _ (isSeparator_of_isAlphanum halnum) (isAlphanum_toLower hascii).2,
        hplain, List.cons.injEq, hnext, hfirst]
      tauto
    · rw [camelFrom, if_pos (by decide), camelFrom, if_pos (by decide)]
      have hnext := ih (a := '-') hcs
      rw [beq_self_eq_true] at hnext
      rw [hnext]
      simp
    · -- A point or an underscore is left out by one, and kept by the other.
      refine iff_of_false (fun heq => ?_) fun h => hmark.elim h.1.1.1 h.1.1.2
      have hkept : c ∈ camelFrom (· == '-') id (a == '-') (c :: cs) := by
        rw [camelFrom_cons _ _ (by rcases hmark with rfl | rfl <;> decide)
          (by rcases hmark with rfl | rfl <;> decide)]
        rcases hmark with rfl | rfl <;> simp
      rw [← heq] at hkept
      have halnum := isAlphanum_of_mem_camelFrom
        (List.forall_mem_cons.2 ⟨.inr (.inr hmark), hcs⟩) hkept
      rcases hmark with rfl | rfl <;> cases halnum

end CliGen.Naming
