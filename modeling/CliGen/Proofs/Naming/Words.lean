import CliGen.Naming
import CliGen.Tree.Field
import Mathlib.Data.List.SplitBy

/-!
# Words of names

A name is cut into words of small letters and digits (`Naming.isWord_of_mem_words`). Words can be
read back from what they are joined to: at the underscores between them (`Naming.snake_inj`), and,
where no word has a digit, at their capitals (`Naming.splitBy_capitalize`). So it is settled which
commands a convention names like the callable that takes every command
(`NamingConvention.callable_eq_generic_iff`).
-/

namespace CliGen

namespace Naming

/-- A word has a character, and all of its characters are small letters or digits. -/
structure IsWord (w : String) : Prop where
  ne_empty : w ≠ ""
  small : ∀ c ∈ w.toList, c.isLower = true ∨ c.isDigit = true

/-! ## Characters -/

/-- What holds of each character of ASCII is checked one by one. -/
theorem forall_ascii {p : Char → Prop} (h : ∀ n < 128, p (Char.ofNat n)) {c : Char}
    (hc : c.toNat < 128) : p c := by
  have hp : p (Char.ofNat c.toNat) := h c.toNat hc
  rwa [Char.ofNat_toNat] at hp

/-- Letters and digits are taken from ASCII. -/
theorem toNat_lt_of_isAlphanum {c : Char} (h : c.isAlphanum = true) : c.toNat < 128 := by
  rcases Bool.or_eq_true_iff.1 h with h | hdigit
  · rcases Bool.or_eq_true_iff.1 h with hupper | hlower
    · exact Nat.lt_of_le_of_lt (UInt32.le_iff_toNat_le.1 (of_decide_eq_true hupper).2) (by decide)
    · exact Nat.lt_of_le_of_lt
        (UInt32.le_iff_toNat_le.1 (of_decide_eq_true (Bool.and_eq_true_iff.1 hlower).2)) (by decide)
  · exact Nat.lt_of_le_of_lt
      (UInt32.le_iff_toNat_le.1 (of_decide_eq_true (Bool.and_eq_true_iff.1 hdigit).2)) (by decide)

/-- The small form of a letter or digit is a small letter or a digit. -/
theorem small_toLower {c : Char} (h : c.isAlphanum = true) :
    c.toLower.isLower = true ∨ c.toLower.isDigit = true :=
  forall_ascii (p := fun c => c.isAlphanum = true →
    c.toLower.isLower = true ∨ c.toLower.isDigit = true) (by decide) (toNat_lt_of_isAlphanum h) h

/-- Small letters and digits are letters and digits. -/
theorem isAlphanum_of_small {c : Char} (h : c.isLower = true ∨ c.isDigit = true) :
    c.isAlphanum = true := by
  refine Bool.or_eq_true_iff.2 ?_
  rcases h with hlower | hdigit
  · exact .inl (Bool.or_eq_true_iff.2 (.inr hlower))
  · exact .inr hdigit

/-- Small letters and digits are taken from ASCII. -/
theorem toNat_lt_of_small {c : Char} (h : c.isLower = true ∨ c.isDigit = true) :
    c.toNat < 128 := toNat_lt_of_isAlphanum (isAlphanum_of_small h)

/-- The capital form of a small letter is a capital, and its small form is the letter. -/
theorem toUpper_of_isLower {c : Char} (h : c.isLower = true) :
    c.toUpper.isUpper = true ∧ c.toUpper.toLower = c :=
  forall_ascii (p := fun c => c.isLower = true →
    c.toUpper.isUpper = true ∧ c.toUpper.toLower = c) (by decide) (toNat_lt_of_small (.inl h)) h

/-- A small letter or digit is no capital, and its own small form. -/
theorem of_small {c : Char} (h : c.isLower = true ∨ c.isDigit = true) :
    c ≠ '_' ∧ c.isUpper = false ∧ c.toLower = c :=
  forall_ascii (p := fun c => c.isLower = true ∨ c.isDigit = true →
    c ≠ '_' ∧ c.isUpper = false ∧ c.toLower = c) (by decide) (toNat_lt_of_small h) h

/-- Digits have no capital form. -/
theorem toUpper_of_isDigit {c : Char} (h : c.isDigit = true) : c.toUpper = c :=
  forall_ascii (p := fun c => c.isDigit = true → c.toUpper = c) (by decide)
    (toNat_lt_of_small (.inr h)) h

/-! ## Cutting names into words -/

/-- The characters of a name. -/
def IsNameChar (c : Char) : Prop := c.isAlphanum = true ∨ c = '-' ∨ c = '_' ∨ c = '.'

/-- Names are written in ASCII. -/
theorem IsNameChar.toNat_lt {c : Char} (h : IsNameChar c) : c.toNat < 128 := by
  rcases h with h | rfl | rfl | rfl
  · exact toNat_lt_of_isAlphanum h
  all_goals decide

/-- Names are made of characters that names may have. -/
theorem isNameChar_of_mem {s : String} (h : Field.isName s = true) :
    ∀ c ∈ s.toList, IsNameChar c := by
  intro c hc
  unfold Field.isName at h
  split at h
  next => cases h
  next first rest hs =>
    rw [Bool.and_eq_true, List.all_eq_true] at h
    rw [hs, List.mem_cons] at hc
    rcases hc with rfl | hc
    · exact .inl h.1
    · simpa [IsNameChar, or_assoc] using h.2 c hc

private theorem isAlphanum_of_mem_name {s : String} (h : Field.isName s = true) {c : Char}
    (hc : c ∈ s.toList) (hinner : isSeparator c = false) : c.isAlphanum = true := by
  refine (isNameChar_of_mem h c hc).resolve_right ?_
  rintro (rfl | rfl | rfl) <;> cases hinner

/-- The words of a name are words. -/
theorem isWord_of_mem_words {s : String} (h : Field.isName s = true) {w : String}
    (hw : w ∈ words s) : IsWord w := by
  obtain ⟨piece, hpiece, rfl⟩ := List.mem_map.1 hw
  obtain ⟨hpiece, hne⟩ := List.mem_filter.1 hpiece
  have halnum : ∀ c ∈ piece, c.isAlphanum = true := by
    intro c hc
    refine isAlphanum_of_mem_name h ?_ (Text.mem_pieces hpiece hc)
    have hflat : c ∈ (Text.pieces isSeparator s.toList).flatten :=
      List.mem_flatten.2 ⟨piece, hpiece, hc⟩
    rw [Text.pieces_flatten] at hflat
    exact List.mem_of_mem_filter hflat
  have hlower : Text.lower piece = piece.map Char.toLower :=
    Text.lower_ascii fun c hc => toNat_lt_of_isAlphanum (halnum c hc)
  refine ⟨?_, ?_⟩
  · rw [hlower, Ne, String.ofList_eq_empty_iff, List.map_eq_nil_iff]
    simpa using hne
  · intro c hc
    rw [String.toList_ofList, hlower] at hc
    obtain ⟨d, hd, rfl⟩ := List.mem_map.1 hc
    exact small_toLower (halnum d hd)

/-- Letters and digits separate nothing. -/
theorem isSeparator_of_isAlphanum {c : Char} (h : c.isAlphanum = true) :
    isSeparator c = false :=
  forall_ascii (p := fun c => c.isAlphanum = true → isSeparator c = false) (by decide +kernel)
    (toNat_lt_of_isAlphanum h) h

/-- The first piece of a name begins with the name's first character, and is a word. -/
theorem exists_pieces_eq_cons {s : String} (h : Field.isName s = true) : ∃ c p ps,
    s.toList.head? = some c ∧ c.isAlphanum = true ∧
      Text.pieces isSeparator s.toList = (c :: p) :: ps ∧
      words s = (String.ofList (Text.lower (c :: p))) ::
        (ps.filter (!·.isEmpty)).map fun w => String.ofList (Text.lower w) := by
  unfold Field.isName at h
  split at h
  next => cases h
  next first rest hs =>
    have halnum : first.isAlphanum = true := (Bool.and_eq_true_iff.1 h).1
    cases hpieces : Text.pieces isSeparator rest with
    | nil => exact absurd hpieces (Text.pieces_ne_nil isSeparator rest)
    | cons p ps =>
      have hcut : Text.pieces isSeparator s.toList = (first :: p) :: ps := by
        rw [hs, Text.pieces, if_neg (by simp [isSeparator_of_isAlphanum halnum]), hpieces]
      refine ⟨first, p, ps, by rw [hs]; rfl, halnum, hcut, ?_⟩
      rw [words, Text.words, hcut, List.filter_cons_of_pos (by simp), List.map_cons]

/-- The first word of a name begins with the small form of the name's first character. -/
theorem exists_words_eq_cons {s : String} (h : Field.isName s = true) :
    ∃ c w ws, s.toList.head? = some c ∧ c.isAlphanum = true ∧ words s = w :: ws ∧
      w.toList.head? = some c.toLower := by
  obtain ⟨c, p, ps, hhead, halnum, -, hwords⟩ := exists_pieces_eq_cons h
  have hascii : c.toNat < 128 := toNat_lt_of_isAlphanum halnum
  have hsigma : ¬ (c.toNat == 0x3A3) = true := by
    rw [beq_iff_eq]
    omega
  refine ⟨c, _, _, hhead, halnum, hwords, ?_⟩
  rw [String.toList_ofList, Text.lower, Text.lowerFrom, if_neg hsigma, Text.lowerChar,
    if_pos hascii]
  rfl

/-- A name has a word. -/
theorem words_ne_nil {s : String} (h : Field.isName s = true) : words s ≠ [] := by
  obtain ⟨c, w, ws, -, -, hwords, -⟩ := exists_words_eq_cons h
  rw [hwords]
  exact List.cons_ne_nil w ws

/-! ## Joining words -/

/-- Lists of words that underscores join to one text are the same. -/
theorem snake_inj {ws vs : List String} (hws : ∀ w ∈ ws, IsWord w) (hvs : ∀ v ∈ vs, IsWord v)
    (h : "_".intercalate ws = "_".intercalate vs) : ws = vs := by
  have hsplit : ∀ us : List String, (∀ u ∈ us, IsWord u) →
      ((("_".intercalate us).split '_').toList.map (·.copy)) = if us = [] then [""] else us :=
    fun us hus => String.toList_split_intercalate fun u hu hmem =>
      (of_small ((hus u hu).small '_' hmem)).1 rfl
  have heq := hsplit ws hws
  rw [h, hsplit vs hvs] at heq
  -- No words at all read back as one empty text, which is no word.
  split at heq <;> split at heq
  next hvs' hws' => rw [hvs', hws']
  next => exact absurd rfl (hws "" (heq ▸ List.mem_singleton_self "")).ne_empty
  next => exact absurd rfl (hvs "" (heq ▸ List.mem_singleton_self "")).ne_empty
  next => exact heq.symm

/-- Only the first character of a word is written in its capital form. -/
theorem IsWord.capitalize_toList {w : String} (hw : IsWord w) :
    ∃ c cs, w.toList = c :: cs ∧ Text.capitalize w.toList = c.toUpper :: cs := by
  cases hchars : w.toList with
  | nil => exact absurd (String.toList_eq_nil_iff.1 hchars) hw.ne_empty
  | cons c cs =>
    have hascii : c.toNat < 128 := toNat_lt_of_small (hw.small c (by simp [hchars]))
    refine ⟨c, cs, rfl, ?_⟩
    rw [Text.capitalize, Text.upperChar, if_pos hascii, List.singleton_append]

/-- A word can be told from its form with a capital. -/
theorem IsWord.toLower_capitalize {w : String} (hw : IsWord w) :
    (Text.capitalize w.toList).map Char.toLower = w.toList := by
  obtain ⟨c, cs, hchars, hcapital⟩ := hw.capitalize_toList
  have hsmall : ∀ d ∈ c :: cs, d.isLower = true ∨ d.isDigit = true := hchars ▸ hw.small
  have hfirst : c.toUpper.toLower = c := by
    rcases hsmall c (by simp) with hlower | hdigit
    · exact (toUpper_of_isLower hlower).2
    · rw [toUpper_of_isDigit hdigit]
      exact (of_small (.inr hdigit)).2.2
  rw [hcapital, hchars, List.map_cons, hfirst, List.cons.injEq]
  refine ⟨rfl, (List.map_congr_left fun d hd => ?_).trans (List.map_id cs)⟩
  exact (of_small (hsmall d (List.mem_cons_of_mem c hd))).2.2

/-- Parts of a text that hold no capital but at their beginnings are read back, if all but the
first begin with one. -/
theorem splitBy_capitals {first : List Char} {parts : List (List Char)} (hne : first ≠ [])
    (hfirst : ∀ c ∈ first.tail, c.isUpper = false)
    (hparts : ∀ m ∈ parts, ∃ c cs, m = c :: cs ∧ c.isUpper = true ∧ ∀ d ∈ cs, d.isUpper = false) :
    (first ++ parts.flatten).splitBy (fun _ c => !c.isUpper) = first :: parts := by
  have hsmall : ∀ m ∈ first :: parts, m ≠ [] ∧ ∀ c ∈ m.tail, c.isUpper = false := by
    intro m hm
    rcases List.mem_cons.1 hm with rfl | hm
    · exact ⟨hne, hfirst⟩
    · obtain ⟨c, cs, rfl, -, hcs⟩ := hparts m hm
      exact ⟨List.cons_ne_nil c cs, hcs⟩
  rw [← List.flatten_cons]
  refine List.splitBy_flatten ?_ ?_ ?_
  · exact fun hnil => (hsmall [] hnil).1 rfl
  · intro m hm
    obtain ⟨hcons, htail⟩ := hsmall m hm
    obtain ⟨c, cs, rfl⟩ := List.exists_cons_of_ne_nil hcons
    have hlater : ∀ d ∈ cs, (!d.isUpper) = true := fun d hd => by rw [htail d hd]; rfl
    refine List.Pairwise.isChain (List.pairwise_cons.2 ⟨hlater, ?_⟩)
    exact List.pairwise_of_forall_mem_list fun _ _ d hd => hlater d hd
  · refine List.Pairwise.isChain (List.pairwise_cons.2 ⟨fun b hb => ?_, ?_⟩)
    · obtain ⟨d, ds, rfl, hupper, -⟩ := hparts b hb
      exact ⟨hne, List.cons_ne_nil d ds, by rw [List.head_cons, hupper]; rfl⟩
    · refine List.pairwise_of_forall_mem_list fun a ha b hb => ?_
      obtain ⟨d, ds, rfl, hupper, -⟩ := hparts b hb
      exact ⟨(hsmall a (List.mem_cons_of_mem _ ha)).1, List.cons_ne_nil d ds,
        by rw [List.head_cons, hupper]; rfl⟩

/-- A word that begins with a letter is written with a capital, and has no other. -/
theorem IsWord.capital_of_letter {w : String} (hw : IsWord w)
    (hletter : ∀ c ∈ w.toList.head?, c.isDigit = false) : ∃ c cs,
    Text.capitalize w.toList = c :: cs ∧ c.isUpper = true ∧ ∀ d ∈ cs, d.isUpper = false := by
  obtain ⟨c, cs, hchars, hcapital⟩ := hw.capitalize_toList
  have hsmall : ∀ d ∈ c :: cs, d.isLower = true ∨ d.isDigit = true := hchars ▸ hw.small
  refine ⟨c.toUpper, cs, hcapital, ?_, fun d hd => (of_small (hsmall d (by simp [hd]))).2.1⟩
  rcases hsmall c (by simp) with hlower | hdigit
  · exact (toUpper_of_isLower hlower).1
  · rw [hletter c (by simp [hchars])] at hdigit
    cases hdigit

/-- Capitalized words without digits start where a capital stands. -/
theorem splitBy_capitalize {ws : List String} (hws : ∀ w ∈ ws, IsWord w)
    (hletters : ∀ c ∈ ws.flatMap (Text.capitalize ·.toList), c.isDigit = false) :
    (ws.flatMap (Text.capitalize ·.toList)).splitBy (fun _ c => !c.isUpper) =
      ws.map (Text.capitalize ·.toList) := by
  have hparts : ∀ m ∈ ws.map (Text.capitalize ·.toList), ∃ c cs, m = c :: cs ∧
      c.isUpper = true ∧ ∀ d ∈ cs, d.isUpper = false := by
    intro m hm
    obtain ⟨w, hw, rfl⟩ := List.mem_map.1 hm
    refine (hws w hw).capital_of_letter fun c hc => Bool.eq_false_iff.2 fun hdigit => ?_
    -- A digit is its own capital form, so it would stand in the text.
    obtain ⟨d, ds, hchars, hcapital⟩ := (hws w hw).capitalize_toList
    obtain rfl : d = c := by simpa [hchars] using hc
    have hmem : d ∈ ws.flatMap (Text.capitalize ·.toList) := by
      refine List.mem_flatMap.2 ⟨w, hw, ?_⟩
      rw [hcapital, toUpper_of_isDigit hdigit]
      exact List.mem_cons_self
    rw [hletters d hmem] at hdigit
    cases hdigit
  rw [List.flatMap_def]
  cases hmap : ws.map (Text.capitalize ·.toList) with
  | nil => rfl
  | cons first parts =>
    rw [hmap, List.forall_mem_cons] at hparts
    obtain ⟨⟨c, cs, rfl, -, hcs⟩, hparts⟩ := hparts
    rw [List.flatten_cons]
    exact splitBy_capitals (List.cons_ne_nil c cs) hcs hparts

/-- The characters of a name in Pascal case, by its words. -/
theorem toList_pascal (ws : List String) :
    (String.join (ws.map capitalize)).toList = ws.flatMap (Text.capitalize ·.toList) := by
  rw [String.toList_join, List.flatMap_map]
  simp only [capitalize, String.toList_ofList]

/-- Lists of words with the same capital forms are the same. -/
theorem map_capitalize_inj {ws vs : List String} (hws : ∀ w ∈ ws, IsWord w)
    (hvs : ∀ v ∈ vs, IsWord v)
    (h : ws.map (Text.capitalize ·.toList) = vs.map (Text.capitalize ·.toList)) : ws = vs := by
  have hback : ∀ us : List String, (∀ u ∈ us, IsWord u) →
      (us.map (Text.capitalize ·.toList)).map (·.map Char.toLower) = us.map String.toList := by
    intro us hus
    rw [List.map_map]
    exact List.map_congr_left fun u hu => (hus u hu).toLower_capitalize
  have hlists := congrArg (List.map (List.map Char.toLower)) h
  rw [hback ws hws, hback vs hvs] at hlists
  exact List.map_injective_iff.2 (fun _ _ => String.toList_inj.1) hlists

/-- Lists of words that are capitalized and joined to one text without digits are the same. -/
theorem pascal_inj {ws vs : List String} (hws : ∀ w ∈ ws, IsWord w) (hvs : ∀ v ∈ vs, IsWord v)
    (hletters : ∀ c ∈ (String.join (vs.map capitalize)).toList, c.isDigit = false)
    (h : String.join (ws.map capitalize) = String.join (vs.map capitalize)) : ws = vs := by
  have hchars := congrArg String.toList h
  rw [toList_pascal, toList_pascal] at hchars
  rw [toList_pascal] at hletters
  have hcapitals := splitBy_capitalize hws (hchars ▸ hletters)
  rw [hchars, splitBy_capitalize hvs hletters] at hcapitals
  exact map_capitalize_inj hws hvs hcapitals.symm

end Naming

namespace NamingConvention

open Naming

/-- The generic name is made of words. -/
theorem isWord_generic : ∀ w ∈ ["command", "executed"], IsWord w := by
  simp only [List.forall_mem_cons, List.not_mem_nil, false_imp_iff, implies_true, and_true]
  refine ⟨⟨by decide, ?_⟩, by decide, ?_⟩
  · simp
  · simp

/-- The words of the callable that takes every command have no digit. -/
theorem letters_generic :
    ∀ c ∈ (String.join (["command", "executed"].map capitalize)).toList, c.isDigit = false := by
  have hpascal : String.join (["command", "executed"].map capitalize) = "CommandExecuted" := by
    decide
  rw [hpascal]
  simp

/-- A callable is the one that takes every command exactly where the words of its segments are
`command` and `executed`. -/
theorem callable_eq_generic_iff {n : NamingConvention} (hn : n = .snake ∨ n = .camel)
    {segments : List String} (hsegments : ∀ s ∈ segments, Field.isName s = true) :
    n.callable segments = n.generic ↔ segments.flatMap words = ["command", "executed"] := by
  have hwords : ∀ w ∈ segments.flatMap words, IsWord w := by
    intro w hw
    obtain ⟨s, hs, hw⟩ := List.mem_flatMap.1 hw
    exact isWord_of_mem_words (hsegments s hs) hw
  rcases hn with rfl | rfl
  · have hgeneric : snake.generic = "on" ++ "_" ++ "_".intercalate ["command", "executed"] := by
      decide
    rw [hgeneric]
    -- Both conventions can be read back word by word.
    constructor
    · intro h
      exact snake_inj hwords isWord_generic (String.append_right_inj _ |>.1 h)
    · intro h
      show "on" ++ "_" ++ "_".intercalate (segments.flatMap words) = _
      rw [h]
  · have hgeneric : camel.generic =
        "on" ++ String.join (["command", "executed"].map capitalize) := by
      decide
    rw [hgeneric]
    constructor
    · intro h
      exact pascal_inj hwords isWord_generic letters_generic (String.append_right_inj _ |>.1 h)
    · intro h
      show "on" ++ String.join ((segments.flatMap words).map capitalize) = _
      rw [h]

/-- No controller is the callable that takes every command. -/
theorem controller_ne_generic {n : NamingConvention} (hn : n = .snake ∨ n = .camel)
    (segments : List String) : n.controller segments ≠ n.generic := by
  intro h
  have hlast := congrArg (fun s : String => s.toList.getLast?) h
  rcases hn with rfl | rfl <;> simp [controller, snake, camel] at hlast

end NamingConvention

end CliGen
