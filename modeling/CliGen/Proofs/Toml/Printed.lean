import CliGen.Proofs.Toml.Line
import CliGen.Toml.Printer

/-!
# Printed texts in TOML

A text is printed in one of several forms, and read back from each of them
(`Toml.readText_quoteChars`).

Between threefold quotes up to two quotes in a row stand for themselves, also in front of the
closing ones. `Toml.Shown` tells how content looks there; the number of quotes that went before is
what decides whether one more may stand.
-/

namespace CliGen.Toml

/-! ## Escapes -/

/-- Characters that have an escape. -/
def HasEscape (c : Char) : Prop :=
  c = '"' ∨ c = '\\' ∨ c = '\t' ∨ c = '\n' ∨ TextTraits.isControl c = true

/-- Which characters are printed by their code. -/
theorem isControl_iff {c : Char} : TextTraits.isControl c = true ↔
    (c.toNat < 0x20 ∨ c.toNat = 0x7f) ∧ c ≠ '\t' ∧ c ≠ '\n' := by
  simp [TextTraits.isControl, and_assoc]

/-- The code of an ASCII character is read back from the digits it is printed by. -/
theorem readCodePoint_hexDigits {n : Nat} (h : n < 0x80) (rest : List Char) :
    readCodePoint 4 ('0' :: '0' :: escape.hexDigit (n / 16) :: escape.hexDigit (n % 16) :: rest) =
      some (Char.ofNat n, rest) := by
  have hdigits : ∀ n < 0x80, (['0', '0', escape.hexDigit (n / 16),
      escape.hexDigit (n % 16)].mapM Quoted.hexValue?).map
        (fun ds => (ds.length, ds.foldl (fun n d => n * 16 + d) 0)) = some (4, n) := by decide
  obtain ⟨ds, hds, hvalue⟩ := Option.map_eq_some_iff.1 (hdigits n h)
  have hvalid : n.isValidChar := .inl (by omega)
  have htake : ('0' :: '0' :: escape.hexDigit (n / 16) :: escape.hexDigit (n % 16) :: rest).take 4 =
      ['0', '0', escape.hexDigit (n / 16), escape.hexDigit (n % 16)] := rfl
  have hdrop : ('0' :: '0' :: escape.hexDigit (n / 16) :: escape.hexDigit (n % 16) :: rest).drop 4 =
      rest := rfl
  obtain ⟨hlength, hnumber⟩ := Prod.mk.inj hvalue
  rw [readCodePoint, htake, hdrop, hds]
  simp only [Option.bind_eq_bind, Option.bind_some, hlength, hnumber, hvalid, and_self, if_true]

/-- An escape is a backslash and something that no line ends with, and stands for its character. -/
theorem exists_escape {c : Char} (h : HasEscape c) : ∃ d tail, escape c = '\\' :: d :: tail ∧
    isBlank d = false ∧ d ≠ '\n' ∧ d ≠ '\r' ∧
      ∀ rest, readEscape (d :: (tail ++ rest)) = some (c, rest) := by
  unfold escape
  split
  case h_8 hback htab hfeed hform hreturn hquote hslash =>
    have hsmall : c.toNat < 0x80 := by
      rcases h with h | h | h | h | h
      · exact absurd h hquote
      · exact absurd h hslash
      · exact absurd h htab
      · exact absurd h hfeed
      · have hrange := (isControl_iff.1 h).1
        omega
    refine ⟨'u', _, rfl, rfl, by decide, by decide, fun rest => ?_⟩
    change readCodePoint 4 _ = _
    have hcode := readCodePoint_hexDigits hsmall rest
    rwa [Char.ofNat_toNat] at hcode
  all_goals exact ⟨_, [], rfl, rfl, by decide, by decide, fun rest => rfl⟩

/-- What is printed as it is may stand in a text of one line. -/
theorem isLineChar_of_not_isControl {c : Char} (h : TextTraits.isControl c = false)
    (hfeed : c ≠ '\n') : isLineChar c = true := by
  by_cases htab : c = '\t'
  · rw [htab]
    rfl
  have hrange : ¬ (c.toNat < 0x20 ∨ c.toNat = 0x7f) := by
    intro hrange
    rw [isControl_iff.2 ⟨hrange, htab, hfeed⟩] at h
    cases h
  rw [isLineChar_iff (by omega)]
  rintro rfl
  exact hrange (.inr rfl)

/-- A character without an escape stands for itself. -/
theorem isLineChar_of_not_hasEscape {c : Char} (h : ¬ HasEscape c) : isLineChar c = true := by
  simp only [HasEscape, not_or, Bool.not_eq_true] at h
  exact isLineChar_of_not_isControl h.2.2.2.2 h.2.2.2.1

/-! ## Texts on one line -/

/-- A text of one line is printed character by character. -/
theorem escapeLine_cons (c : Char) (cs : List Char) [Decidable (HasEscape c)] :
    escapeLine (c :: cs) = (if HasEscape c then escape c else [c]) ++ escapeLine cs := by
  rw [escapeLine]
  by_cases h : HasEscape c
  · rw [if_pos h, if_pos (by simpa [HasEscape, or_assoc] using h)]
  · rw [if_neg h, if_neg (by simpa [HasEscape, or_assoc] using h)]
    rfl

/-- Escapes on one line are read back. -/
theorem readBasic_escapeLine (cs read rest : List Char) {fuel : Nat} (hfuel : cs.length < fuel) :
    readBasic fuel read (escapeLine cs ++ '"' :: rest) =
      some (String.ofList (read.reverse ++ cs), rest) := by
  classical
  induction cs generalizing read fuel with
  | nil =>
    obtain ⟨fuel, rfl⟩ : ∃ n, fuel = n + 1 := ⟨fuel - 1, by rw [List.length_nil] at hfuel; omega⟩
    rw [escapeLine, List.nil_append, readBasic, if_pos rfl, List.append_nil]
  | cons c cs ih =>
    rw [List.length_cons] at hfuel
    obtain ⟨fuel, rfl⟩ : ∃ n, fuel = n + 1 := ⟨fuel - 1, by omega⟩
    have hnext := ih (c :: read) (by omega : cs.length < fuel)
    rw [List.reverse_cons, List.append_assoc, List.singleton_append] at hnext
    rw [escapeLine_cons]
    by_cases hescape : HasEscape c
    · obtain ⟨d, tail, hform, -, -, -, hread⟩ := exists_escape hescape
      rw [if_pos hescape, hform, List.cons_append, List.cons_append, List.cons_append,
        List.cons_append, List.append_assoc, readBasic, if_neg (by decide), if_pos rfl, hread]
      exact hnext
    · rw [if_neg hescape, List.singleton_append, List.cons_append, readBasic,
        if_neg fun h => hescape (.inl h), if_neg fun h => hescape (.inr (.inl h)),
        if_pos (isLineChar_of_not_hasEscape hescape)]
      exact hnext

/-- No printed text of one line begins with a quote, since quotes are escaped. -/
theorem escapeLine_ne_quote (cs : List Char) : (escapeLine cs).head? ≠ some '"' := by
  classical
  cases cs with
  | nil => intro h; cases h
  | cons c cs =>
    rw [escapeLine_cons]
    by_cases hescape : HasEscape c
    · obtain ⟨d, tail, hform, -⟩ := exists_escape hescape
      rw [if_pos hescape, hform]
      intro h
      cases h
    · rw [if_neg hescape]
      intro h
      exact hescape (.inl (Option.some.inj h))

/-- Escaping shortens nothing. -/
theorem length_le_escapeLine (cs : List Char) : cs.length ≤ (escapeLine cs).length := by
  classical
  induction cs with
  | nil => exact Nat.le_refl 0
  | cons c cs ih =>
    rw [escapeLine_cons, List.length_append, List.length_cons]
    have hone : 1 ≤ (if HasEscape c then escape c else [c]).length := by
      split
      · next hescape =>
        obtain ⟨d, tail, hform, -⟩ := exists_escape hescape
        rw [hform]
        simp
      · simp
    omega

/-- A text between single quotes on one line stands for itself. -/
theorem readLiteral_append {cs : List Char} (h : ∀ c ∈ cs, isLineChar c = true ∧ c ≠ '\'')
    (rest : List Char) :
    readLiteral (cs ++ '\'' :: rest) = some (String.ofList cs, rest) := by
  have hall : ∀ c ∈ cs, (isLineChar c && c != '\'') = true := by
    intro c hc
    simpa using h c hc
  rw [readLiteral, List.dropWhile_append_of_pos hall, List.takeWhile_append_of_pos hall,
    List.dropWhile_cons_of_neg (by decide), List.takeWhile_cons_of_neg (by decide),
    List.append_nil]
  rfl

/-! ## Texts of several lines -/

/-- How content looks between threefold quotes, behind some quotes of its own. -/
inductive Shown (quote : Char) (escapes : Bool) : Nat → List Char → List Char → Prop
  | nil (n : Nat) : Shown quote escapes n [] []
  | quote {n : Nat} {cs text : List Char} (hn : n < 2) (h : Shown quote escapes (n + 1) cs text) :
      Shown quote escapes n (quote :: cs) (quote :: text)
  | escape {n : Nat} {c : Char} {cs text : List Char} (hescapes : escapes = true)
      (hc : HasEscape c) (h : Shown quote escapes 0 cs text) :
      Shown quote escapes n (c :: cs) (escape c ++ text)
  | plain {n : Nat} {c : Char} {cs text : List Char} (hquote : c ≠ quote)
      (hslash : escapes = true → c ≠ '\\') (hchar : isLineChar c = true ∨ c = '\n')
      (h : Shown quote escapes 0 cs text) : Shown quote escapes n (c :: cs) (c :: text)

namespace Shown

variable {quote : Char} {escapes : Bool} {n : Nat} {cs text : List Char}

/-- What is shown begins with few quotes. They are all of it, or something else follows. -/
theorem exists_run (h : Shown quote escapes n cs text) (hn : n ≤ 2) (hslash : quote ≠ '\\') :
    ∃ k, n + k ≤ 2 ∧ (cs = List.replicate k quote ∧ text = List.replicate k quote ∨
      ∃ c more, text = List.replicate k quote ++ c :: more ∧ c ≠ quote) := by
  induction h with
  | nil n => exact ⟨0, hn, .inl ⟨rfl, rfl⟩⟩
  | @quote n cs text hlow h ih =>
    obtain ⟨k, hk, hrun⟩ := ih (by omega)
    refine ⟨k + 1, by omega, ?_⟩
    rcases hrun with ⟨hcs, htext⟩ | ⟨c, more, htext, hc⟩
    · exact .inl ⟨by rw [hcs, List.replicate_succ], by rw [htext, List.replicate_succ]⟩
    · exact .inr ⟨c, more, by rw [htext, List.replicate_succ, List.cons_append], hc⟩
  | @escape n c cs text _ hc h _ =>
    obtain ⟨d, tail, hform, -⟩ := exists_escape hc
    refine ⟨0, hn, .inr ⟨'\\', d :: (tail ++ text), ?_, hslash.symm⟩⟩
    rw [hform]
    rfl
  | @plain n c cs text hquote _ _ h _ => exact ⟨0, hn, .inr ⟨c, text, rfl, hquote⟩⟩

/-- A text of several lines is shown by no fewer characters than it has. -/
theorem length_le (h : Shown quote escapes n cs text) : cs.length ≤ text.length := by
  induction h with
  | nil n => exact Nat.le_refl 0
  | quote _ _ ih => exact Nat.succ_le_succ ih
  | escape _ hc _ ih =>
    obtain ⟨d, tail, hform, -⟩ := exists_escape hc
    rw [hform, List.length_append, List.length_cons, List.length_cons, List.length_cons]
    omega
  | plain _ _ _ _ ih => exact Nat.succ_le_succ ih

end Shown

/-- The quotes at the end of the content and the closing ones. -/
theorem closeLines_replicate {quote : Char} {k : Nat} (hk : k ≤ 2) (read : List Char)
    {rest : List Char} (hrest : rest.head? ≠ some quote) :
    closeLines quote read (List.replicate k quote ++ quote :: quote :: quote :: rest) =
      some (String.ofList (read.reverse ++ List.replicate k quote), rest) := by
  have hrun : List.replicate k quote ++ quote :: quote :: quote :: rest =
      List.replicate (k + 3) quote ++ rest := by
    rw [List.replicate_add, List.append_assoc]
    rfl
  have hall : ∀ c ∈ List.replicate (k + 3) quote, (c == quote) = true := by
    intro c hc
    rw [List.eq_of_mem_replicate hc, beq_self_eq_true]
  have hnone : rest.takeWhile (· == quote) = [] := by
    cases rest with
    | nil => rfl
    | cons c rest =>
      refine List.takeWhile_cons_of_neg ?_
      rw [beq_iff_eq]
      rintro rfl
      exact hrest rfl
  have hlength :
      ((List.replicate (k + 3) quote ++ rest).takeWhile (· == quote)).length = k + 3 := by
    rw [List.takeWhile_append_of_pos hall, hnone, List.append_nil, List.length_replicate]
  rw [hrun, closeLines, hlength]
  simp only [Nat.add_sub_cancel]
  rw [if_pos ⟨by omega, by omega⟩, List.drop_left' (by rw [List.length_replicate])]

section

variable {quote : Char} {escapes : Bool} {fuel : Nat} {read cs : List Char}

/-- Three quotes close a text of several lines, and up to two before them belong to it. -/
theorem readLines_close : readLines quote escapes (fuel + 1) read (quote :: quote :: quote :: cs) =
    closeLines quote read (quote :: quote :: quote :: cs) := by
  rw [readLines, if_pos rfl, if_pos ⟨rfl, rfl⟩]

/-- A quote that no two others follow stands for itself. -/
theorem readLines_quote (h : ∀ more, cs ≠ quote :: quote :: more) :
    readLines quote escapes (fuel + 1) read (quote :: cs) =
      readLines quote escapes fuel (quote :: read) cs := by
  rw [readLines.eq_def]
  dsimp only
  rw [if_pos rfl]
  split
  · next d e more =>
    refine if_neg ?_
    rintro ⟨rfl, rfl⟩
    exact h more rfl
  · rfl

/-- An escape is read where there are escapes. -/
theorem readLines_escape {c : Char} (hquote : quote ≠ '\\') (hescapes : escapes = true)
    (hc : HasEscape c) : readLines quote escapes (fuel + 1) read (escape c ++ cs) =
      readLines quote escapes fuel (c :: read) cs := by
  obtain ⟨d, tail, hform, hblank, hfeed, hreturn, hread⟩ := exists_escape hc
  have hskip (more : List Char) : lineEnd? (skipBlanks (d :: more)) = none := by
    rw [skipBlanks_of_head (by rintro e ⟨⟩; exact hblank), lineEnd?.eq_def]
    split
    next heq => exact absurd (List.cons.inj heq).1 hfeed
    next heq => exact absurd (List.cons.inj heq).1 hreturn
    next => rfl
  rw [hform, List.cons_append, List.cons_append, readLines.eq_def]
  dsimp only
  rw [if_neg hquote.symm, if_pos ⟨rfl, hescapes⟩, hskip]
  dsimp only
  rw [hread]

/-- A character without a meaning of its own is read as itself. -/
theorem readLines_plain {c : Char} (hquote : c ≠ quote) (hslash : escapes = true → c ≠ '\\')
    (hchar : isLineChar c = true ∨ c = '\n') :
    readLines quote escapes (fuel + 1) read (c :: cs) =
      readLines quote escapes fuel (c :: read) cs := by
  rw [readLines.eq_def]
  dsimp only
  rw [if_neg hquote, if_neg fun hboth => hslash hboth.2 hboth.1]
  by_cases hfeed : c = '\n'
  · subst hfeed
    rfl
  · have hline : isLineChar c = true := hchar.resolve_right hfeed
    have hend : lineEnd? (c :: cs) = none := by
      rw [lineEnd?.eq_def]
      split
      next heq => exact absurd (List.cons.inj heq).1 hfeed
      next heq =>
        rw [(List.cons.inj heq).1] at hline
        cases hline
      next => rfl
    rw [hend]
    dsimp only
    rw [if_pos hline]

end

/-- What is shown between threefold quotes is read back. -/
theorem readLines_shown {quote : Char} {escapes : Bool} {n : Nat} {cs text : List Char}
    (h : Shown quote escapes n cs text) (hn : n ≤ 2) (hquote : quote ≠ '\\')
    (read : List Char) {rest : List Char} (hrest : rest.head? ≠ some quote) {fuel : Nat}
    (hfuel : cs.length < fuel) :
    readLines quote escapes fuel read (text ++ quote :: quote :: quote :: rest) =
      some (String.ofList (read.reverse ++ cs), rest) := by
  -- A quote is the hard case, since three of them in a row close the text.
  induction h generalizing read fuel with
  | nil n =>
    obtain ⟨fuel, rfl⟩ : ∃ n, fuel = n + 1 := ⟨fuel - 1, by rw [List.length_nil] at hfuel; omega⟩
    rw [List.nil_append, readLines_close]
    exact closeLines_replicate (Nat.zero_le 2) read hrest
  | @quote n cs text hlow h ih =>
    rw [List.length_cons] at hfuel
    obtain ⟨fuel, rfl⟩ : ∃ n, fuel = n + 1 := ⟨fuel - 1, by omega⟩
    have hnext := ih (by omega) (quote :: read) (by omega : cs.length < fuel)
    rw [List.reverse_cons, List.append_assoc, List.singleton_append] at hnext
    rw [List.cons_append]
    obtain ⟨k, hk, ⟨hcs, htext⟩ | ⟨c, more, htext, hc⟩⟩ := h.exists_run (by omega) hquote
    · -- The last quotes of the content stand in front of the closing ones.
      have hclose := closeLines_replicate (show k + 1 ≤ 2 by omega) read hrest
      rw [hcs, htext]
      obtain rfl | rfl : k = 0 ∨ k = 1 := by omega
      · exact readLines_close.trans hclose
      · exact readLines_close.trans hclose
    · rw [readLines_quote fun tail heq => ?_, hnext]
      rw [htext] at heq
      obtain rfl | rfl : k = 0 ∨ k = 1 := by omega
      · exact hc (List.cons.inj heq).1
      · exact hc (List.cons.inj (List.cons.inj heq).2).1
  | @escape n c cs text hescapes hc h ih =>
    rw [List.length_cons] at hfuel
    obtain ⟨fuel, rfl⟩ : ∃ n, fuel = n + 1 := ⟨fuel - 1, by omega⟩
    rw [List.append_assoc, readLines_escape hquote hescapes hc,
      ih (by omega) (c :: read) (by omega), List.reverse_cons, List.append_assoc,
      List.singleton_append]
  | @plain n c cs text hne hslash hchar h ih =>
    rw [List.length_cons] at hfuel
    obtain ⟨fuel, rfl⟩ : ∃ n, fuel = n + 1 := ⟨fuel - 1, by omega⟩
    rw [List.cons_append, readLines_plain hne hslash hchar, ih (by omega) (c :: read) (by omega),
      List.reverse_cons, List.append_assoc, List.singleton_append]

/-! ## Whole texts -/

/-- The longest run is at least as long as the one it starts from. -/
theorem le_longestRun (c : Char) (n : Nat) (cs : List Char) :
    n ≤ TextTraits.longestRun c n cs := by
  induction cs generalizing n with
  | nil => exact Nat.le_refl n
  | cons d cs ih =>
    rw [TextTraits.longestRun]
    split
    · exact Nat.le_of_succ_le (ih (n + 1))
    · exact Nat.le_max_left _ _

/-- A character without a run does not occur. -/
theorem longestRun_eq_zero {c : Char} {cs : List Char} (h : TextTraits.longestRun c 0 cs = 0) :
    c ∉ cs := by
  induction cs with
  | nil => simp
  | cons d cs ih =>
    rw [TextTraits.longestRun] at h
    split at h
    · have hone := le_longestRun c (0 + 1) cs
      omega
    · next hne =>
      rw [List.mem_cons, not_or]
      exact ⟨fun heq => hne heq.symm, ih (by omega)⟩

/-- Content with escapes. A third quote in a row has one. -/
theorem shown_escapeLines (n : Nat) (cs : List Char) : Shown '"' true n cs (escapeLines n cs) := by
  induction cs generalizing n with
  | nil => exact .nil n
  | cons c cs ih =>
    rw [escapeLines]
    split
    · next hquote =>
      split
      · -- Two quotes may stand as they are, a third one is escaped.
        next hn =>
        rw [hquote]
        exact .quote hn (ih (n + 1))
      · exact .escape rfl (.inl hquote) (ih 0)
    · next hquote =>
      split
      · next hother =>
        refine .escape rfl ?_ (ih 0)
        simp only [Bool.or_eq_true, decide_eq_true_eq] at hother
        unfold HasEscape
        tauto
      · next hother =>
        simp only [Bool.or_eq_true, decide_eq_true_eq, not_or] at hother
        refine .plain hquote (fun _ => hother.1.1) ?_ (ih 0)
        by_cases hfeed : c = '\n'
        · exact .inr hfeed
        · left
          refine isLineChar_of_not_hasEscape ?_
          unfold HasEscape
          tauto

/-- Content as it is. There are no three quotes in a row. -/
theorem shown_self {quote : Char} {n : Nat} {cs : List Char}
    (hrun : TextTraits.longestRun quote n cs ≤ 2)
    (hchars : ∀ c ∈ cs, isLineChar c = true ∨ c = '\n') : Shown quote false n cs cs := by
  induction cs generalizing n with
  | nil => exact .nil n
  | cons c cs ih =>
    rw [List.forall_mem_cons] at hchars
    rw [TextTraits.longestRun] at hrun
    split at hrun
    · next heq =>
      have hlow := le_longestRun quote (n + 1) cs
      rw [heq]
      exact .quote (by omega) (ih hrun hchars.2)
    · next hne =>
      refine .plain hne (fun h => ?_) hchars.1 (ih (by omega) hchars.2)
      cases h

/-- What is shown begins with a line end only if the content has one. -/
theorem Shown.dropFirstLineEnd {quote : Char} {escapes : Bool} {n : Nat} {cs text : List Char}
    (h : Shown quote escapes n cs text) (hquote : quote = '"' ∨ quote = '\'') (more : List Char) :
    dropFirstLineEnd ((if cs.contains '\n' then ['\n'] else []) ++ (text ++ quote :: more)) =
      text ++ quote :: more := by
  split
  · rfl
  · next hnone =>
    have hfirst : ∀ c ∈ (text ++ quote :: more).head?, c ≠ '\n' ∧ c ≠ '\r' := by
      cases h with
      | nil => rcases hquote with rfl | rfl <;> rintro c ⟨⟩ <;> decide
      | quote => rcases hquote with rfl | rfl <;> rintro c ⟨⟩ <;> decide
      | escape _ hc _ =>
        obtain ⟨d, tail, hform, -⟩ := exists_escape hc
        rw [hform]
        rintro c ⟨⟩
        decide
      | @plain n c cs text _ _ hchar _ =>
        rintro d ⟨⟩
        have hfeed : c ≠ '\n' := by
          rintro rfl
          simp at hnone
        refine ⟨hfeed, ?_⟩
        rintro rfl
        exact absurd (hchar.resolve_right hfeed) (by decide)
    rw [List.nil_append, Toml.dropFirstLineEnd, lineEnd?.eq_def]
    split
    next heq => exact absurd rfl (hfirst _ (by rw [heq]; rfl)).1
    next heq => exact absurd rfl (hfirst _ (by rw [heq]; rfl)).2
    next => rfl

/-- A text between threefold quotes is read back. -/
theorem readText_shown {quote : Char} {escapes : Bool} {cs text rest : List Char}
    (hquote : quote = '"' ∧ escapes = true ∨ quote = '\'' ∧ escapes = false)
    (h : Shown quote escapes 0 cs text) (hrest : rest.head? ≠ some quote) :
    readText (quote :: quote :: quote :: ((if cs.contains '\n' then ['\n'] else []) ++
      (text ++ quote :: quote :: quote :: rest))) = some (String.ofList cs, rest) := by
  have hlength := h.length_le
  have hdrop := h.dropFirstLineEnd (hquote.imp And.left And.left) (quote :: quote :: rest)
  have hslash : quote ≠ '\\' := by rcases hquote with ⟨rfl, -⟩ | ⟨rfl, -⟩ <;> decide
  have hread {fuel : Nat} (hfuel : cs.length < fuel) :=
    readLines_shown h (Nat.zero_le 2) hslash [] hrest hfuel
  rcases hquote with ⟨rfl, rfl⟩ | ⟨rfl, rfl⟩
  all_goals
    rw [readText, hdrop]
    refine hread ?_
    simp only [List.length_append, List.length_cons]
    omega

/-- A text printed in one line between quotes is read back. -/
theorem readText_line (cs : List Char) {rest : List Char} (hrest : rest.head? ≠ some '"') :
    readText ('"' :: (escapeLine cs ++ '"' :: rest)) = some (String.ofList cs, rest) := by
  have hlength := length_le_escapeLine cs
  rw [readText_double (escapeLine_ne_quote cs) hrest,
    readBasic_escapeLine cs [] rest (by rw [List.length_append]; omega), List.reverse_nil,
    List.nil_append]

/-- A text printed between single quotes is read back. -/
theorem readText_literal {cs : List Char} (hne : cs ≠ [])
    (h : ∀ c ∈ cs, isLineChar c = true ∧ c ≠ '\'') (rest : List Char) :
    readText ('\'' :: (cs ++ '\'' :: rest)) = some (String.ofList cs, rest) := by
  obtain ⟨c, more, rfl⟩ := List.exists_cons_of_ne_nil hne
  have hsingle : readText ('\'' :: (c :: more ++ '\'' :: rest)) =
      readLiteral (c :: more ++ '\'' :: rest) := by
    rw [readText.eq_def]
    split
    next heq => simp at heq
    next heq =>
      rw [List.cons_append, List.cons.injEq, List.cons.injEq] at heq
      exact absurd heq.2.1 (h c List.mem_cons_self).2
    next heq => simp at heq
    next heq => cases heq; rfl
    next hquote => exact absurd rfl (hquote _)
  rw [hsingle, readLiteral_append h]

/-- **A printed text is read as the text**, whatever stands behind it but a further quote. -/
theorem readText_quoteChars (cs : List Char) {rest : List Char} (hdouble : rest.head? ≠ some '"')
    (hsingle : rest.head? ≠ some '\'') :
    readText (quoteChars cs ++ rest) = some (String.ofList cs, rest) := by
  -- Each form is read back on its own; what remains is to tell which one is chosen when.
  have hone : readText ('"' :: escapeLine cs ++ ['"'] ++ rest) = some (String.ofList cs, rest) := by
    simpa using readText_line cs hdouble
  have hlines (quote : Char) (escapes : Bool) (text : List Char) :
      (quote = '"' ∧ escapes = true ∨ quote = '\'' ∧ escapes = false) →
        Shown quote escapes 0 cs text → readText ([quote, quote, quote] ++
          (if cs.contains '\n' then ['\n'] else []) ++ text ++ [quote, quote, quote] ++ rest) =
            some (String.ofList cs, rest) := by
    intro hquote hshown
    have hread := readText_shown hquote hshown
      (by rcases hquote with ⟨rfl, -⟩ | ⟨rfl, -⟩ <;> assumption)
    simpa using hread
  have hplain (hcontrol : cs.any TextTraits.isControl = false) :
      ∀ c ∈ cs, isLineChar c = true ∨ c = '\n' := by
    intro c hc
    by_cases hfeed : c = '\n'
    · exact .inr hfeed
    · have hplain := List.any_eq_false.1 hcontrol c hc
      exact .inl (isLineChar_of_not_isControl (by simpa using hplain) hfeed)
  unfold quoteChars
  extract_lets t opening doubles singles
  simp only [TextTraits.of, t, opening, doubles, singles]
  split
  · exact hone
  next hform =>
  split
  · next hliteral =>
    simp only [Bool.and_eq_true, Bool.not_eq_true', decide_eq_true_eq] at hliteral
    obtain ⟨⟨hcontrol, hrun⟩, hfeed⟩ := hliteral
    have hne : cs ≠ [] := by
      rintro rfl
      exact hform rfl
    have hchars : ∀ c ∈ cs, isLineChar c = true ∧ c ≠ '\'' := by
      intro c hc
      refine ⟨(hplain hcontrol c hc).resolve_right ?_, ?_⟩
      · rintro rfl
        simp [hc] at hfeed
      · rintro rfl
        exact longestRun_eq_zero hrun hc
    simpa using readText_literal hne hchars rest
  split
  · exact hlines '"' true _ (.inl ⟨rfl, rfl⟩) (shown_escapeLines 0 cs)
  split
  · next hself =>
    simp only [Bool.and_eq_true, Bool.not_eq_true', decide_eq_true_eq] at hself
    exact hlines '\'' false cs (.inr ⟨rfl, rfl⟩) (shown_self hself.2 (hplain hself.1))
  split
  · next hfeed =>
    have hread := hlines '"' true _ (.inl ⟨rfl, rfl⟩) (shown_escapeLines 0 cs)
    rwa [if_pos hfeed] at hread
  · exact hone

end CliGen.Toml
