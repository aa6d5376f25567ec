import CliGen.Proofs.Target.Literals
import CliGen.Toml.Reader

/-!
# Quoted texts in TOML

Escapes of quoted text are escapes of TOML too, but quoted text writes the delete character as it
is, and TOML refuses it there. So a quoted text is read as the text that was quoted, unless the text
holds this one character (`Toml.readText_quote`).
-/

namespace CliGen.Toml

/-- The only character that a quoted text shows and a text in TOML must not show. -/
def delete : Char := '\x7f'

/-! ## One character -/

/-- Beyond the control characters only delete may not stand in a text. -/
theorem isLineChar_iff {c : Char} (h : 0x20 ≤ c.toNat) : isLineChar c = true ↔ c ≠ delete := by
  have hdelete : c = delete ↔ c.toNat = 0x7f := by
    rw [← Char.toNat_inj]
    rfl
  have htab : c ≠ '\t' := Literal.ne_of_toNat_le (by decide) h
  rw [isLineChar, ne_eq, hdelete]
  simp [htab]
  omega

/-- The letters that JSON escapes by are read alike in TOML. -/
theorem readEscape_letter {d c : Char} (h : (d, c) ∈ Literal.letters) (rest : List Char) :
    readEscape (d :: rest) = some (c, rest) := by
  simp only [Literal.letters, List.mem_cons, Prod.mk.injEq, List.not_mem_nil, or_false] at h
  rcases h with ⟨rfl, rfl⟩ | ⟨rfl, rfl⟩ | ⟨rfl, rfl⟩ | ⟨rfl, rfl⟩ | ⟨rfl, rfl⟩ | ⟨rfl, rfl⟩ |
    ⟨rfl, rfl⟩ <;> rfl

/-- The code of a control character is read back from its digits. -/
theorem readCodePoint_controlDigits {n : Nat} (h : n < 0x20) (rest : List Char) :
    readCodePoint 4 (Literal.controlDigits n ++ rest) = some (Char.ofNat n, rest) := by
  have hdigits : ∀ n < 0x20, ((Literal.controlDigits n).mapM Quoted.hexValue?).map
      (fun ds => (ds.length, ds.foldl (fun n d => n * 16 + d) 0)) = some (4, n) := by decide
  obtain ⟨ds, hds, hvalue⟩ := Option.map_eq_some_iff.1 (hdigits n h)
  have hvalid : n.isValidChar := .inl (by omega)
  have htake : (Literal.controlDigits n ++ rest).take 4 = Literal.controlDigits n := rfl
  have hdrop : (Literal.controlDigits n ++ rest).drop 4 = rest := rfl
  obtain ⟨hlength, hnumber⟩ := Prod.mk.inj hvalue
  rw [readCodePoint, htake, hdrop, hds]
  simp only [Option.bind_eq_bind, Option.bind_some, hlength, hnumber, hvalid, and_self, if_true]

/-- A character is read from what quoted text writes for it. -/
theorem readBasic_encodeChar {c : Char} (h : c ≠ delete) (fuel : Nat) (read rest : List Char) :
    readBasic (fuel + 1) read (Quoted.encodeChar c ++ rest) = readBasic fuel (c :: read) rest := by
  rcases Literal.encodeChar_cases c with ⟨d, hd, hform⟩ | ⟨hsmall, hform⟩ | ⟨hlarge, hother, hform⟩
  · rw [hform, List.cons_append, List.singleton_append, readBasic, if_neg (by decide), if_pos rfl,
      readEscape_letter hd]
  · have hread : readEscape ('u' :: (Literal.controlDigits c.toNat ++ rest)) = some (c, rest) := by
      rw [readEscape, readCodePoint_controlDigits hsmall, Char.ofNat_toNat]
    rw [hform, List.cons_append, List.cons_append, readBasic, if_neg (by decide), if_pos rfl, hread]
  · rw [hform, List.singleton_append, readBasic, if_neg hother.1, if_neg hother.2.1,
      if_pos ((isLineChar_iff hlarge).2 h)]

/-- A text with a delete character is refused. -/
theorem readBasic_delete (fuel : Nat) (read rest : List Char) :
    readBasic fuel read (delete :: rest) = none := by
  cases fuel with
  | zero => rfl
  | succ fuel => rfl

/-! ## Whole texts -/

/-- The characters between the quotes are read up to the closing one. -/
theorem readBasic_encode (cs read rest : List Char) {fuel : Nat} (hfuel : cs.length < fuel) :
    readBasic fuel read (Quoted.encode cs ++ '"' :: rest) =
      if delete ∈ cs then none else some (String.ofList (read.reverse ++ cs), rest) := by
  induction cs generalizing read fuel with
  | nil =>
    obtain ⟨fuel, rfl⟩ : ∃ n, fuel = n + 1 := ⟨fuel - 1, by rw [List.length_nil] at hfuel; omega⟩
    rw [Quoted.encode, List.flatMap_nil, List.nil_append, readBasic, if_pos rfl]
    simp
  | cons c cs ih =>
    obtain ⟨fuel, rfl⟩ : ∃ n, fuel = n + 1 := ⟨fuel - 1, by rw [List.length_cons] at hfuel; omega⟩
    have hencode : Quoted.encode (c :: cs) ++ '"' :: rest =
        Quoted.encodeChar c ++ (Quoted.encode cs ++ '"' :: rest) := by
      rw [Quoted.encode, List.flatMap_cons, List.append_assoc]
      rfl
    rw [hencode]
    by_cases hc : c = delete
    · subst hc
      rw [if_pos List.mem_cons_self]
      exact readBasic_delete (fuel + 1) read _
    · rw [readBasic_encodeChar hc, ih (c :: read) (by rw [List.length_cons] at hfuel; omega)]
      have hmem : delete ∈ c :: cs ↔ delete ∈ cs := by simp [Ne.symm hc]
      simp only [hmem, List.reverse_cons, List.append_assoc, List.singleton_append]

/-- A quoted text begins with one quote, or is empty. -/
theorem encode_ne_quote (cs : List Char) : (Quoted.encode cs).head? ≠ some '"' := by
  cases cs with
  | nil => nofun
  | cons c cs =>
    rw [Quoted.encode, List.flatMap_cons]
    rcases Literal.encodeChar_cases c with ⟨d, -, hform⟩ | ⟨-, hform⟩ | ⟨-, hother, hform⟩
    · simp [hform]
    · simp [hform]
    · simpa [hform] using hother.1

/-- Between single double quotes a text of one line is read. Three quotes would open one of several
lines. -/
theorem readText_double {line rest : List Char} (hline : line.head? ≠ some '"')
    (hrest : rest.head? ≠ some '"') :
    readText ('"' :: (line ++ '"' :: rest)) =
      readBasic ((line ++ '"' :: rest).length + 1) [] (line ++ '"' :: rest) := by
  unfold readText
  split
  next inner heq =>
    exfalso
    cases line with
    | nil =>
      rw [List.nil_append, List.cons.injEq, List.cons.injEq] at heq
      exact hrest (by rw [heq.2.2]; rfl)
    | cons c line =>
      rw [List.cons_append, List.cons.injEq, List.cons.injEq] at heq
      exact hline (by rw [heq.2.1]; rfl)
  next heq => simp at heq
  next heq => cases heq; rfl
  next heq => simp at heq
  next hquote _ => exact absurd rfl (hquote _)

/-- A quoted text is read as the text, whatever stands behind it but a further quote. -/
theorem readText_quote (s : String) {rest : List Char} (hrest : rest.head? ≠ some '"') :
    readText ((Quoted.quote s).toList ++ rest) =
      if delete ∈ s.toList then none else some (s, rest) := by
  have hchars : (Quoted.quote s).toList ++ rest =
      '"' :: (Quoted.encode s.toList ++ '"' :: rest) := by
    rw [Quoted.quote, String.toList_ofList, List.cons_append, List.cons_append, List.append_assoc,
      List.singleton_append]
  have hfuel : s.toList.length < (Quoted.encode s.toList ++ '"' :: rest).length + 1 := by
    have hlength := Literal.length_encode s.toList
    rw [List.length_append]
    omega
  rw [hchars, readText_double (encode_ne_quote s.toList) hrest,
    readBasic_encode s.toList [] rest hfuel, List.reverse_nil, List.nil_append,
    String.ofList_toList]

end CliGen.Toml
