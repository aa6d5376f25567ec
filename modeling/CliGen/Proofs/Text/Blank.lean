import CliGen.Text.Blank
import Mathlib.Data.List.DropRight

/-!
# Cutting texts

A text without separators is one piece, and both sides of a separator are cut by themselves
(`pieces_append_separator`). So a text that is joined from parts has the pieces of the parts, and
pieces that are joined again are the text. Trimming twice is trimming once (`trim_trim`).
-/

namespace CliGen.Text

variable {separates : Char → Bool} {p : List Char} {s : Char}

/-- Without separators there is one piece. -/
theorem pieces_of_none (hp : ∀ c ∈ p, separates c = false) : pieces separates p = [p] := by
  induction p with
  | nil => rfl
  | cons c p ih =>
    rw [List.forall_mem_cons] at hp
    rw [pieces, if_neg (by simp [hp.1]), ih hp.2]

/-- Both sides of a separator are cut by themselves. -/
theorem pieces_append_separator (hs : separates s = true) (cs ds : List Char) :
    pieces separates (cs ++ s :: ds) = pieces separates cs ++ pieces separates ds := by
  induction cs with
  | nil =>
    show pieces separates (s :: ds) = [] :: pieces separates ds
    rw [pieces, if_pos hs]
  | cons c cs ih =>
    rw [List.cons_append, pieces, pieces, ih]
    by_cases hc : separates c = true
    · rw [if_pos hc, if_pos hc, List.cons_append]
    · obtain ⟨p, ps, hp⟩ := List.exists_cons_of_ne_nil (pieces_ne_nil separates cs)
      rw [if_neg hc, if_neg hc, hp]
      rfl

/-- A piece ends at the first separator. -/
theorem pieces_append_cons (hp : ∀ c ∈ p, separates c = false) {s : Char}
    (hs : separates s = true) (cs : List Char) :
    pieces separates (p ++ s :: cs) = p :: pieces separates cs := by
  rw [pieces_append_separator hs, pieces_of_none hp, List.singleton_append]

/-- Pieces of texts with separators between them are the pieces of the texts. -/
theorem pieces_intercalate (hs : separates s = true) {parts : List (List Char)}
    (hne : parts ≠ []) :
    pieces separates ([s].intercalate parts) = parts.flatMap (pieces separates) := by
  induction parts with
  | nil => exact absurd rfl hne
  | cons p ps ih =>
    by_cases hps : ps = []
    · subst hps
      simp
    · rw [List.intercalate_cons_of_ne_nil hps, List.append_assoc, List.singleton_append,
        pieces_append_separator hs, ih hps, List.flatMap_cons]

/-- A text that is cut at one character is joined by it again. -/
theorem intercalate_pieces (s : Char) (cs : List Char) :
    [s].intercalate (pieces (· == s) cs) = cs := by
  induction cs with
  | nil => simp [pieces]
  | cons c cs ih =>
    obtain ⟨p, ps, hp⟩ := List.exists_cons_of_ne_nil (pieces_ne_nil (· == s) cs)
    rw [pieces]
    by_cases hc : c = s
    · rw [if_pos (beq_iff_eq.2 hc), List.intercalate_cons_of_ne_nil (pieces_ne_nil _ _), ih, hc]
      rfl
    · rw [hp] at ih
      rw [if_neg (by simpa using hc), hp]
      cases ps with
      | nil =>
        rw [List.intercalate_singleton] at ih ⊢
        rw [ih]
      | cons q qs =>
        rw [List.intercalate_cons_cons] at ih ⊢
        rw [List.cons_append, List.cons_append, ih]

/-- A text is its parts with the separator between them. -/
theorem intercalate_splitAt (separator : Char) (s : String) :
    (String.singleton separator).intercalate (splitAt separator s) = s := by
  have hchars : (splitAt separator s).map String.toList =
      pieces (· == separator) s.toList := by
    rw [splitAt, List.map_map]
    exact List.map_id'' (fun _ => String.toList_ofList) _
  rw [← String.toList_inj, String.toList_intercalate, hchars, String.toList_singleton,
    intercalate_pieces]

/-- Texts are cut alike where the same characters separate. -/
theorem pieces_map {separates' : Char → Bool} {f : Char → Char} {cs : List Char}
    (h : ∀ c ∈ cs, separates' (f c) = separates c) :
    pieces separates' (cs.map f) = (pieces separates cs).map (·.map f) := by
  induction cs with
  | nil => rfl
  | cons c cs ih =>
    rw [List.forall_mem_cons] at h
    rw [List.map_cons, pieces, pieces, h.1, ih h.2]
    by_cases hc : separates c = true
    · rw [if_pos hc, if_pos hc]
      rfl
    · obtain ⟨p, ps, hp⟩ := List.exists_cons_of_ne_nil (pieces_ne_nil separates cs)
      rw [if_neg hc, if_neg hc, hp]
      rfl


/-! ## Blanks at the ends -/

/-- Trimming drops blanks at both ends. -/
theorem toList_trim (t : String) :
    (trim t).toList = (t.toList.dropWhile isBlank).rdropWhile isBlank := by
  rw [trim, String.toList_ofList, List.rdropWhile]

/-- Trimming adds no character. -/
theorem mem_of_mem_trim {c : Char} {t : String} (h : c ∈ (trim t).toList) : c ∈ t.toList := by
  rw [toList_trim] at h
  exact (List.dropWhile_sublist isBlank).subset ((List.rdropWhile_prefix isBlank _).subset h)

/-- A text without blanks at its ends is left as it is. -/
theorem trim_trim (t : String) : trim (trim t) = trim t := by
  rw [← String.toList_inj, toList_trim (trim t), toList_trim t]
  generalize hcs : t.toList.dropWhile isBlank = cs
  have hfront : (cs.rdropWhile isBlank).dropWhile isBlank = cs.rdropWhile isBlank := by
    cases hkept : cs.rdropWhile isBlank with
    | nil => rfl
    | cons c kept =>
      obtain ⟨rest, hrest⟩ := List.rdropWhile_prefix isBlank cs
      have hhead := List.head?_dropWhile_not isBlank t.toList
      rw [hcs, ← hrest, hkept] at hhead
      exact List.dropWhile_cons_of_neg (by simpa using hhead)
  rw [hfront, List.rdropWhile_idempotent]

end CliGen.Text
