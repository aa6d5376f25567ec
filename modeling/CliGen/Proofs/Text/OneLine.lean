import CliGen.Proofs.Text.Blank
import Mathlib.Data.List.Infix

/-!
# Texts in one line

What holds no blanks occurs in a text exactly where it occurs in a word of the text, and so exactly
where it occurs in the text in one line (`infix_oneLine_iff`). A text in one line has no blanks but
spaces.
-/

namespace CliGen.Text

variable {m p rest : List Char} {s : Char}

/-- What does not hold a character occurs in front of it or behind it. -/
theorem infix_append_cons (hs : s ∉ m) : m <:+: p ++ s :: rest ↔ m <:+: p ∨ m <:+: rest := by
  constructor
  · intro h
    rcases List.infix_append_iff.1 h with h | h | ⟨a, b, rfl, ha, hb⟩
    · exact .inl h
    · rcases List.infix_cons_iff.1 h with h | h
      · rcases List.prefix_cons_iff.1 h with rfl | ⟨t, rfl, -⟩
        · exact .inl ⟨[], p, rfl⟩
        · exact absurd List.mem_cons_self hs
      · exact .inr h
    · rcases List.prefix_cons_iff.1 hb with rfl | ⟨t, rfl, -⟩
      · rw [List.append_nil]
        exact .inl ha.isInfix
      · exact absurd (List.mem_append_right a List.mem_cons_self) hs
  · rintro (h | h)
    · exact List.infix_append_of_infix_left h
    · exact List.infix_append_of_infix_right (List.infix_cons h)

/-- What holds no separator occurs in a text exactly where it occurs in a piece of it. -/
theorem infix_pieces_iff {separates : Char → Bool} (hm : ∀ c ∈ m, separates c = false)
    (cs : List Char) : m <:+: cs ↔ ∃ p ∈ pieces separates cs, m <:+: p := by
  have hfront : ∀ cs p : List Char, (∀ c ∈ p, separates c = false) →
      (m <:+: p ++ cs ↔ ∃ q ∈ pieces separates (p ++ cs), m <:+: q) := by
    intro cs
    induction cs with
    | nil =>
      intro p hp
      rw [List.append_nil, pieces_of_none hp]
      simp
    | cons c cs ih =>
      intro p hp
      by_cases hc : separates c = true
      · have hmem : c ∉ m := fun hmem => by simp [hm c hmem] at hc
        have hrest := ih [] (by simp)
        rw [List.nil_append] at hrest
        rw [infix_append_cons hmem, pieces_append_cons hp hc, hrest]
        simp
      · have hlonger := ih (p ++ [c]) (List.forall_mem_append.2 ⟨hp, by simpa using hc⟩)
        rwa [List.append_assoc, List.singleton_append] at hlonger
  exact hfront cs [] (by simp)

/-- What holds no space occurs between spaces exactly where it occurs in a word. -/
theorem infix_intercalate_iff (hne : m ≠ []) (hm : s ∉ m) (ws : List (List Char)) :
    m <:+: [s].intercalate ws ↔ ∃ w ∈ ws, m <:+: w := by
  induction ws with
  | nil => simpa using hne
  | cons w ws ih =>
    by_cases hws : ws = []
    · subst hws
      simp
    · rw [List.intercalate_cons_of_ne_nil hws, List.append_assoc, List.singleton_append,
        infix_append_cons hm, ih]
      simp

/-- The words of a text, with spaces between them. -/
theorem toList_oneLine (t : String) :
    (oneLine t).toList = [' '].intercalate (words isBlank t.toList) := by
  rw [oneLine, String.toList_intercalate, List.map_map]
  congr 1
  exact List.map_id'' (fun _ => String.toList_ofList) _

/-- What holds no blanks occurs in a text exactly where it occurs in the text in one line. -/
theorem infix_oneLine_iff (hne : m ≠ []) (hm : ∀ c ∈ m, isBlank c = false) (t : String) :
    m <:+: (oneLine t).toList ↔ m <:+: t.toList := by
  have hspace : ' ' ∉ m := fun h => by simpa [isBlank] using hm ' ' h
  rw [toList_oneLine, infix_intercalate_iff hne hspace, infix_pieces_iff hm]
  constructor
  · rintro ⟨w, hw, h⟩
    exact ⟨w, List.mem_of_mem_filter hw, h⟩
  · rintro ⟨p, hp, h⟩
    have hnonempty : p ≠ [] := by
      rintro rfl
      exact hne (List.infix_nil.1 h)
    exact ⟨p, List.mem_filter.2 ⟨hp, by simpa using hnonempty⟩, h⟩

/-- A text in one line has no blanks but spaces. -/
theorem isBlank_of_mem_oneLine {c : Char} {t : String} (h : c ∈ (oneLine t).toList) :
    c = ' ' ∨ isBlank c = false := by
  by_cases hspace : c = ' '
  · exact .inl hspace
  · have hoccurs : [c] <:+: (oneLine t).toList := (List.singleton_infix_iff c _).2 h
    have hother : ' ' ∉ [c] := by simpa using Ne.symm hspace
    rw [toList_oneLine, infix_intercalate_iff (List.cons_ne_nil c []) hother] at hoccurs
    obtain ⟨w, hw, hc⟩ := hoccurs
    exact .inr (mem_pieces (List.mem_of_mem_filter hw) ((List.singleton_infix_iff c w).1 hc))

end CliGen.Text
