import CliGen.Proofs.Storage.Paths
import CliGen.Proofs.Target.Identifiers
import CliGen.Target.Rust

/-!
# The version of a crate

A crate takes over the version of the command line if three texts of digits between dots stand
before its first dash or plus sign. Cargo asks for more: no number has zeros in front, and what
stands behind the numbers is made of identifiers. So the crate has a version that cargo accepts
exactly where the rest of the version, which is not looked at, is in order
(`Target.Rust.isVersion_crateVersion_iff`).
-/

namespace CliGen.Target.Rust

/-! ## Versions -/

/-- An identifier in a version: letters, digits and dashes. -/
structure IsTag (s : String) : Prop where
  ne_empty : s ≠ ""
  chars : ∀ c ∈ s.toList, c.isAlphanum = true ∨ c = '-'

/-- An identifier of a pre-release. If it is a number, there are no zeros in front. -/
structure IsPreRelease (s : String) : Prop extends IsTag s where
  number : (∀ c ∈ s.toList, c.isDigit = true) → IsDecimal s

/-- Identifiers between dots, behind a mark, or nothing if there are none. -/
def tagged (mark : String) (tags : List String) : String :=
  if tags.isEmpty then "" else mark ++ ".".intercalate tags

/-- What a version has behind its numbers: the identifiers of a pre-release, and then those of a
build. -/
def EndsVersion (s : String) : Prop :=
  ∃ pre build, (∀ p ∈ pre, IsPreRelease p) ∧ (∀ t ∈ build, IsTag t) ∧
    s = tagged "-" pre ++ tagged "+" build

/-- Three numbers between dots, and what stands behind them. -/
def dotted (major minor patch behind : String) : String :=
  ".".intercalate [major, minor, patch] ++ behind

/-- A version as cargo accepts it: three numbers without zeros in front, and identifiers behind
them. -/
def IsVersion (s : String) : Prop :=
  ∃ major minor patch behind, (∀ n ∈ [major, minor, patch], IsDecimal n) ∧ EndsVersion behind ∧
    s = dotted major minor patch behind

/-! ## What is looked at -/

/-- A text passes for a version: it is three texts of digits between dots, and what stands behind
them begins with a dash or a plus sign, if there is anything. -/
structure Passes (s major minor patch behind : String) : Prop where
  numbers : ∀ n ∈ [major, minor, patch], isNumber n = true
  begins : ∀ c ∈ behind.toList.head?, c = '-' ∨ c = '+'
  eq_dotted : s = dotted major minor patch behind

/-- Whether a character stands before the first dash or plus sign. -/
def isCore (c : Char) : Bool := c != '-' && c != '+'

variable {s major minor patch behind : String}

/-- A number is made of digits, of one at least. -/
theorem isNumber_iff {n : String} :
    isNumber n = true ↔ n ≠ "" ∧ ∀ c ∈ n.toList, c.isDigit = true := by
  simp [isNumber]

/-- A number without zeros in front is a number. -/
theorem isNumber_of_isDecimal {n : String} (h : IsDecimal n) : isNumber n = true :=
  isNumber_iff.2 ⟨h.ne_empty, h.digits⟩

/-- The numbers of a version and the dots between them. -/
theorem isCore_of_mem (h : ∀ n ∈ [major, minor, patch], isNumber n = true) :
    ∀ c ∈ (".".intercalate [major, minor, patch]).toList, isCore c = true := by
  refine forall_mem_intercalate (by simp [isCore]) fun n hn c hc => ?_
  have hdigit : c.isDigit = true := (isNumber_iff.1 (h n hn)).2 c hc
  rw [isCore, Bool.and_eq_true, bne_iff_ne, bne_iff_ne]
  constructor
  · rintro rfl
    cases hdigit
  · rintro rfl
    cases hdigit

/-- A text passes exactly where what is looked at is cut into three numbers. -/
theorem passes_iff : Passes s major minor patch behind ↔
    Text.splitAt '.' (String.ofList (s.toList.takeWhile isCore)) = [major, minor, patch] ∧
      (∀ n ∈ [major, minor, patch], isNumber n = true) ∧
      behind = String.ofList (s.toList.dropWhile isCore) := by
  have hdot : String.singleton '.' = "." := rfl
  constructor
  · rintro ⟨hnumbers, hbegins, rfl⟩
    have hall := isCore_of_mem hnumbers
    -- The core ends where it should, since what stands behind it begins with a mark.
    have hbehind : behind.toList.takeWhile isCore = [] ∧
        behind.toList.dropWhile isCore = behind.toList := by
      cases hchars : behind.toList with
      | nil => exact ⟨rfl, rfl⟩
      | cons c cs =>
        have hc : ¬ isCore c = true := by
          rcases hbegins c (by rw [hchars]; rfl) with rfl | rfl <;> decide
        exact ⟨List.takeWhile_cons_of_neg hc, List.dropWhile_cons_of_neg hc⟩
    have hnodot : ∀ n ∈ [major, minor, patch], '.' ∉ n.toList := by
      intro n hn hmem
      exact absurd ((isNumber_iff.1 (hnumbers n hn)).2 '.' hmem) (by decide)
    refine ⟨?_, hnumbers, ?_⟩
    · rw [dotted, String.toList_append, List.takeWhile_append_of_pos hall, hbehind.1,
        List.append_nil, String.ofList_toList, ← hdot]
      exact Text.splitAt_intercalate (by simp) hnodot
    · rw [dotted, String.toList_append, List.dropWhile_append_of_pos hall, hbehind.2,
        String.ofList_toList]
  · rintro ⟨hcore, hnumbers, rfl⟩
    refine ⟨hnumbers, fun c hc => ?_, ?_⟩
    · have hstop := List.head?_dropWhile_not isCore s.toList
      rw [String.toList_ofList, Option.mem_def] at hc
      rw [hc] at hstop
      simpa [isCore, or_iff_not_imp_left] using hstop
    · have hjoined := Text.intercalate_splitAt '.' (String.ofList (s.toList.takeWhile isCore))
      rw [hcore, hdot] at hjoined
      rw [dotted, hjoined, ← String.ofList_append, List.takeWhile_append_dropWhile,
        String.ofList_toList]

/-- A text passes in one way. -/
theorem Passes.unique {major' minor' patch' behind' : String}
    (h : Passes s major minor patch behind) (h' : Passes s major' minor' patch' behind') :
    major = major' ∧ minor = minor' ∧ patch = patch' ∧ behind = behind' := by
  obtain ⟨hcore, -, hbehind⟩ := passes_iff.1 h
  obtain ⟨hcore', -, hbehind'⟩ := passes_iff.1 h'
  rw [hcore] at hcore'
  rw [← hbehind'] at hbehind
  simp only [List.cons.injEq, and_true] at hcore'
  exact ⟨hcore'.1, hcore'.2.1, hcore'.2.2, hbehind⟩

/-- The crate takes over a text that passes, and no other. -/
theorem crateVersion_cases (s : String) :
    crateVersion s = s ∧ (∃ major minor patch behind, Passes s major minor patch behind) ∨
      crateVersion s = "0.1.0" ∧
        ∀ major minor patch behind, ¬ Passes s major minor patch behind := by
  unfold crateVersion
  extract_lets core
  split
  next major minor patch hcut =>
    by_cases hnumbers : (isNumber major && isNumber minor && isNumber patch) = true
    · rw [if_pos hnumbers]
      simp only [Bool.and_eq_true] at hnumbers
      have hall : ∀ n ∈ [major, minor, patch], isNumber n = true := by simp [hnumbers]
      exact .inl ⟨rfl, major, minor, patch, _, passes_iff.2 ⟨hcut, hall, rfl⟩⟩
    · rw [if_neg hnumbers]
      refine .inr ⟨rfl, fun a b c behind h => hnumbers ?_⟩
      obtain ⟨hcut', hall, -⟩ := passes_iff.1 h
      have hsame : [major, minor, patch] = [a, b, c] := hcut.symm.trans hcut'
      rw [← hsame] at hall
      simpa [and_assoc] using hall
  next hother =>
    exact .inr ⟨rfl, fun a b c behind h => hother a b c (passes_iff.1 h).1⟩

/-- A version that passes is left as it is. -/
theorem crateVersion_of_passes (h : Passes s major minor patch behind) : crateVersion s = s := by
  rcases crateVersion_cases s with ⟨hsame, -⟩ | ⟨-, hnone⟩
  · exact hsame
  · exact absurd h (hnone major minor patch behind)

/-! ## What cargo accepts -/

/-- What a version has behind its numbers is told from them by the mark in front. -/
theorem EndsVersion.begins (h : EndsVersion s) : ∀ c ∈ s.toList.head?, c = '-' ∨ c = '+' := by
  obtain ⟨pre, build, -, -, rfl⟩ := h
  cases pre with
  | nil =>
    cases build with
    | nil => simp [tagged]
    | cons t ts => simp [tagged]
  | cons p ps => simp [tagged]

/-- A version passes. -/
theorem passes_of_isVersion (h : IsVersion s) : ∃ major minor patch behind,
    Passes s major minor patch behind ∧ (∀ n ∈ [major, minor, patch], IsDecimal n) ∧
      EndsVersion behind := by
  obtain ⟨major, minor, patch, behind, hnumbers, hbehind, heq⟩ := h
  refine ⟨major, minor, patch, behind, ⟨fun n hn => ?_, hbehind.begins, heq⟩, hnumbers, hbehind⟩
  exact isNumber_of_isDecimal (hnumbers n hn)

/-- What a text that passes lacks to be a version. -/
theorem Passes.isVersion_iff (h : Passes s major minor patch behind) :
    IsVersion s ↔ (∀ n ∈ [major, minor, patch], IsDecimal n) ∧ EndsVersion behind := by
  constructor
  · intro hversion
    obtain ⟨a, b, c, rest, hpasses, hnumbers, hrest⟩ := passes_of_isVersion hversion
    obtain ⟨rfl, rfl, rfl, rfl⟩ := h.unique hpasses
    exact ⟨hnumbers, hrest⟩
  · rintro ⟨hnumbers, hbehind⟩
    exact ⟨major, minor, patch, behind, hnumbers, hbehind, h.eq_dotted⟩

/-- The version that stands in for all others is one. -/
theorem isVersion_fallback : IsVersion "0.1.0" := by
  have hzero : IsDecimal "0" := ⟨by simp, by simp, by simp⟩
  have hone : IsDecimal "1" := ⟨by simp, by simp, by simp⟩
  refine ⟨"0", "1", "0", "", by simp [hzero, hone], ⟨[], [], by simp, by simp, ?_⟩, ?_⟩
  · rfl
  · rfl

/-- **Which crates have a version that cargo accepts.** A crate has the version of the command line,
or `0.1.0`. It has every version that cargo accepts. A crate's version is one that cargo accepts
exactly where a text that passes for a version is one: no number has zeros in front, and what stands
behind the numbers is made of identifiers. -/
theorem isVersion_crateVersion_iff (s : String) :
    (crateVersion s = s ∨ crateVersion s = "0.1.0") ∧
    (IsVersion s → crateVersion s = s) ∧
    (IsVersion (crateVersion s) ↔ ∀ major minor patch behind,
      Passes s major minor patch behind →
        (∀ n ∈ [major, minor, patch], IsDecimal n) ∧ EndsVersion behind) := by
  refine ⟨(crateVersion_cases s).imp And.left And.left, fun hversion => ?_, ?_⟩
  · obtain ⟨major, minor, patch, behind, hpasses, -⟩ := passes_of_isVersion hversion
    exact crateVersion_of_passes hpasses
  · rcases crateVersion_cases s with ⟨hsame, major, minor, patch, behind, h⟩ | ⟨hfallback, hnone⟩
    · rw [hsame, h.isVersion_iff]
      constructor
      · intro hversion a b c rest hpasses
        obtain ⟨rfl, rfl, rfl, rfl⟩ := h.unique hpasses
        exact hversion
      · intro hall
        exact hall major minor patch behind h
    · rw [hfallback]
      refine iff_of_true isVersion_fallback fun major minor patch behind h => ?_
      exact absurd h (hnone major minor patch behind)

/-- A date passes for a version, and its month has a zero in front. -/
theorem not_isVersion_crateVersion_date :
    crateVersion "2024.01.15" = "2024.01.15" ∧ ¬ IsVersion (crateVersion "2024.01.15") := by
  have hpasses : Passes "2024.01.15" "2024" "01" "15" "" := ⟨by decide, by simp, rfl⟩
  have hsame := crateVersion_of_passes hpasses
  refine ⟨hsame, fun hversion => ?_⟩
  rw [hsame, hpasses.isVersion_iff] at hversion
  have hmonth : IsDecimal "01" := hversion.1 "01" (by simp)
  exact absurd (hmonth.zero rfl) (by decide)

end CliGen.Target.Rust
