import CliGen.Proofs.Target.Identifiers

/-!
# The name of the package

A package is named after its command line: letters are made small, and all that is neither letter
nor digit becomes an underscore. Nothing is put in front of a digit that a name begins with, and
nothing behind a keyword. So the package has a name that can be used exactly where the name of the
command line does neither (`CommandTree.isPackageName_packageName_iff`).
-/

namespace CliGen

open Naming Target.Python

/-- A text that Python takes for the name of a package, and cargo for that of a crate: small
letters, digits and underscores that begin with no digit, and no keyword of Python. -/
structure IsPackageName (s : String) : Prop where
  begins : ∃ c ∈ s.toList.head?, c.isLower = true ∨ c = '_'
  chars : ∀ c ∈ s.toList, c.isLower = true ∨ c.isDigit = true ∨ c = '_'
  not_keyword : s ∉ Blueprint.pythonKeywords

/-- Keywords are made of letters. -/
theorem isAlpha_of_mem_pythonKeywords {k : String} (hk : k ∈ Blueprint.pythonKeywords) :
    ∀ c ∈ k.toList, c.isAlpha = true := by
  have hall : ∀ k ∈ Blueprint.pythonKeywords, k.toList.all Char.isAlpha = true := by
    decide +kernel
  exact List.all_eq_true.1 (hall k hk)

/-- Of letters and digits, only the small forms of digits begin no name. -/
theorem begins_toLower_iff {c : Char} (h : c.isAlphanum = true) :
    c.toLower.isLower = true ∨ c.toLower = '_' ↔ c.isDigit = false :=
  forall_ascii (p := fun c => c.isAlphanum = true →
    (c.toLower.isLower = true ∨ c.toLower = '_' ↔ c.isDigit = false)) (by decide)
    (toNat_lt_of_isAlphanum h) h

/-- Only letters and digits have small forms that are letters. -/
theorem isAlphanum_of_isAlpha_toLower {c : Char} (h : c.toLower.isAlpha = true) :
    c.isAlphanum = true := by
  unfold Char.toLower at h
  split at h
  next hupper =>
    have hupper : c.isUpper = true := decide_eq_true hupper
    exact Bool.or_eq_true_iff.2 (.inl (Bool.or_eq_true_iff.2 (.inl hupper)))
  next => exact Bool.or_eq_true_iff.2 (.inl h)

/-- A name begins with a letter or a digit. -/
theorem exists_cons_of_isName {s : String} (h : Field.isName s = true) :
    ∃ c cs, s.toList = c :: cs ∧ c.isAlphanum = true := by
  obtain ⟨c, -, -, hhead, hc, -⟩ := exists_pieces_eq_cons h
  obtain ⟨cs, hcs⟩ := List.head?_eq_some_iff.1 hhead
  exact ⟨c, cs, hcs, hc⟩

namespace CommandTree

variable {t : CommandTree}

/-- The package is named like the command line where that holds letters and digits only. -/
theorem packageName_eq_lowerAscii (h : ∀ c ∈ t.cliName.toList, c.isAlphanum = true) :
    t.packageName = Text.lowerAscii t.cliName := by
  rw [← String.toList_inj, toList_packageName, Text.lowerAscii, String.toList_ofList]
  exact List.map_congr_left fun c hc => if_pos (h c hc)

/-- The package is named by a keyword if the command line is. -/
theorem packageName_mem_pythonKeywords_iff : t.packageName ∈ Blueprint.pythonKeywords ↔
    Text.lowerAscii t.cliName ∈ Blueprint.pythonKeywords := by
  constructor
  · intro h
    rw [← packageName_eq_lowerAscii fun c hc => ?_]
    · exact h
    · have hletter := isAlpha_of_mem_pythonKeywords h
        (if c.isAlphanum then c.toLower else '_')
        (by rw [toList_packageName]; exact List.mem_map_of_mem hc)
      by_contra hother
      rw [if_neg hother] at hletter
      cases hletter
  · intro h
    rw [packageName_eq_lowerAscii fun c hc => ?_]
    · exact h
    · refine isAlphanum_of_isAlpha_toLower (isAlpha_of_mem_pythonKeywords h c.toLower ?_)
      rw [Text.lowerAscii, String.toList_ofList]
      exact List.mem_map_of_mem hc

/-- **Which packages have a name that can be used.** The package of a tree that is built is named by
small letters, digits and underscores. It can be used by that name exactly if the name of the
command line begins with no digit and is, in small letters, no keyword of Python. -/
theorem isPackageName_packageName_iff {maxDepth : Nat} {document : Value}
    (h : build maxDepth document = .ok t) :
    (t.packageName ≠ "" ∧
      ∀ c ∈ t.packageName.toList, c.isLower = true ∨ c.isDigit = true ∨ c = '_') ∧
    (IsPackageName t.packageName ↔ beginsWithDigit t.cliName = false ∧
      Text.lowerAscii t.cliName ∉ Blueprint.pythonKeywords) := by
  have hchars : ∀ c ∈ t.packageName.toList, c.isLower = true ∨ c.isDigit = true ∨ c = '_' :=
    fun c hc => or_assoc.1 (small_of_mem_packageName hc)
  obtain ⟨c, cs, hname, hc⟩ := exists_cons_of_isName (isName_of_build h)
  have hhead : t.packageName.toList.head? = some c.toLower := by
    rw [toList_packageName, hname, List.map_cons, if_pos hc]
    rfl
  have hbegins : beginsWithDigit t.cliName = c.isDigit := by
    rw [beginsWithDigit, hname]
    rfl
  refine ⟨⟨packageName_ne_empty (isName_of_build h), hchars⟩, ?_⟩
  rw [hbegins, ← begins_toLower_iff hc, ← packageName_mem_pythonKeywords_iff]
  constructor
  · rintro ⟨⟨d, hd, hletter⟩, -, hkeyword⟩
    rw [hhead] at hd
    exact ⟨Option.some.inj hd ▸ hletter, hkeyword⟩
  · rintro ⟨hletter, hkeyword⟩
    exact ⟨⟨_, hhead, hletter⟩, hchars, hkeyword⟩

/-- A command line whose name is more than a keyword. -/
def importing : Value := .object [("name", .str "Import-2.x")]

/-- The package of this command line can be imported. -/
theorem isPackageName_packageName_iff_importing : ∃ t, build 16 importing = .ok t ∧
    t.packageName = "import_2_x" ∧ IsPackageName t.packageName := by
  have hbuilt : (build 16 importing).toOption.any (fun t => t.packageName = "import_2_x" ∧
      beginsWithDigit t.cliName = false ∧
      Text.lowerAscii t.cliName ∉ Blueprint.pythonKeywords) = true := by
    decide +kernel
  simp only [Option.any_eq_true, Outcome.toOption_eq_some, decide_eq_true_eq] at hbuilt
  obtain ⟨t, ht, hpackage, husable⟩ := hbuilt
  exact ⟨t, ht, hpackage, (isPackageName_packageName_iff ht).2.2 husable⟩

/-- A command line whose name begins with a digit. -/
def twoFactor : Value := .object [("name", .str "2fa")]

/-- The package of a command line whose name begins with a digit begins with it too. -/
theorem not_isPackageName_packageName_twoFactor : ∃ t, build 16 twoFactor = .ok t ∧
    t.packageName = "2fa" ∧ ¬ IsPackageName t.packageName := by
  have hbuilt : (build 16 twoFactor).toOption.any (fun t => t.packageName = "2fa") = true := by
    decide +kernel
  simp only [Option.any_eq_true, Outcome.toOption_eq_some, decide_eq_true_eq] at hbuilt
  obtain ⟨t, ht, hpackage⟩ := hbuilt
  refine ⟨t, ht, hpackage, fun h => ?_⟩
  obtain ⟨c, hc, hletter⟩ := h.begins
  rw [hpackage] at hc
  obtain rfl : c = '2' := (Option.some.inj hc).symm
  revert hletter
  decide

end CommandTree

end CliGen
