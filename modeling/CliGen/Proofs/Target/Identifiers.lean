import CliGen.Proofs.Hook.CatchAll
import CliGen.Proofs.Naming.Camel
import CliGen.Proofs.Target.ActionVariables
import CliGen.Proofs.Target.Blueprint.Builtin
import Mathlib.Data.List.DropRight

/-!
# Identifiers in generated code

A parameter's identifier is its key with marks around it: an underscore in front of a digit, and one
behind a reserved word. So it is usable (`Wording.isIdentifier_identifier`), and the marks can be
taken off again (`Wording.identifier_eq_iff`). Callables begin with a mark of their own and are
always usable. Controllers begin with the first word of a path, and nothing stands in front of it
if that is a digit (`Blueprint.identifiers_of_build`).
-/

namespace CliGen

open Naming

/-- A text that a language with these keywords takes for a name: letters, digits and underscores
that begin with no digit, and no keyword. -/
structure IsIdentifier (keywords : List String) (s : String) : Prop where
  begins : ∃ c ∈ s.toList.head?, c.isAlpha = true ∨ c = '_'
  chars : ∀ c ∈ s.toList, c.isAlphanum = true ∨ c = '_'
  not_keyword : s ∉ keywords

/-- A decimal number without zeros in front. -/
structure IsDecimal (s : String) : Prop where
  ne_empty : s ≠ ""
  digits : ∀ c ∈ s.toList, c.isDigit = true
  zero : s.toList.head? = some '0' → s = "0"

/-! ## Keys of parameters -/

/-- Words that are put together begin with the first one. -/
theorem exists_intercalate_cons (separator w : String) (ws : List String) :
    ∃ rest, (separator.intercalate (w :: ws)).toList = w.toList ++ rest := by
  cases ws with
  | nil => exact ⟨[], by simp⟩
  | cons v vs =>
    rw [String.intercalate_cons_of_ne_nil (List.cons_ne_nil v vs), String.append_assoc,
      String.toList_append]
    exact ⟨_, rfl⟩

/-- Words that are put together end with the last one. -/
theorem exists_intercalate_concat (separator w : String) (ws : List String) :
    ∃ front, (separator.intercalate (ws ++ [w])).toList = front ++ w.toList := by
  cases ws with
  | nil => exact ⟨[], by simp⟩
  | cons v vs =>
    rw [String.intercalate_append_of_ne_nil (List.cons_ne_nil v vs) (List.cons_ne_nil w []),
      String.intercalate_singleton, String.toList_append]
    exact ⟨_, rfl⟩

/-- A text that a parameter may have for its key: a small letter or a digit, then letters, digits
and underscores, and no underscore at the end. -/
structure IsKey (s : String) : Prop where
  begins : ∃ c ∈ s.toList.head?, c.isLower = true ∨ c.isDigit = true
  chars : ∀ c ∈ s.toList, c.isAlphanum = true ∨ c = '_'
  ends : s.toList.getLast? ≠ some '_'

/-- A word stands at the beginning of a name's identifier, and another one at its end. -/
theorem isKey_identifier {name : String} (h : Field.isName name = true) :
    IsKey (identifier name) := by
  have hwords : ∀ w ∈ words name, IsWord w := fun w hw => isWord_of_mem_words h hw
  refine ⟨?_, ?_, ?_⟩
  · obtain ⟨w, ws, hcons⟩ := List.exists_cons_of_ne_nil (words_ne_nil h)
    have hw : IsWord w := hwords w (by simp [hcons])
    obtain ⟨c, cs, hchars⟩ := List.exists_cons_of_ne_nil hw.toList_ne_nil
    obtain ⟨rest, hrest⟩ := exists_intercalate_cons "_" w ws
    refine ⟨c, ?_, hw.small c (by simp [hchars])⟩
    rw [identifier, hcons, hrest, hchars]
    rfl
  · refine forall_mem_intercalate (by simp) fun w hw c hc => ?_
    exact .inl (isAlphanum_of_small ((hwords w hw).small c hc))
  · obtain ⟨ws, w, hconcat⟩ := (List.eq_nil_or_concat (words name)).resolve_left (words_ne_nil h)
    have hw : IsWord w := hwords w (by simp [hconcat])
    obtain ⟨front, hfront⟩ := exists_intercalate_concat "_" w ws
    rw [identifier, hconcat, List.concat_eq_append, hfront,
      List.getLast?_append_of_ne_nil _ hw.toList_ne_nil]
    intro hlast
    exact (of_small (hw.small '_' (List.mem_of_getLast? hlast))).1 rfl

/-- Camel case has no underscores at all. -/
theorem isKey_camel {name : String} (h : Field.isName name = true) : IsKey (camel name) := by
  have hchars : ∀ c ∈ (camel name).toList, c.isAlphanum = true := fun c hc =>
    isAlphanum_of_mem_camel h hc
  refine ⟨?_, fun c hc => .inl (hchars c hc), fun hlast => ?_⟩
  · obtain ⟨c, w, ws, -, -, hwords, -⟩ := exists_words_eq_cons h
    have hw : IsWord w := isWord_of_mem_words h (by simp [hwords])
    obtain ⟨d, ds, hd⟩ := List.exists_cons_of_ne_nil hw.toList_ne_nil
    refine ⟨d, ?_, hw.small d (by simp [hd])⟩
    rw [toList_camel hwords, camelChars, hd]
    rfl
  · have hunderscore := hchars '_' (List.mem_of_getLast? hlast)
    revert hunderscore
    decide

/-- Parameters are named by what can be a key. -/
theorem NamingConvention.isKey_parameter (n : NamingConvention) {name : String}
    (h : Field.isName name = true) : IsKey (n.parameter name) := by
  rw [NamingConvention.parameter]
  cases n.style with
  | snake => exact isKey_identifier h
  | camel => exact isKey_camel h

/-! ## Identifiers of parameters -/

/-- What a wording needs to keep all names that it makes away from the keywords of a language. -/
structure Wording.Avoids (w : Wording) (keywords : List String) : Prop where
  /-- Keys begin with small letters. -/
  reserved : ∀ k ∈ keywords, k ∈ w.reserved ∨ k.toList.head?.any Char.isUpper = true
  underscore : ∀ k ∈ keywords, k.toList.getLast? ≠ some '_'
  callable : ∀ k ∈ keywords, ¬ "on".toList <+: k.toList
  controller : ∀ k ∈ keywords, ¬ "Controller".toList <:+ k.toList

namespace Wording

variable {w : Wording} {keywords : List String} {name : String}

/-- The marks around a key. -/
theorem identifier_cases (w : Wording) (h : Field.isName name = true) : ∃ begun,
    ((∃ c ∈ begun.toList.head?, c.isLower = true) ∧ begun = w.naming.parameter name ∨
      begun = "_" ++ w.naming.parameter name) ∧
    (w.identifier name = begun ∧ begun ∉ w.reserved ∨ w.identifier name = begun ++ "_") := by
  obtain ⟨c, hc, hsmall⟩ := (w.naming.isKey_parameter h).begins
  obtain ⟨cs, hchars⟩ := List.head?_eq_some_iff.1 hc
  have hmark : ∀ begun, (if w.reserved.contains begun then begun ++ "_" else begun) = begun ∧
      begun ∉ w.reserved ∨
      (if w.reserved.contains begun then begun ++ "_" else begun) = begun ++ "_" := by
    intro begun
    by_cases hreserved : w.reserved.contains begun = true
    · rw [if_pos hreserved]
      exact .inr rfl
    · rw [if_neg hreserved]
      exact .inl ⟨rfl, fun hmem => hreserved (List.contains_iff_mem.2 hmem)⟩
  rw [identifier, hchars]
  dsimp only
  by_cases hdigit : c.isDigit = true
  · simp only [if_pos hdigit]
    exact ⟨_, .inr rfl, hmark _⟩
  · simp only [if_neg hdigit]
    exact ⟨_, .inl ⟨⟨c, hc, hsmall.resolve_right hdigit⟩, rfl⟩, hmark _⟩

/-- The identifier of a parameter is usable. -/
theorem isIdentifier_identifier (hw : w.Avoids keywords) (h : Field.isName name = true) :
    IsIdentifier keywords (w.identifier name) := by
  have hkey := w.naming.isKey_parameter h
  obtain ⟨begun, hbegun, hident⟩ := w.identifier_cases h
  -- The first character is a small letter, or the underscore in front of a digit.
  have hhead : ∃ c ∈ begun.toList.head?, c.isLower = true ∨ c = '_' := by
    rcases hbegun with ⟨⟨c, hc, hlower⟩, -⟩ | rfl
    · exact ⟨c, hc, .inl hlower⟩
    · exact ⟨'_', by simp, .inr rfl⟩
  have hchars : ∀ c ∈ begun.toList, c.isAlphanum = true ∨ c = '_' := by
    rcases hbegun with ⟨-, rfl⟩ | rfl
    · exact hkey.chars
    · simpa using hkey.chars
  obtain ⟨c, hc, hfirst⟩ := hhead
  have hletter : c.isAlpha = true ∨ c = '_' := by
    rcases hfirst with hlower | hunderscore
    · exact .inl (Bool.or_eq_true_iff.2 (.inr hlower))
    · exact .inr hunderscore
  have hsmall : c.isUpper = false := by
    rcases hfirst with hlower | rfl
    · exact (of_small (.inl hlower)).2.1
    · decide
  rcases hident with ⟨hident, hreserved⟩ | hident
  · -- A keyword that is not reserved begins with a capital, and no key does.
    rw [hident]
    refine ⟨⟨c, hc, hletter⟩, hchars, fun hmem => ?_⟩
    rcases hw.reserved _ hmem with hin | hcapital
    · exact hreserved hin
    · rw [Option.mem_def.1 hc, Option.any_some, hsmall] at hcapital
      cases hcapital
  · -- No keyword ends in an underscore.
    rw [hident]
    refine ⟨⟨c, ?_, hletter⟩, ?_, fun hmem => hw.underscore _ hmem (by simp)⟩
    · rw [String.toList_append, List.head?_append, Option.mem_def.1 hc]
      rfl
    · intro d hd
      rw [String.toList_append, List.mem_append] at hd
      rcases hd with hd | hd
      · exact hchars d hd
      · exact .inr (by simpa using hd)

/-- A text without the underscores at its ends. -/
def unmarked (s : String) : List Char := (s.toList.dropWhile (· == '_')).rdropWhile (· == '_')

/-- The marks of an identifier are taken off again. -/
theorem unmarked_identifier (w : Wording) (h : Field.isName name = true) :
    unmarked (w.identifier name) = (w.naming.parameter name).toList := by
  have hkey := w.naming.isKey_parameter h
  obtain ⟨c, hc, hsmall⟩ := hkey.begins
  obtain ⟨cs, hchars⟩ := List.head?_eq_some_iff.1 hc
  -- A key neither begins nor ends with an underscore, so only those that were added go.
  have hfront : ∀ back, ((w.naming.parameter name).toList ++ back).dropWhile (· == '_') =
      (w.naming.parameter name).toList ++ back := by
    intro back
    rw [hchars, List.cons_append, List.dropWhile_cons_of_neg]
    simpa using (of_small hsmall).1
  have hback : (w.naming.parameter name).toList.rdropWhile (· == '_') =
      (w.naming.parameter name).toList := by
    rw [List.rdropWhile_eq_self_iff]
    intro hne hlast
    exact hkey.ends (by rw [List.getLast?_eq_some_getLast hne, beq_iff_eq.1 hlast])
  obtain ⟨begun, hbegun, hident⟩ := w.identifier_cases h
  have hdrop : ∀ back, (begun.toList ++ back).dropWhile (· == '_') =
      (w.naming.parameter name).toList ++ back := by
    intro back
    rcases hbegun with ⟨-, rfl⟩ | rfl
    · exact hfront back
    · rw [String.toList_append, List.append_assoc, show "_".toList = ['_'] from rfl,
        List.singleton_append, List.dropWhile_cons_of_pos (by decide), hfront back]
  rcases hident with ⟨hident, -⟩ | hident
  · rw [unmarked, hident, ← List.append_nil begun.toList, hdrop, List.append_nil, hback]
  · rw [unmarked, hident, String.toList_append, hdrop, show "_".toList = ['_'] from rfl,
      List.rdropWhile_concat_pos _ _ _ (by decide), hback]

/-- Parameters have the same identifier exactly where they have the same key. -/
theorem identifier_eq_iff (w : Wording) {a b : String} (ha : Field.isName a = true)
    (hb : Field.isName b = true) :
    w.identifier a = w.identifier b ↔ w.naming.parameter a = w.naming.parameter b := by
  constructor
  · intro heq
    have hunmarked := congrArg unmarked heq
    rw [w.unmarked_identifier ha, w.unmarked_identifier hb] at hunmarked
    exact String.toList_inj.1 hunmarked
  · intro heq
    rw [identifier, identifier, heq]

end Wording

/-- Whether a function tells the elements of a list apart depends only on which ones it takes for
the same. -/
theorem nodup_map_congr {α β γ : Type} {l : List α} {f : α → β} {g : α → γ}
    (h : ∀ a ∈ l, ∀ b ∈ l, f a = f b ↔ g a = g b) : (l.map f).Nodup ↔ (l.map g).Nodup := by
  rw [List.Nodup, List.pairwise_map, List.Nodup, List.pairwise_map]
  exact List.Pairwise.iff_of_mem fun ha hb => not_congr (h _ ha _ hb)

/-! ## Names of hooks -/

namespace NamingConvention

variable {n : NamingConvention} {keywords segments : List String}

/-- Names fall into words. -/
theorem isWord_of_segments (hsegments : ∀ s ∈ segments, Field.isName s = true) :
    ∀ w ∈ segments.flatMap words, IsWord w := by
  intro w hw
  obtain ⟨s, hs, hw⟩ := List.mem_flatMap.1 hw
  exact isWord_of_mem_words (hsegments s hs) hw

/-- Capitalized words are letters and digits. -/
theorem isAlphanum_of_mem_pascal (hsegments : ∀ s ∈ segments, Field.isName s = true) :
    ∀ c ∈ (pascal segments).toList, c.isAlphanum = true := by
  intro c hc
  rw [pascal, toList_pascal] at hc
  obtain ⟨w, hw, hc⟩ := List.mem_flatMap.1 hc
  have hword := isWord_of_segments hsegments w hw
  obtain ⟨d, ds, hchars, hcapital⟩ := hword.capitalize_toList
  have hsmall : ∀ e ∈ d :: ds, e.isLower = true ∨ e.isDigit = true := hchars ▸ hword.small
  rw [hcapital, List.mem_cons] at hc
  rcases hc with rfl | hc
  · have hd := hsmall d List.mem_cons_self
    rw [isAlphanum_toUpper (toNat_lt_of_small hd), isAlphanum_of_small hd]
  · exact isAlphanum_of_small (hsmall c (List.mem_cons_of_mem d hc))

/-- Capitalized words begin with the capital form of what the first segment begins with. -/
theorem head?_pascal {s : String} {rest : List String} (hs : Field.isName s = true) :
    ∃ c ∈ s.toList.head?, c.isAlphanum = true ∧
      (pascal (s :: rest)).toList.head? = some c.toUpper := by
  obtain ⟨c, w, ws, hc, halnum, hwords, hhead⟩ := exists_words_eq_cons hs
  have hword : IsWord w := isWord_of_mem_words hs (by simp [hwords])
  obtain ⟨d, ds, hchars, hcapital⟩ := hword.capitalize_toList
  have hd : d = c.toLower := by
    rw [hchars] at hhead
    exact Option.some.inj hhead
  refine ⟨c, hc, halnum, ?_⟩
  rw [pascal, toList_pascal, List.flatMap_cons, hwords, List.cons_append, List.flatMap_cons,
    hcapital, hd, (forms_of_isAlphanum halnum).1]
  rfl

/-- Of letters and digits, only the capital forms of digits begin no name. -/
theorem begins_toUpper_iff {c : Char} (h : c.isAlphanum = true) :
    c.toUpper.isAlpha = true ∨ c.toUpper = '_' ↔ c.isDigit = false :=
  forall_ascii (p := fun c => c.isAlphanum = true →
    (c.toUpper.isAlpha = true ∨ c.toUpper = '_' ↔ c.isDigit = false)) (by decide)
    (toNat_lt_of_isAlphanum h) h

/-- Callables are usable. -/
theorem isIdentifier_callable (hn : n = .snake ∨ n = .camel)
    (hkeywords : ∀ k ∈ keywords, ¬ "on".toList <+: k.toList)
    (hsegments : ∀ s ∈ segments, Field.isName s = true) :
    IsIdentifier keywords (n.callable segments) := by
  have hunderscore : ∀ c ∈ (Naming.snake segments).toList, c.isAlphanum = true ∨ c = '_' := by
    refine forall_mem_intercalate (by simp) fun w hw c hc => ?_
    exact .inl (isAlphanum_of_small ((isWord_of_segments hsegments w hw).small c hc))
  have hmark : ∃ rest : String, n.callable segments = "on" ++ rest ∧
      ∀ c ∈ rest.toList, c.isAlphanum = true ∨ c = '_' := by
    rcases hn with rfl | rfl
    · refine ⟨"_" ++ Naming.snake segments, String.append_assoc, ?_⟩
      simpa using hunderscore
    · exact ⟨pascal segments, rfl, fun c hc => .inl (isAlphanum_of_mem_pascal hsegments c hc)⟩
  obtain ⟨rest, hcallable, hrest⟩ := hmark
  have hchars : (n.callable segments).toList = "on".toList ++ rest.toList := by
    rw [hcallable, String.toList_append]
  refine ⟨⟨'o', by rw [hchars]; rfl, by decide⟩, fun c hc => ?_, fun hmem => ?_⟩
  · rw [hchars, List.mem_append] at hc
    rcases hc with hc | hc
    · have hon : ∀ c ∈ "on".toList, c.isAlphanum = true := by simp
      exact .inl (hon c hc)
    · exact hrest c hc
  · exact hkeywords _ hmem ⟨rest.toList, hchars.symm⟩

/-- A controller is usable unless the first segment of its path begins with a digit. -/
theorem isIdentifier_controller_iff (hn : n = .snake ∨ n = .camel)
    (hkeywords : ∀ k ∈ keywords, ¬ "Controller".toList <:+ k.toList) {s : String}
    {rest : List String} (hsegments : ∀ s' ∈ s :: rest, Field.isName s' = true) :
    IsIdentifier keywords (n.controller (s :: rest)) ↔ beginsWithDigit s = false := by
  have hchars : (n.controller (s :: rest)).toList =
      (pascal (s :: rest)).toList ++ "Controller".toList := by
    rcases hn with rfl | rfl <;> exact String.toList_append
  obtain ⟨c, hc, halnum, hhead⟩ := head?_pascal (hsegments s List.mem_cons_self)
  have hbegins : (n.controller (s :: rest)).toList.head? = some c.toUpper := by
    rw [hchars, List.head?_append, hhead]
    rfl
  rw [beginsWithDigit, Option.mem_def.1 hc, Option.any_some, ← begins_toUpper_iff halnum]
  constructor
  · intro hident
    obtain ⟨d, hd, hletter⟩ := hident.begins
    rw [hbegins] at hd
    rwa [Option.some.inj hd]
  · intro hletter
    refine ⟨⟨c.toUpper, hbegins, hletter⟩, fun d hd => .inl ?_, fun hmem => ?_⟩
    · have hmark : ∀ c ∈ "Controller".toList, c.isAlphanum = true := by simp
      rw [hchars, List.mem_append] at hd
      exact hd.elim (isAlphanum_of_mem_pascal hsegments d) (hmark d)
    · exact hkeywords _ hmem ⟨_, hchars.symm⟩

end NamingConvention

/-! ## Names in a program -/

/-- The values that stand for parameters, arguments first. -/
def Value.parameters (v : Value) : List Value := v.itemsAt "arguments" ++ v.itemsAt "options"

namespace Wording

/-- The keys and the identifiers of a command's parameters are those of their names. -/
theorem map_parameters {α : Type} (w : Wording) (cliName : String) (c : Command) (b : Hook.Binding)
    (f : String → String → α) :
    (w.command cliName c b).parameters.map (fun p => f (p.textAt "key") (p.textAt "ident")) =
      c.parameterNames.map fun n => f (w.naming.parameter n) (w.identifier n) := by
  show (c.arguments.map w.argument ++ c.options.map (w.option cliName c.path)).map
    (fun p => f (p.textAt "key") (p.textAt "ident")) = _
  rw [Command.parameterNames, List.map_append, List.map_append, List.map_map, List.map_map,
    List.map_map, List.map_map]
  rfl

/-- Templates are given the identifiers of a command's parameters, in their order. -/
theorem map_ident_parameters (w : Wording) (cliName : String) (c : Command) (b : Hook.Binding) :
    (w.command cliName c b).parameters.map (·.textAt "ident") =
      c.parameterNames.map w.identifier := w.map_parameters cliName c b fun _ ident => ident

/-- The identifier of a parameter is a text. -/
theorem field_ident_parameters (w : Wording) (cliName : String) (c : Command) (b : Hook.Binding) :
    ∀ p ∈ (w.command cliName c b).parameters, p.field "ident" = .str (p.textAt "ident") := by
  intro p hp
  rcases List.mem_append.1 hp with hp | hp
  · have hargument : p ∈ c.arguments.map w.argument := hp
    obtain ⟨a, -, rfl⟩ := List.mem_map.1 hargument
    rfl
  · have hoption : p ∈ c.options.map (w.option cliName c.path) := hp
    obtain ⟨o, -, rfl⟩ := List.mem_map.1 hoption
    rfl

end Wording

namespace Blueprint

/-- The keywords of Python. -/
def pythonKeywords : List String :=
  ["False", "None", "True", "and", "as", "assert", "async", "await", "break", "class", "continue",
   "def", "del", "elif", "else", "except", "finally", "for", "from", "global", "if", "import",
   "in", "is", "lambda", "nonlocal", "not", "or", "pass", "raise", "return", "try", "while",
   "with", "yield"]

/-- The keywords of JavaScript in modules, which TypeScript shares. -/
def scriptKeywords : List String :=
  ["await", "break", "case", "catch", "class", "const", "continue", "debugger", "default",
   "delete", "do", "else", "enum", "export", "extends", "false", "finally", "for", "function",
   "if", "implements", "import", "in", "instanceof", "interface", "let", "new", "null", "package",
   "private", "protected", "public", "return", "static", "super", "switch", "this", "throw",
   "true", "try", "typeof", "var", "void", "while", "with", "yield"]

/-- The keywords of Rust, and the words that it keeps for later. -/
def rustKeywords : List String :=
  ["as", "async", "await", "break", "const", "continue", "crate", "dyn", "else", "enum", "extern",
   "false", "fn", "for", "if", "impl", "in", "let", "loop", "match", "mod", "move", "mut", "pub",
   "ref", "return", "self", "Self", "static", "struct", "super", "trait", "true", "type",
   "unsafe", "use", "where", "while", "abstract", "become", "box", "do", "final", "macro",
   "override", "priv", "try", "typeof", "unsized", "virtual", "yield"]

/-- The targets at hand with the keywords of their languages. -/
def languages : List (Blueprint × List String) :=
  [(python, pythonKeywords), (javascript .plain, scriptKeywords),
   (javascript .typed, scriptKeywords), (rust, rustKeywords)]

/-- Every target has keywords. -/
theorem map_fst_languages : languages.map (·.1) = builtin := rfl

variable {w : Blueprint} {keywords : List String}

/-- No target writes one of its keywords for a name. -/
theorem avoids_of_mem_languages (h : (w, keywords) ∈ languages) : w.wording.Avoids keywords := by
  simp only [languages, List.mem_cons, Prod.mk.injEq, List.not_mem_nil, or_false] at h
  rcases h with ⟨rfl, rfl⟩ | ⟨rfl, rfl⟩ | ⟨rfl, rfl⟩ | ⟨rfl, rfl⟩ <;>
    constructor <;> decide +kernel

/-- Targets name callables in snake case or in camel case. -/
theorem naming_of_mem_builtin (h : w ∈ builtin) :
    w.target.naming = .snake ∨ w.target.naming = .camel := by
  simp only [builtin, List.mem_cons, List.not_mem_nil, or_false] at h
  rcases h with rfl | rfl | rfl | rfl
  · exact .inl rfl
  · exact .inr rfl
  · exact .inr rfl
  · exact .inl rfl

/-- The identifiers of the options of a command line are those of their names. -/
theorem map_ident_globalOptions (h : w ∈ builtin) (t : CommandTree) :
    ((w.target.root t).itemsAt "global_options").map (·.textAt "ident") =
      t.globalOptions.map fun o => w.wording.identifier o.name := by
  have hroot : (w.target.root t).itemsAt "global_options" =
      t.globalOptions.map (w.wording.option t.cliName []) := by
    simp only [builtin, List.mem_cons, List.not_mem_nil, or_false] at h
    rcases h with rfl | rfl | rfl | rfl <;> rfl
  rw [hroot, List.map_map]
  rfl

/-- **Which generated names are usable.** In what every target makes of a tree that is built, the
identifiers of all parameters are identifiers of the target's language. So is the name that the stub
of a command defines, unless the command is managed and its path begins with a digit. -/
theorem identifiers_of_build (hw : (w, keywords) ∈ languages) {maxDepth : Nat} {document : Value}
    {t : CommandTree} (h : CommandTree.build maxDepth document = .ok t) :
    (∀ o ∈ (w.target.root t).itemsAt "global_options",
        IsIdentifier keywords (o.textAt "ident")) ∧
      ∀ c ∈ t.walk,
        (∀ b, ∀ p ∈ (w.wording.command t.cliName c b).parameters,
          IsIdentifier keywords (p.textAt "ident")) ∧
        ∀ threshold index, Hook.Index.build t (.make w.target.naming threshold) = .ok index →
          ∃ b, index.get? c.path = some b ∧ (IsIdentifier keywords b.definedName ↔
            (c.lifecycle.isManaged = true → ∀ s ∈ c.path.head?, beginsWithDigit s = false)) := by
  have havoids := avoids_of_mem_languages hw
  have hbuiltin : w ∈ builtin := by
    rw [← map_fst_languages]
    exact List.mem_map_of_mem hw
  refine ⟨fun o ho => ?_, fun c hc => ⟨fun b p hp => ?_, fun threshold index hindex => ?_⟩⟩
  · have hident := List.mem_map_of_mem (f := (·.textAt "ident")) ho
    rw [map_ident_globalOptions hbuiltin] at hident
    obtain ⟨g, hg, heq⟩ := List.mem_map.1 hident
    rw [← heq]
    exact Wording.isIdentifier_identifier havoids (CommandTree.isName_of_mem_globalOptions h g hg)
  · have hident := List.mem_map_of_mem (f := (·.textAt "ident")) hp
    rw [Wording.map_ident_parameters] at hident
    obtain ⟨name, hname, heq⟩ := List.mem_map.1 hident
    rw [← heq]
    exact Wording.isIdentifier_identifier havoids
      (CommandTree.isName_of_mem_parameterNames h hc name hname)
  · have hnaming := naming_of_mem_builtin hbuiltin
    have hr : 1 ≤ (Hook.Resolver.make w.target.naming threshold).threshold :=
      Nat.le_max_right threshold 1
    have hsegments := CommandTree.isName_of_mem_path h hc
    refine ⟨_, Hook.Index.get?_of_build (CommandTree.nodup_paths_of_build h) hindex hc, ?_⟩
    rw [Hook.Resolver.definedName_eq hr hc]
    obtain ⟨s, rest, hpath⟩ := List.exists_cons_of_ne_nil c.path_ne_nil
    -- A controller is made from the whole path, a callable from the segments that it keeps.
    cases hmanaged : c.lifecycle.isManaged with
    | true =>
      rw [hpath] at hsegments
      rw [if_pos rfl, hpath]
      refine (NamingConvention.isIdentifier_controller_iff hnaming havoids.controller
        hsegments).trans ?_
      simp
    | false =>
      rw [if_neg (by simp)]
      refine iff_of_true ?_ nofun
      exact NamingConvention.isIdentifier_callable hnaming havoids.callable
        fun s hs => hsegments s (Hook.Resolver.keptSegments_subset hs)

/-- Commands whose names begin with digits, and parameters with awkward names. -/
def digits : Value :=
  .object [("name", .str "tool"),
    ("options", .list [.object [("name", .str "2-colors")]]),
    ("commands", .object [
      ("2fa", .object [("desc", .str "Two factors"), ("lifecycle", .str "managed"),
        ("args", .list [.object [("name", .str "class")]]),
        ("options", .list [.object [("name", .str "3d")]])]),
      ("7zip", .object [("desc", .str "Pack files")])])]

/-- Two commands whose names begin with digits. -/
theorem identifiers_of_build_digits : ∃ t, CommandTree.build 16 digits = .ok t ∧
    t.walk.map (·.path) = [["2fa"], ["7zip"]] ∧
    ∀ w keywords, (w, keywords) ∈ languages →
      (∀ o ∈ (w.target.root t).itemsAt "global_options",
        IsIdentifier keywords (o.textAt "ident")) ∧
      ∃ index, Hook.Index.build t (.make w.target.naming 3) = .ok index ∧ ∀ c ∈ t.walk,
        (∀ b, ∀ p ∈ (w.wording.command t.cliName c b).parameters,
          IsIdentifier keywords (p.textAt "ident")) ∧
        ∃ b, index.get? c.path = some b ∧ (IsIdentifier keywords b.definedName ↔
          (c.lifecycle.isManaged = true → ∀ s ∈ c.path.head?, beginsWithDigit s = false)) := by
  have hbuilt : (CommandTree.build 16 digits).toOption.any (fun t =>
      t.walk.map (·.path) = [["2fa"], ["7zip"]] ∧ ∀ w ∈ languages,
        (Hook.Index.build t (.make w.1.target.naming 3)).toBool = true) = true := by
    decide +kernel
  simp only [Option.any_eq_true, Outcome.toOption_eq_some, decide_eq_true_eq] at hbuilt
  obtain ⟨t, ht, hpaths, hindex⟩ := hbuilt
  refine ⟨t, ht, hpaths, fun w keywords hw => ?_⟩
  obtain ⟨hglobal, hcommands⟩ := identifiers_of_build hw ht
  obtain ⟨index, hindex⟩ := Outcome.toBool_eq_true.1 (hindex _ hw)
  refine ⟨hglobal, index, hindex, fun c hc => ?_⟩
  exact ⟨(hcommands c hc).1, (hcommands c hc).2 3 index hindex⟩

/-- The stub of a managed command defines a class whose name begins with a digit. -/
theorem not_isIdentifier_digits : ∃ t, CommandTree.build 16 digits = .ok t ∧ ∃ c ∈ t.walk,
    ∀ w keywords, (w, keywords) ∈ languages → ∃ index b,
      Hook.Index.build t (.make w.target.naming 3) = .ok index ∧ index.get? c.path = some b ∧
      b.definedName = "2faController" ∧ ¬ IsIdentifier keywords b.definedName := by
  have hbuilt : (CommandTree.build 16 digits).toOption.any (fun t => t.walk.any fun c =>
      ∀ w ∈ languages, (Hook.Index.build t (.make w.1.target.naming 3)).toOption.any fun index =>
        (index.get? c.path).any fun b => b.definedName = "2faController") = true := by
    decide +kernel
  simp only [Option.any_eq_true, Outcome.toOption_eq_some, List.any_eq_true,
    decide_eq_true_eq] at hbuilt
  obtain ⟨t, ht, c, hc, hdefined⟩ := hbuilt
  refine ⟨t, ht, c, hc, fun w keywords hw => ?_⟩
  obtain ⟨index, hindex, b, hb, hname⟩ := hdefined _ hw
  refine ⟨index, b, hindex, hb, hname, fun hident => ?_⟩
  obtain ⟨d, hd, hletter⟩ := hident.begins
  rw [hname] at hd
  obtain rfl : d = '2' := (Option.some.inj hd).symm
  revert hletter
  decide

end Blueprint

end CliGen
