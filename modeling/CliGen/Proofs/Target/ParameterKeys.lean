import CliGen.Proofs.Target.Identifiers

/-!
# Keys of parameters

A JavaScript hook picks its parameters from an object by their keys, which are written in camel
case. Two parameters of a command have one key exactly where capitals tell the same words apart in
their names (`Target.JavaScript.distinct_parameters_iff`): names that differ before a digit only,
such as `a1` and `a-1`, pass for different ones until then.

The values of arguments reach the object under their keys. Those of options are stored by the
library that reads the command line, under a name that it makes of the long flag itself. The two
agree exactly on names that are written with dashes (`Target.JavaScript.stored_eq_key_iff`).
-/

namespace CliGen

open Naming

variable {maxDepth : Nat} {document : Value} {t : CommandTree} {c : Command}

namespace Target.JavaScript

/-! ## Parameters with one key -/

/-- One entry of a pattern, from a parameter's name. -/
def patternEntryOf (name : String) : String :=
  if wording.naming.parameter name == wording.identifier name then wording.naming.parameter name
  else wording.naming.parameter name ++ ": " ++ wording.identifier name

/-- The entries of a command's pattern are those of its parameters' names. -/
theorem map_patternEntry (cliName : String) (c : Command) (b : Hook.Binding) :
    (parameters (wording.command cliName c b)).map patternEntry =
      c.parameterNames.map patternEntryOf :=
  wording.map_parameters cliName c b fun key ident =>
    if key == ident then key else key ++ ": " ++ ident

/-- **Which parameters merge.** The keys of a command's parameters are different exactly where
capitals tell their names apart, and so are the identifiers that a hook's pattern binds them to.
Capitals tell all names apart in which no word but the first begins with a digit. -/
theorem distinct_parameters_iff (h : CommandTree.build maxDepth document = .ok t)
    (hc : c ∈ t.walk) (b : Hook.Binding) :
    let params := parameters (wording.command t.cliName c b)
    params.map patternEntry = c.parameterNames.map patternEntryOf ∧
      ((params.map (·.textAt "key")).Nodup ↔ (c.parameterNames.map capitalWords).Nodup) ∧
      ((params.map (·.textAt "ident")).Nodup ↔ (c.parameterNames.map capitalWords).Nodup) ∧
      ((∀ name ∈ c.parameterNames, ∀ w ∈ (words name).tail, beginsWithDigit w = false) →
        (c.parameterNames.map capitalWords).Nodup) := by
  intro params
  have hnames := CommandTree.isName_of_mem_parameterNames h hc
  have hkeys : (params.map (·.textAt "key")).Nodup ↔
      (c.parameterNames.map capitalWords).Nodup := by
    have hmap := wording.map_parameters t.cliName c b fun key _ => key
    refine Iff.trans (by rw [← hmap]; rfl) (nodup_map_congr fun x hx y hy => ?_)
    exact camel_eq_iff (hnames x hx) (hnames y hy)
  have hidents : (params.map (·.textAt "ident")).Nodup ↔
      (c.parameterNames.map capitalWords).Nodup := by
    have hmap := wording.map_ident_parameters t.cliName c b
    refine Iff.trans (by rw [← hmap]; rfl) (nodup_map_congr fun x hx y hy => ?_)
    exact (wording.identifier_eq_iff (hnames x hx) (hnames y hy)).trans
      (camel_eq_iff (hnames x hx) (hnames y hy))
  refine ⟨map_patternEntry t.cliName c b, hkeys, hidents, fun hletters => ?_⟩
  have hsame : c.parameterNames.map capitalWords = c.parameterNames.map words :=
    List.map_congr_left fun name hname => capitalWords_eq_words (hletters name hname)
  -- The tree tells names apart by their identifiers, and so by their words.
  have hsnake := CommandTree.nodup_identifiers_of_parameterNames h hc
  rw [show identifier = "_".intercalate ∘ words from rfl, ← List.map_map] at hsnake
  rw [hsame]
  exact hsnake.of_map

/-- The parameters of a command whose identifiers are distinct. -/
theorem distinct_parameters_iff_equipped : ∃ t c,
    CommandTree.build 2 CommandTree.equipped = .ok t ∧ c ∈ t.walk ∧
    c.parameterNames = ["host", "port", "format"] ∧ ∀ b,
      let params := parameters (wording.command t.cliName c b)
      params.map patternEntry = c.parameterNames.map patternEntryOf ∧
        ((params.map (·.textAt "key")).Nodup ↔ (c.parameterNames.map capitalWords).Nodup) ∧
        ((params.map (·.textAt "ident")).Nodup ↔ (c.parameterNames.map capitalWords).Nodup) ∧
        (c.parameterNames.map capitalWords).Nodup := by
  have hbuilt : (CommandTree.build 2 CommandTree.equipped).toOption.any (fun t =>
      t.walk.any fun c => c.parameterNames = ["host", "port", "format"] ∧
        ∀ name ∈ c.parameterNames, ∀ w ∈ (words name).tail, beginsWithDigit w = false) = true := by
    decide +kernel
  simp only [Option.any_eq_true, Outcome.toOption_eq_some, List.any_eq_true,
    decide_eq_true_eq] at hbuilt
  obtain ⟨t, ht, c, hc, hnames, hletters⟩ := hbuilt
  refine ⟨t, c, ht, hc, hnames, fun b => ?_⟩
  obtain ⟨hentries, hkeys, hidents, hdistinct⟩ := distinct_parameters_iff ht hc b
  exact ⟨hentries, hkeys, hidents, hdistinct hletters⟩

/-- An argument and an option whose names differ before a digit. -/
def numbered : Value :=
  .object [("name", .str "tool"), ("commands", .object [
    ("run", .object [("desc", .str "Run"), ("args", .list [.object [("name", .str "a1")]]),
      ("options", .list [.object [("name", .str "a-1")]])])])]

/-- The pattern of a hook binds one name twice, and picks both values by one key. -/
theorem duplicate_parameters_numbered : ∃ t c, CommandTree.build 16 numbered = .ok t ∧
    c ∈ t.walk ∧ ∀ b,
      let node := wording.command t.cliName c b
      pattern node = "\x7b a1, a1 \x7d" ∧ ¬ ((parameters node).map (·.textAt "key")).Nodup ∧
        ¬ ((parameters node).map (·.textAt "ident")).Nodup := by
  have hbuilt : (CommandTree.build 16 numbered).toOption.any (fun t => t.walk.any fun c =>
      c.parameterNames = ["a1", "a-1"]) = true := by
    decide +kernel
  simp only [Option.any_eq_true, Outcome.toOption_eq_some, List.any_eq_true,
    decide_eq_true_eq] at hbuilt
  obtain ⟨t, ht, c, hc, hnames⟩ := hbuilt
  refine ⟨t, c, ht, hc, fun b => ?_⟩
  have hentries := map_patternEntry t.cliName c b
  have hkeys := wording.map_parameters t.cliName c b fun key _ => key
  have hidents := wording.map_ident_parameters t.cliName c b
  rw [hnames] at hentries hkeys hidents
  refine ⟨?_, ?_, ?_⟩
  · rw [pattern, hentries]
    decide +kernel
  · show ¬ ((wording.command t.cliName c b).parameters.map (·.textAt "key")).Nodup
    rw [hkeys]
    decide +kernel
  · show ¬ ((wording.command t.cliName c b).parameters.map (·.textAt "ident")).Nodup
    rw [hidents]
    decide +kernel

end Target.JavaScript

/-! ## Where option values are stored -/

namespace Naming

/-- The name under which the library that reads the command line stores the value of an option, from
the name in its long flag: without `no-` in front, it is cut at dashes, and the pieces behind the
first are capitalized. -/
def storedName (name : String) : String :=
  let plain := if "no-".toList <+: name.toList then String.ofList (name.toList.drop 3) else name
  match Text.splitAt '-' plain with
  | [] => ""
  | p :: ps => String.join (p :: ps.map capitalize)

/-- A name that is written with dashes: they alone separate its words, capitals stand behind them
only, and it does not begin with `no-`. -/
structure IsDashed (name : String) : Prop where
  not_negated : ¬ "no-".toList <+: name.toList
  dashes : ∀ c ∈ name.toList, c ≠ '_' ∧ c ≠ '.'
  capitals : (' ' :: name.toList).IsChain fun b c => c.isUpper = true → b = '-'

/-- A name is stored in camel case that cuts at dashes and leaves all letters as they are. -/
theorem toList_storedName (name : String) : (storedName name).toList =
    camelFrom (· == '-') id false
      (if "no-".toList <+: name.toList then name.toList.drop 3 else name.toList) := by
  have hjoin : ∀ cs p : List Char, ∀ ps, Text.pieces (· == '-') cs = p :: ps →
      (String.join (String.ofList p :: (ps.map String.ofList).map capitalize)).toList =
        camelFrom (· == '-') id false cs := by
    intro cs p ps hpieces
    rw [(camelFrom_of_pieces hpieces).1, String.join_cons, String.toList_append, toList_pascal,
      String.toList_ofList, List.map_id, List.flatMap_map]
    simp only [String.toList_ofList, List.map_id]
  rw [storedName]
  by_cases hnegated : "no-".toList <+: name.toList
  · simp only [if_pos hnegated]
    obtain ⟨p, ps, hpieces⟩ :=
      List.exists_cons_of_ne_nil (Text.pieces_ne_nil (· == '-') (name.toList.drop 3))
    rw [Text.splitAt, String.toList_ofList, hpieces, List.map_cons]
    exact hjoin _ p ps hpieces
  · simp only [if_neg hnegated]
    obtain ⟨p, ps, hpieces⟩ :=
      List.exists_cons_of_ne_nil (Text.pieces_ne_nil (· == '-') name.toList)
    rw [Text.splitAt, hpieces, List.map_cons]
    exact hjoin _ p ps hpieces

/-- A name is stored in the camel case of its words exactly where it is written with dashes. -/
theorem storedName_eq_camel_iff {name : String} (h : Field.isName name = true) :
    storedName name = camel name ↔ IsDashed name := by
  have hchars := isNameChar_of_mem h
  rw [← String.toList_inj, toList_storedName, toList_camel_eq_camelFrom h]
  by_cases hnegated : "no-".toList <+: name.toList
  · -- The two letters in front are missing from what is stored.
    refine iff_of_false (fun heq => ?_) fun hdashed => hdashed.not_negated hnegated
    obtain ⟨rest, hrest⟩ := hnegated
    have hcount := congrArg (List.countP Char.isAlphanum) heq
    rw [if_pos ⟨rest, hrest⟩, ← hrest] at hcount
    rw [← hrest] at hchars
    have hstored : (camelFrom (· == '-') id false rest).countP Char.isAlphanum =
        rest.countP Char.isAlphanum := by
      refine countP_camelFrom false fun c hc => ⟨fun hdash => ?_, rfl, ?_⟩
      · rw [beq_iff_eq.1 hdash]
        decide
      · exact (hchars c (List.mem_append_right _ hc)).toNat_lt
    have hkey : (camelFrom isSeparator Char.toLower false ("no-".toList ++ rest)).countP
        Char.isAlphanum = ("no-".toList ++ rest).countP Char.isAlphanum := by
      refine countP_camelFrom false fun c hc => ⟨fun hseparates => ?_, ?_⟩
      · rw [(hchars c hc).isSeparator_eq] at hseparates
        simpa using hseparates
      · exact isAlphanum_toLower (hchars c hc).toNat_lt
    have hfront : "no-".toList.countP Char.isAlphanum = 2 := by decide
    rw [hkey, List.countP_append, hfront, List.drop_left' (by rfl), hstored] at hcount
    omega
  · rw [if_neg hnegated, eq_comm]
    have hiff := camelFrom_eq_iff (a := ' ') hchars
    constructor
    · intro heq
      obtain ⟨hdashes, hcapitals⟩ := hiff.1 heq
      exact ⟨hnegated, hdashes, hcapitals⟩
    · intro hdashed
      exact hiff.2 ⟨hdashed.dashes, hdashed.capitals⟩

end Naming

namespace Target.JavaScript

/-- The long flag of an option is its name behind two dashes. -/
theorem optionFlags_eq (o : Value) : ∃ front back,
    optionFlags o = Quoted.quote (front ++ ("--" ++ o.textAt "name") ++ back) := by
  rw [optionFlags]
  exact ⟨_, _, congrArg Quoted.quote (congrArg (· ++ _) String.append_assoc)⟩

/-- **Where a hook finds the value of an option.** An option is declared with its own name as long
flag. If the library stores values under names that it makes of long flags, cut at dashes, then the
name of an option's value is the key by which a hook picks it exactly where the option's name is
written with dashes. -/
theorem stored_eq_key_iff {stored : String → String}
    (hstored : ∀ name, stored ("--" ++ name) = storedName name)
    (h : CommandTree.build maxDepth document = .ok t) (hc : c ∈ t.walk) (b : Hook.Binding) :
    ∀ o ∈ (wording.command t.cliName c b).itemsAt "options",
      (∃ front back, optionFlags o = Quoted.quote (front ++ ("--" ++ o.textAt "name") ++ back)) ∧
        (stored ("--" ++ o.textAt "name") = o.textAt "key" ↔ IsDashed (o.textAt "name")) := by
  intro o ho
  have hoption : ∃ option ∈ c.options, wording.option t.cliName c.path option = o :=
    List.mem_map.1 ho
  obtain ⟨option, hoption, rfl⟩ := hoption
  have hname : Field.isName option.name = true := by
    refine CommandTree.isName_of_mem_parameterNames h hc option.name ?_
    exact List.mem_append_right _ (List.mem_map_of_mem hoption)
  refine ⟨optionFlags_eq _, ?_⟩
  rw [hstored]
  exact storedName_eq_camel_iff hname

/-- Options whose names are written in different ways. -/
def spelled : Value :=
  .object [("name", .str "tool"), ("commands", .object [
    ("run", .object [("desc", .str "Run"), ("options", .list [
      .object [("name", .str "max-depth")], .object [("name", .str "dry_run")],
      .object [("name", .str "no-color")]])])])]

/-- A library that stores values as is supposed. -/
def storedUnder (flag : String) : String := storedName (String.ofList (flag.toList.drop 2))

/-- A flag is stored under its name without the dashes. -/
theorem storedUnder_flag (name : String) : storedUnder ("--" ++ name) = storedName name := by
  have hdrop : ("--" ++ name).toList.drop 2 = name.toList := by
    rw [String.toList_append]
    exact List.drop_left' rfl
  rw [storedUnder, hdrop, String.ofList_toList]

/-- Three spellings of options, beside the keys they are picked by. -/
theorem stored_eq_key_iff_spelled : ∃ t c, CommandTree.build 16 spelled = .ok t ∧ c ∈ t.walk ∧
    c.options.map (·.name) = ["max-depth", "dry_run", "no-color"] ∧
    ∀ b, ∀ o ∈ (wording.command t.cliName c b).itemsAt "options",
      (∃ front back, optionFlags o = Quoted.quote (front ++ ("--" ++ o.textAt "name") ++ back)) ∧
        (storedUnder ("--" ++ o.textAt "name") = o.textAt "key" ↔ IsDashed (o.textAt "name")) := by
  have hbuilt : (CommandTree.build 16 spelled).toOption.any (fun t => t.walk.any fun c =>
      c.options.map (·.name) = ["max-depth", "dry_run", "no-color"]) = true := by
    decide +kernel
  simp only [Option.any_eq_true, Outcome.toOption_eq_some, List.any_eq_true,
    decide_eq_true_eq] at hbuilt
  obtain ⟨t, ht, c, hc, hnames⟩ := hbuilt
  exact ⟨t, c, ht, hc, hnames, fun b => stored_eq_key_iff storedUnder_flag ht hc b⟩

/-- The value of `dry_run` is stored as `dry_run`, and a hook picks `dryRun`. -/
theorem stored_ne_key_spelled : ∃ t c, CommandTree.build 16 spelled = .ok t ∧ c ∈ t.walk ∧
    ∃ option ∈ c.options, option.name = "dry_run" ∧
      (wording.option t.cliName c.path option).textAt "key" = "dryRun" ∧
      ∀ stored : String → String, (∀ name, stored ("--" ++ name) = storedName name) →
        stored ("--" ++ option.name) = "dry_run" := by
  have hbuilt : (CommandTree.build 16 spelled).toOption.any (fun t => t.walk.any fun c =>
      c.options.any fun option => option.name = "dry_run") = true := by
    decide +kernel
  simp only [Option.any_eq_true, Outcome.toOption_eq_some, List.any_eq_true,
    decide_eq_true_eq] at hbuilt
  obtain ⟨t, ht, c, hc, option, hoption, hname⟩ := hbuilt
  refine ⟨t, c, ht, hc, option, hoption, hname, ?_, fun stored hstored => ?_⟩
  · show camel option.name = "dryRun"
    rw [hname]
    decide +kernel
  · rw [hstored, hname]
    decide +kernel

end Target.JavaScript

end CliGen
