import CliGen.Proofs.Target.Cover
import CliGen.Proofs.Target.Python
import CliGen.Proofs.Target.PythonParameters
import CliGen.Proofs.Toml.Line
import CliGen.Proofs.Tree.Placement

/-!
# Manifests in TOML

The manifests of a Python package and of a Rust crate are documents in TOML. They are read line by
line, and what is read is compared with the tree.

Texts are put between quotes, so they are read back but for the one character that a quoted text
shows and TOML refuses. The name of the command line is also put in the place of a key, where its
points part it.
-/

namespace CliGen.Manifest

open Target Template Toml

variable {t : CommandTree}

/-! ## Names -/

/-- No name has a delete character. -/
theorem delete_notMem_of_isName {s : String} (h : Field.isName s = true) : delete ∉ s.toList := by
  intro hmem
  rcases Naming.isNameChar_of_mem h delete hmem with h | h | h | h <;> cases h

/-- No name of a package has a delete character. -/
theorem delete_notMem_packageName (t : CommandTree) : delete ∉ t.packageName.toList := by
  intro hmem
  rcases Python.isAlphanum_of_mem_packageName hmem with h | h <;> cases h

/-- A text of the context is shown between quotes. -/
theorem fill_quote {helpers : Helpers} {name key s : String} {f : Value → String} {context : Value}
    (hhelper : helpers.lookup name = some (Helper.ofValue f))
    (hquote : ∀ s, f (.str s) = Quoted.quote s) (hvalue : context.get? key = some (.str s))
    (ps : List Piece) : fill helpers [.outermost context] (call name (field key) :: ps) =
      (fill helpers [.outermost context] ps).map (Quoted.quote s ++ ·) := by
  refine fill_call hhelper ?_ ps
  rw [value_field hvalue, ← hquote]
  rfl

/-! ## Command lines with one command -/

/-- A command line with some texts. -/
def plain (name version tagline : String) : Value := .object [
  ("name", .str name), ("version", .str version), ("tagline", .str tagline),
  ("commands", .object [("run", .object [("desc", .str "Run it")])])]

/-- A tree says what was declared, and all targets can render it. -/
def IsReady (name version tagline : String) (tree : CommandTree) : Prop :=
  (tree.cliName = name ∧ tree.version = version ∧ tree.tagline = tagline) ∧
  tree.maxDepth ≤ 16 ∧ ∀ w ∈ Blueprint.builtin,
    (Hook.Index.build tree (.make w.target.naming 3)).toBool = true

instance (name version tagline : String) : DecidablePred (IsReady name version tagline) :=
  fun _ => inferInstanceAs (Decidable (_ ∧ _))

/-- A command line with one command is rendered for all targets, if its tree is as expected. -/
theorem exists_render_plain (name version tagline : String)
    (h : (CommandTree.build 16 (plain name version tagline)).toOption.any
      (fun tree => decide (IsReady name version tagline tree)) = true) :
    ∃ tree, CommandTree.build 16 (plain name version tagline) = .ok tree ∧
      (tree.cliName = name ∧ tree.version = version ∧ tree.tagline = tagline) ∧
      ∀ w ∈ Blueprint.builtin, ∃ files,
        Registry.builtin.render tree ⟨3, 16⟩ w.target.id = .ok files := by
  simp only [Option.any_eq_true, Outcome.toOption_eq_some, decide_eq_true_eq] at h
  obtain ⟨tree, hbuild, htexts, hfits, hindex⟩ := h
  exact ⟨tree, hbuild, htexts, fun w hw => Blueprint.exists_render hw hbuild (hindex w hw) hfits⟩

/-! ## A Python package -/

namespace Package

/-- What starts the command line. -/
def main (t : CommandTree) : String := t.packageName ++ ".cli:main"

/-- The lines of the manifest. -/
def lines (t : CommandTree) : List String := [
  "[build-system]",
  "requires = [\"setuptools>=61.0\"]",
  "build-backend = \"setuptools.build_meta\"",
  "",
  "[project]",
  "name = " ++ Quoted.quote t.cliName,
  "version = " ++ Quoted.quote t.version,
  "description = " ++ Quoted.quote t.tagline,
  "requires-python = \">=3.8\"",
  "dependencies = [\"click>=8.0\"]",
  "",
  "[project.scripts]",
  t.cliName ++ " = " ++ Quoted.quote (main t),
  "",
  "[tool.setuptools.packages.find]",
  "where = [\"src\"]"]

/-- The name of a package needs no escapes. -/
theorem quote_main (t : CommandTree) :
    Quoted.quote (main t) = "\"" ++ t.packageName ++ ".cli:main\"" := by
  have hname : ∀ c ∈ t.packageName.toList, Naming.IsNameChar c := fun c hc =>
    (Python.isAlphanum_of_mem_packageName hc).imp_right fun h => .inr (.inl h)
  have hmain : Quoted.encode (main t).toList = t.packageName.toList ++ ".cli:main".toList := by
    rw [main, String.toList_append, Quoted.encode, List.flatMap_append]
    exact congrArg₂ _ (Quoted.encode_of_isNameChar hname) (by decide)
  rw [← String.toList_inj, Quoted.quote, hmain]
  simp

/-- The template shows these lines. -/
theorem content_eq {context : Value} {text : String}
    (hidentity : ∀ key ∈ Cover.identity, context.get? key = (Target.python.root t).get? key)
    (h : Target.python.engine.render "python/pyproject" context = .ok text) :
    text = String.join ((lines t).map (· ++ "\n")) := by
  have hcli : Shows Target.python.engine.helpers context "cli_name" t.cliName :=
    ⟨rfl, hidentity "cli_name" (by simp [Cover.identity])⟩
  have hpackage : Shows Target.python.engine.helpers context "package" t.packageName :=
    ⟨rfl, hidentity "package" (by simp [Cover.identity])⟩
  have hversion : context.get? "version" = some (.str t.version) :=
    hidentity "version" (by simp [Cover.identity])
  have htagline : context.get? "tagline" = some (.str t.tagline) :=
    hidentity "tagline" (by simp [Cover.identity])
  have hquote (s : String) : Target.Python.literal (.str s) = Quoted.quote s := rfl
  have hhelper : Target.python.engine.helpers.lookup "py_str" =
      some (Helper.ofValue Target.Python.literal) := rfl
  have hfill := Engine.fill_of_render (t := Target.Python.manifest) rfl h
  rw [Target.Python.manifest] at hfill
  simp only [fill_lines, fill_text, fill_quote hhelper hquote hcli.value,
    fill_quote hhelper hquote hversion, fill_quote hhelper hquote htagline, fill_put hcli,
    fill_put hpackage, fill_nil, Option.map_some, Option.some.injEq] at hfill
  rw [← hfill, lines, quote_main]
  simp only [List.map_cons, List.map_nil, String.join_cons, String.join_nil, String.append_assoc]
  rfl

/-- The table of scripts, from the parts that the name of the command line has as a key. -/
def scripts? (t : CommandTree) (front : List (List Char)) (last : List Char) : Option Entries :=
  if [] ∉ front ++ [last] ∧ front.length < depthLimit - 1 then
    Entries.define (front.map String.ofList) (String.ofList last) (.str (main t)) []
  else none

/-- The document, from its texts and the table of scripts. -/
def document (name version tagline : Value) (scripts : Entries) : Value :=
  .object [
    ("build-system", .object [
      ("requires", .list [.str "setuptools>=61.0"]),
      ("build-backend", .str "setuptools.build_meta")]),
    ("project", .object [
      ("name", name), ("version", version), ("description", tagline),
      ("requires-python", .str ">=3.8"), ("dependencies", .list [.str "click>=8.0"]),
      ("scripts", .object (Node.toFields scripts))]),
    ("tool", .object [("setuptools", .object [("packages", .object [
      ("find", .object [("where", .list [.str "src"])])])])])]

/-- What the lines do, from what its texts are read as and what the line of the script does. -/
def steps (name version tagline : Option Value) (script : Draft → Option Draft) :
    List (Draft → Option Draft) := [
  Draft.openTable ["build-system"],
  Draft.define [] "requires" (.list [.str "setuptools>=61.0"]),
  fun d => (textValue "setuptools.build_meta").bind fun v => d.define [] "build-backend" v,
  some,
  Draft.openTable ["project"],
  fun d => name.bind fun v => d.define [] "name" v,
  fun d => version.bind fun v => d.define [] "version" v,
  fun d => tagline.bind fun v => d.define [] "description" v,
  fun d => (textValue ">=3.8").bind fun v => d.define [] "requires-python" v,
  Draft.define [] "dependencies" (.list [.str "click>=8.0"]),
  some,
  Draft.openTable ["project", "scripts"],
  script,
  some,
  Draft.openTable ["tool", "setuptools", "packages", "find"],
  Draft.define [] "where" (.list [.str "src"])]

/-- What is read in front of the line of the script, and the scripts. -/
def draft (name version tagline : Value) (scripts : Entries) : Draft where
  root := [
    ("build-system", .table false false [
      ("requires", .value (.list [.str "setuptools>=61.0"])),
      ("build-backend", .value (.str "setuptools.build_meta"))]),
    ("project", .table false false [
      ("name", .value name), ("version", .value version), ("description", .value tagline),
      ("requires-python", .value (.str ">=3.8")),
      ("dependencies", .value (.list [.str "click>=8.0"]))])]
  path := ["project", "scripts"]
  listed := false
  entries := scripts

/-- The lines of a manifest make a document with its texts and its scripts. -/
theorem foldlM_steps {name version tagline : Value} {script : Draft → Option Draft}
    {scripts : Option Entries} (hscript : script (draft name version tagline []) =
      scripts.map (draft name version tagline)) :
    ((steps (some name) (some version) (some tagline) script).foldlM
      (fun d (step : Draft → Option Draft) => step d) Draft.empty).bind Draft.finish =
        scripts.map (document name version tagline) := by
  have hbefore : ((steps (some name) (some version) (some tagline) script).take 12).foldlM
      (fun d (step : Draft → Option Draft) => step d) Draft.empty =
        some (draft name version tagline []) := rfl
  have hafter : (steps (some name) (some version) (some tagline) script).drop 12 =
      script :: (steps (some name) (some version) (some tagline) script).drop 13 := rfl
  rw [← List.take_append_drop 12 (steps _ _ _ script), List.foldlM_append, hbefore, hafter,
    Option.bind_eq_bind, Option.bind_some, List.foldlM_cons, hscript]
  cases scripts <;> rfl

/-- What the lines mean. -/
theorem parse_lines {front : List (List Char)} {last : List Char}
    (hname : Field.isName t.cliName = true) (hdotted : dotted front last = t.cliName.toList)
    (hchars : ∀ part ∈ front ++ [last], ∀ c ∈ part, isKeyChar c = true) :
    Toml.parse (String.join ((lines t).map (· ++ "\n"))) =
      (textValue t.version).bind fun version => (textValue t.tagline).bind fun tagline =>
        (scripts? t front last).map (document (.str t.cliName) version tagline) := by
  have hreads : List.Forall₂ (fun line step => Reads line.toList step) (lines t)
      (steps (textValue t.cliName) (textValue t.version) (textValue t.tagline) fun d =>
        if [] ∉ front ++ [last] ∧ front.length < depthLimit - 1 then
          (textValue (main t)).bind fun v =>
            d.define (front.map String.ofList) (String.ofList last) v
        else none) := by
    have hscripts : IsBareKey ["project".toList] "scripts".toList :=
      .of_all (by decide) (by decide)
    have hfind : IsBareKey ["tool".toList, "setuptools".toList, "packages".toList] "find".toList :=
      .of_all (by decide) (by decide)
    -- The line of the script stands there as it is read, whatever characters the name has.
    have hname : Reads (t.cliName ++ " = " ++ Quoted.quote (main t)).toList fun d =>
        if [] ∉ front ++ [last] ∧ front.length < depthLimit - 1 then
          (textValue (main t)).bind fun v =>
            d.define (front.map String.ofList) (String.ofList last) v
        else none := by
      have hchars' : (t.cliName ++ " = " ++ Quoted.quote (main t)).toList =
          dotted front last ++ ' ' :: '=' :: ' ' :: (Quoted.quote (main t)).toList := by
        rw [String.toList_append, String.toList_append, List.append_assoc, hdotted]
        rfl
      have hne : dotted front last ≠ [] := by
        rw [hdotted]
        intro hnil
        simp [Field.isName, hnil] at hname
      rw [hchars']
      exact reads_pair hchars hne (isBlank_head_quote _) (readsValue_quote _ _).endsLine
    refine .cons (reads_header (.single "build-system" (by decide))) ?_
    refine .cons (reads_texts ["setuptools>=61.0"] (.single "requires" (by decide))
      (by decide +kernel) (by decide +kernel)) ?_
    refine .cons (reads_text (.single "build-backend" (by decide)) (by decide +kernel)) ?_
    refine .cons reads_empty ?_
    refine .cons (reads_header (.single "project" (by decide))) ?_
    refine .cons (reads_text (.single "name" (by decide)) rfl) ?_
    refine .cons (reads_text (.single "version" (by decide)) rfl) ?_
    refine .cons (reads_text (.single "description" (by decide)) rfl) ?_
    refine .cons (reads_text (.single "requires-python" (by decide)) (by decide +kernel)) ?_
    refine .cons (reads_texts ["click>=8.0"] (.single "dependencies" (by decide))
      (by decide +kernel) (by decide +kernel)) ?_
    refine .cons reads_empty ?_
    refine .cons (reads_header hscripts) ?_
    refine .cons hname ?_
    refine .cons reads_empty ?_
    refine .cons (reads_header hfind) ?_
    exact .cons (reads_texts ["src"] (.single "where" (by decide)) (by decide +kernel)
      (by decide +kernel)) .nil
  -- The name and the main function are always read, so only the other two texts can be refused.
  have hcli : textValue t.cliName = some (.str t.cliName) :=
    textValue_of_notMem (delete_notMem_of_isName hname)
  have hmain : textValue (main t) = some (.str (main t)) := by
    refine textValue_of_notMem ?_
    rw [main, String.toList_append, List.mem_append]
    exact not_or.2 ⟨delete_notMem_packageName t, by decide⟩
  rw [Toml.parse_lines hreads (by rintro line ⟨⟩; decide), hcli, hmain]
  cases textValue t.version with
  | none => rfl
  | some version =>
    cases textValue t.tagline with
    | none => rfl
    | some tagline =>
      refine foldlM_steps ?_
      rw [scripts?]
      split <;> rfl

/-! ### What is read -/

/-- A document says what the package is called and what its script starts. -/
structure Says (t : CommandTree) (v : Value) : Prop where
  name_eq : follow ["project", "name"] v = some (.str t.cliName)
  version_eq : follow ["project", "version"] v = some (.str t.version)
  description_eq : follow ["project", "description"] v = some (.str t.tagline)
  scripts_eq : follow ["project", "scripts"] v =
    some (.object [(t.cliName, .str (t.packageName ++ ".cli:main"))])

/-- A name without points is a key. -/
theorem scripts?_single {last : List Char} (h : last ≠ []) :
    scripts? t [] last = some [(String.ofList last, .value (.str (main t)))] :=
  if_pos ⟨by simpa using h.symm, by decide⟩

/-- A name with points makes a table of tables. -/
theorem scripts?_cons {part last : List Char} {front : List (List Char)} {scripts : Entries}
    (h : scripts? t (part :: front) last = some scripts) :
    ∃ sub, Node.toFields scripts = [(String.ofList part, .object sub)] := by
  rw [scripts?] at h
  split at h
  next =>
    obtain ⟨⟨u, entries⟩, hupdate, rfl⟩ := Option.map_eq_some_iff.1 h
    obtain ⟨⟨u, sub⟩, -, hentries⟩ := Option.bind_eq_some_iff.1 hupdate
    cases hentries
    exact ⟨Node.toFields sub, rfl⟩
  next => cases h

/-- The lines are read as what the tree says if the name has no points and TOML has all texts. -/
theorem parse_says_iff (hname : Field.isName t.cliName = true) :
    (∃ v, Toml.parse (String.join ((lines t).map (· ++ "\n"))) = some v ∧ Says t v) ↔
      '.' ∉ t.cliName.toList ∧ delete ∉ t.version.toList ∧ delete ∉ t.tagline.toList := by
  have hkey : ∀ c ∈ t.cliName.toList, isKeyChar c = true ∨ c = '.' := fun c hc => by
    simpa [isKeyChar, Naming.IsNameChar, or_assoc] using Naming.isNameChar_of_mem hname c hc
  obtain ⟨front, last, hdotted, hchars, hpoint⟩ := exists_dotted hkey
  rw [parse_lines hname hdotted hchars]
  by_cases hversion : delete ∈ t.version.toList
  · simp [textValue_of_mem hversion, hversion]
  by_cases htagline : delete ∈ t.tagline.toList
  · simp [textValue_of_mem htagline, htagline]
  rw [textValue_of_notMem hversion, textValue_of_notMem htagline, Option.bind_some,
    Option.bind_some, ← hpoint]
  cases front with
  | nil =>
    have hlast : last = t.cliName.toList := hdotted
    have hne : t.cliName.toList ≠ [] := fun hnil => by simp [Field.isName, hnil] at hname
    rw [hlast, scripts?_single hne, String.ofList_toList]
    exact iff_of_true ⟨_, rfl, rfl, rfl, rfl, rfl⟩ ⟨rfl, hversion, htagline⟩
  | cons part front =>
    refine iff_of_false ?_ fun h => List.cons_ne_nil _ _ h.1
    rintro ⟨v, hv, hsays⟩
    obtain ⟨scripts, hscripts, rfl⟩ := Option.map_eq_some_iff.1 hv
    obtain ⟨sub, hsub⟩ := scripts?_cons hscripts
    have hfields : some (Value.object (Node.toFields scripts)) = _ := hsays.scripts_eq
    rw [hsub] at hfields
    simp at hfields

/-! ### The manifest of a tree -/

variable {options : RenderOptions} {files : List Artifact}

/-- **The manifest of a package means what the tree says** if the name of the command line has no
point, and neither the version nor the tagline holds the delete character. Otherwise it is no
document in TOML, or says something else. -/
theorem pyproject_says_iff {maxDepth : Nat} {document : Value}
    (hbuild : CommandTree.build maxDepth document = .ok t)
    (h : Registry.builtin.render t options "python" = .ok files) :
    ∃ a ∈ files, a.kind = .manifest ∧ a.path = "pyproject.toml" ∧
      ((∃ v, Toml.parse a.content = some v ∧ Says t v) ↔
        '.' ∉ t.cliName.toList ∧ delete ∉ t.version.toList ∧ delete ∉ t.tagline.toList) := by
  obtain ⟨a, ha, hkind, hpath, hcontent⟩ :=
    Cover.exists_manifest (v := .python) (by simp [Cover.builtin]) h content_eq
  refine ⟨a, ha, hkind, hpath, ?_⟩
  rw [hcontent]
  exact parse_says_iff (CommandTree.isName_of_build hbuild)

/-- All texts may need escapes. -/
theorem pyproject_says_escaped : ∃ tree files,
    CommandTree.build 16 (plain "x-1" "1.0.0-\"beta\"" "A\\b\n\x01\t\u00e9") = .ok tree ∧
    Registry.builtin.render tree ⟨3, 16⟩ "python" = .ok files ∧
    ∃ a ∈ files, a.path = "pyproject.toml" ∧ ∃ v, Toml.parse a.content = some v ∧ Says tree v := by
  obtain ⟨tree, hbuild, ⟨hcli, hversion, htagline⟩, hrender⟩ :=
    exists_render_plain "x-1" "1.0.0-\"beta\"" "A\\b\n\x01\t\u00e9" (by decide +kernel)
  obtain ⟨files, hfiles⟩ := hrender .python (by simp [Blueprint.builtin])
  obtain ⟨a, ha, -, hpath, hsays⟩ := pyproject_says_iff hbuild hfiles
  refine ⟨tree, files, hbuild, hfiles, a, ha, hpath, hsays.2 ?_⟩
  rw [hcli, hversion, htagline]
  decide +kernel

/-- The manifest does not say that a script is called by a name with a point. -/
theorem not_says_pointed : ∃ tree files,
    CommandTree.build 16 (plain "a.b" "0.1.0" "") = .ok tree ∧
    Registry.builtin.render tree ⟨3, 16⟩ "python" = .ok files ∧
    ∃ a ∈ files, a.path = "pyproject.toml" ∧
      ¬ ∃ v, Toml.parse a.content = some v ∧ Says tree v := by
  obtain ⟨tree, hbuild, ⟨hcli, -, -⟩, hrender⟩ :=
    exists_render_plain "a.b" "0.1.0" "" (by decide +kernel)
  obtain ⟨files, hfiles⟩ := hrender .python (by simp [Blueprint.builtin])
  obtain ⟨a, ha, -, hpath, hcontent⟩ :=
    Cover.exists_manifest (v := .python) (by simp [Cover.builtin]) hfiles content_eq
  refine ⟨tree, files, hbuild, hfiles, a, ha, hpath, ?_⟩
  rw [hcontent, parse_says_iff (CommandTree.isName_of_build hbuild), hcli]
  exact fun h => absurd h.1 (by decide)

end Package

/-! ## A Rust crate -/

namespace Crate

/-- The lines of the manifest. -/
def lines (t : CommandTree) : List String := [
  "[package]",
  "name = " ++ Quoted.quote t.packageName,
  "version = " ++ Quoted.quote (Target.Rust.crateVersion t.version),
  "description = " ++ Quoted.quote t.tagline,
  "edition = \"2021\"",
  "",
  "[[bin]]",
  "name = " ++ Quoted.quote t.cliName,
  "path = \"src/main.rs\"",
  "",
  "[dependencies]",
  "clap = \x7b version = \"4.5\", features = [\"env\"] \x7d"]

/-- The template shows these lines. -/
theorem content_eq {context : Value} {text : String}
    (hidentity : ∀ key ∈ Cover.identity, context.get? key = (Target.rust.root t).get? key)
    (h : Target.rust.engine.render "rust/manifest" context = .ok text) :
    text = String.join ((lines t).map (· ++ "\n")) := by
  have hpackage : context.get? "package" = some (.str t.packageName) :=
    hidentity "package" (by simp [Cover.identity])
  have hversion : context.get? "crate_version" =
      some (.str (Target.Rust.crateVersion t.version)) :=
    hidentity "crate_version" (by simp [Cover.identity])
  have htagline : context.get? "tagline" = some (.str t.tagline) :=
    hidentity "tagline" (by simp [Cover.identity])
  have hcli : context.get? "cli_name" = some (.str t.cliName) :=
    hidentity "cli_name" (by simp [Cover.identity])
  have hquote (s : String) : Value.compact (.str s) = Quoted.quote s := rfl
  have hhelper : Target.rust.engine.helpers.lookup "json" = some (Helper.ofValue Value.compact) :=
    rfl
  have hfill := Engine.fill_of_render (t := Target.Rust.manifest) rfl h
  rw [Target.Rust.manifest] at hfill
  simp only [fill_lines, fill_text, fill_quote hhelper hquote hpackage,
    fill_quote hhelper hquote hversion, fill_quote hhelper hquote htagline,
    fill_quote hhelper hquote hcli, fill_nil, Option.map_some, Option.some.injEq] at hfill
  rw [← hfill, lines]
  simp only [List.map_cons, List.map_nil, String.join_cons, String.join_nil, String.append_assoc]
  rfl

/-- What is read for the dependency. -/
def dependency : Value := .object [("version", .str "4.5"), ("features", .list [.str "env"])]

/-- The dependency is an inline table. -/
theorem reads_dependency :
    Reads "clap = \x7b version = \"4.5\", features = [\"env\"] \x7d".toList
      (Draft.define [] "clap" dependency) := by
  let version := (Quoted.quote "4.5").toList
  let features := '[' :: (Toml.listed ["env"] ++ [']'])
  let table := '\x7b' :: ' ' :: (dotted [] "version".toList ++ ' ' :: '=' :: ' ' ::
    (version ++ ',' :: ' ' :: (dotted [] "features".toList ++ ' ' :: '=' :: ' ' ::
      (features ++ [' ', '\x7d']))))
  -- The first pair ends at a comma, the second at the closing brace.
  have hversion (fuel : Nat) (rest : List Char) (hfuel : 5 < fuel) :
      readPairs 78 (fuel + 1) [] (dotted [] "version".toList ++ ' ' :: '=' :: ' ' ::
        (version ++ ',' :: rest)) = readPairs 78 fuel [("version", .value (.str "4.5"))] rest :=
    readPairs_comma (.single "version" (by decide)) (isBlank_head_quote "4.5") (by decide +kernel)
      (readsValue_quote 78 "4.5") rfl hfuel rest
  have hlist : ReadsValue 78 features (some (.list [.str "env"])) :=
    readsValue_listed (List.forall_mem_singleton.2 (by decide)) 77
  have hdefine : Entries.define [] "features" (.list [.str "env"])
      [("version", .value (.str "4.5"))] =
        some [("version", .value (.str "4.5")), ("features", .value (.list [.str "env"]))] := rfl
  have hfeatures (fuel : Nat) (rest : List Char) (hfuel : 7 < fuel) :
      readPairs 78 (fuel + 1) [("version", .value (.str "4.5"))] (dotted [] "features".toList ++
        ' ' :: '=' :: ' ' :: (features ++ ' ' :: '\x7d' :: rest)) = some (dependency, rest) :=
    readPairs_close (.single "features" (by decide)) (by rintro c ⟨⟩; rfl) (List.cons_ne_nil _ _)
      hlist hdefine hfuel rest
  have htable : ReadsValue (depthLimit - 1) table (some dependency) := by
    intro fuel rest hfuel _
    have hlength : table.length = 39 := by decide +kernel
    obtain ⟨fuel, rfl⟩ : ∃ n, fuel = n + 3 := ⟨fuel - 3, by omega⟩
    have hsplit : table ++ rest = '\x7b' :: ' ' :: (dotted [] "version".toList ++
        ' ' :: '=' :: ' ' :: (version ++ ',' :: ' ' :: (dotted [] "features".toList ++
          ' ' :: '=' :: ' ' :: (features ++ ' ' :: '\x7d' :: rest)))) := by
      simp [table, List.append_assoc]
    have hkey : isKeyChar 'v' = true := rfl
    rw [hsplit]
    refine (readValue_table hkey 78 (fuel + 2) _).trans ?_
    refine (hversion (fuel + 1) _ (by omega)).trans ?_
    rw [readPairs_blank]
    exact hfeatures fuel rest (by omega)
  have hline : "clap = \x7b version = \"4.5\", features = [\"env\"] \x7d".toList =
      dotted [] "clap".toList ++ ' ' :: '=' :: ' ' :: table := by
    decide +kernel
  rw [hline]
  exact (IsBareKey.single "clap" (by decide)).reads (by rintro c ⟨⟩; rfl) htable.endsLine

/-- The document, from its texts. -/
def document (name version tagline program : Value) : Value :=
  .object [
    ("package", .object [
      ("name", name), ("version", version), ("description", tagline), ("edition", .str "2021")]),
    ("bin", .list [.object [("name", program), ("path", .str "src/main.rs")]]),
    ("dependencies", .object [("clap", dependency)])]

/-- What the lines mean. -/
theorem parse_lines (hname : Field.isName t.cliName = true) :
    Toml.parse (String.join ((lines t).map (· ++ "\n"))) =
      (textValue (Target.Rust.crateVersion t.version)).bind fun version =>
        (textValue t.tagline).map fun tagline =>
          document (.str t.packageName) version tagline (.str t.cliName) := by
  have hreads : List.Forall₂ (fun line step => Reads line.toList step) (lines t) [
      Draft.openTable ["package"],
      fun d => (textValue t.packageName).bind fun v => d.define [] "name" v,
      fun d => (textValue (Target.Rust.crateVersion t.version)).bind fun v =>
        d.define [] "version" v,
      fun d => (textValue t.tagline).bind fun v => d.define [] "description" v,
      fun d => (textValue "2021").bind fun v => d.define [] "edition" v,
      some,
      Draft.openListed ["bin"],
      fun d => (textValue t.cliName).bind fun v => d.define [] "name" v,
      fun d => (textValue "src/main.rs").bind fun v => d.define [] "path" v,
      some,
      Draft.openTable ["dependencies"],
      Draft.define [] "clap" dependency] := by
    refine .cons (reads_header (.single "package" (by decide))) ?_
    refine .cons (reads_text (.single "name" (by decide)) rfl) ?_
    refine .cons (reads_text (.single "version" (by decide)) rfl) ?_
    refine .cons (reads_text (.single "description" (by decide)) rfl) ?_
    refine .cons (reads_text (.single "edition" (by decide)) (by decide +kernel)) ?_
    refine .cons reads_empty ?_
    refine .cons (reads_listed (.single "bin" (by decide))) ?_
    refine .cons (reads_text (.single "name" (by decide)) rfl) ?_
    refine .cons (reads_text (.single "path" (by decide)) (by decide +kernel)) ?_
    refine .cons reads_empty ?_
    refine .cons (reads_header (.single "dependencies" (by decide))) ?_
    exact .cons reads_dependency .nil
  rw [Toml.parse_lines hreads (by rintro line ⟨⟩; decide),
    textValue_of_notMem (delete_notMem_packageName t),
    textValue_of_notMem (delete_notMem_of_isName hname)]
  cases textValue (Target.Rust.crateVersion t.version) with
  | none => rfl
  | some version => cases textValue t.tagline <;> rfl

/-! ### What is read -/

/-- A document says what the crate is called, and names its only program. -/
structure Says (t : CommandTree) (v : Value) : Prop where
  name_eq : follow ["package", "name"] v = some (.str t.packageName)
  version_eq : follow ["package", "version"] v = some (.str (Target.Rust.crateVersion t.version))
  description_eq : follow ["package", "description"] v = some (.str t.tagline)
  program_eq : ∃ program, follow ["bin"] v = some (.list [program]) ∧
    program.get? "name" = some (.str t.cliName)

/-- The lines are read as what the tree says if TOML has all texts, and refused otherwise. -/
theorem parse_says_iff (hname : Field.isName t.cliName = true) :
    (∃ v, Toml.parse (String.join ((lines t).map (· ++ "\n"))) = some v ∧ Says t v) ↔
      delete ∉ (Target.Rust.crateVersion t.version).toList ∧ delete ∉ t.tagline.toList := by
  rw [parse_lines hname]
  by_cases hversion : delete ∈ (Target.Rust.crateVersion t.version).toList
  · simp [textValue_of_mem hversion, hversion]
  by_cases htagline : delete ∈ t.tagline.toList
  · simp [textValue_of_mem htagline, htagline]
  rw [textValue_of_notMem hversion, textValue_of_notMem htagline, Option.bind_some]
  exact iff_of_true ⟨_, rfl, rfl, rfl, rfl, _, rfl, rfl⟩ ⟨hversion, htagline⟩

/-! ### The manifest of a tree -/

variable {options : RenderOptions} {files : List Artifact}

/-- **The manifest of a crate is a document in TOML and means what the tree says** if neither the
version of the crate nor the tagline holds the delete character. -/
theorem cargo_says_iff {maxDepth : Nat} {document : Value}
    (hbuild : CommandTree.build maxDepth document = .ok t)
    (h : Registry.builtin.render t options "rust" = .ok files) :
    ∃ a ∈ files, a.kind = .manifest ∧ a.path = "Cargo.toml" ∧
      ((∃ v, Toml.parse a.content = some v ∧ Says t v) ↔
        delete ∉ (Target.Rust.crateVersion t.version).toList ∧ delete ∉ t.tagline.toList) := by
  obtain ⟨a, ha, hkind, hpath, hcontent⟩ :=
    Cover.exists_manifest (v := .rust) (by simp [Cover.builtin]) h content_eq
  refine ⟨a, ha, hkind, hpath, ?_⟩
  rw [hcontent]
  exact parse_says_iff (CommandTree.isName_of_build hbuild)

/-- All texts may need escapes, and the name of the command line may have a point. -/
theorem cargo_says_escaped : ∃ tree files,
    CommandTree.build 16 (plain "x.1" "1.0.0-\"beta\"" "A\\b\n\x01\t\u00e9") = .ok tree ∧
    Registry.builtin.render tree ⟨3, 16⟩ "rust" = .ok files ∧
    ∃ a ∈ files, a.path = "Cargo.toml" ∧ ∃ v, Toml.parse a.content = some v ∧ Says tree v := by
  obtain ⟨tree, hbuild, ⟨-, hversion, htagline⟩, hrender⟩ :=
    exists_render_plain "x.1" "1.0.0-\"beta\"" "A\\b\n\x01\t\u00e9" (by decide +kernel)
  obtain ⟨files, hfiles⟩ := hrender .rust (by simp [Blueprint.builtin])
  obtain ⟨a, ha, -, hpath, hsays⟩ := cargo_says_iff hbuild hfiles
  refine ⟨tree, files, hbuild, hfiles, a, ha, hpath, hsays.2 ?_⟩
  rw [hversion, htagline]
  decide +kernel

/-- The manifest is refused where the tagline holds the delete character. -/
theorem refused_deleted : ∃ tree files,
    CommandTree.build 16 (plain "x" "0.1.0" "a\x7fb") = .ok tree ∧
    Registry.builtin.render tree ⟨3, 16⟩ "rust" = .ok files ∧
    ∃ a ∈ files, a.path = "Cargo.toml" ∧ Toml.parse a.content = none := by
  obtain ⟨tree, hbuild, ⟨hcli, hversion, htagline⟩, hrender⟩ :=
    exists_render_plain "x" "0.1.0" "a\x7fb" (by decide +kernel)
  obtain ⟨files, hfiles⟩ := hrender .rust (by simp [Blueprint.builtin])
  obtain ⟨a, ha, -, hpath, hcontent⟩ :=
    Cover.exists_manifest (v := .rust) (by simp [Cover.builtin]) hfiles content_eq
  have hdelete : delete ∈ tree.tagline.toList := by
    rw [htagline]
    decide
  refine ⟨tree, files, hbuild, hfiles, a, ha, hpath, ?_⟩
  rw [hcontent, parse_lines (CommandTree.isName_of_build hbuild), textValue_of_mem hdelete]
  cases textValue (Target.Rust.crateVersion tree.version) <;> rfl

end Crate

end CliGen.Manifest
