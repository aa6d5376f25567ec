import CliGen.Proofs.Target.TomlManifests
import CliGen.Proofs.Value.Json

/-!
# Manifests in JSON

The manifests of both JavaScript targets are documents in JSON, and whatever texts a tree holds,
they mean what the tree says (`Manifest.Module.package_says`).
-/

namespace CliGen.Manifest.Module

open Target Template Json Json.Written

variable {t : CommandTree}

/-- The program that the manifest of a dialect starts. -/
def program : JavaScript.Dialect → String
  | .plain => "cli.js"
  | .typed => "dist/cli.js"

/-- What the manifest of a dialect says of every command line. -/
def settings : JavaScript.Dialect → List (String × Written 126)
  | .plain => [
    ("files", .list [.text "cli.js", .text "src/"]),
    ("engines", .object 2 [("node", .text ">=18")]),
    ("dependencies", .object 2 [("commander", .text "^12.1.0")])]
  | .typed => [
    ("files", .list [.text "dist/"]),
    ("scripts", .object 2 [("build", .text "tsc"), ("prepare", .text "tsc")]),
    ("engines", .object 2 [("node", .text ">=18")]),
    ("dependencies", .object 2 [("commander", .text "^12.1.0")]),
    ("devDependencies", .object 2 [
      ("@types/node", .text "^20.14.0"), ("typescript", .text "^5.5.0")])]

/-- The manifest of a tree. -/
def document (d : JavaScript.Dialect) (t : CommandTree) : Written maxDepth :=
  Written.object 0 ([
    ("name", .text t.cliName),
    ("version", .text t.version),
    ("description", .text t.tagline),
    ("main", .text (program d)),
    ("bin", .object 2 [(t.cliName, .text (program d))])] ++ settings d)

/-- What stands in the manifest between the tagline and the name of the program. -/
def middle (d : JavaScript.Dialect) : List Char :=
  ',' :: (keyChars 2 "main" ++ ((Quoted.quote (program d)).toList ++
    ',' :: (keyChars 2 "bin" ++ '\x7b' :: gap 4)))

/-- What stands in the manifest behind the name of the program. -/
def ending (d : JavaScript.Dialect) : List Char :=
  ':' :: ' ' :: ((Quoted.quote (program d)).toList ++ (gap 2 ++ '\x7d' ::
    (fieldsChars 0 false (settings d) ++ ['\n'])))

/-- The text of the manifest, from the texts of the tree. -/
theorem chars_document (d : JavaScript.Dialect) (t : CommandTree) :
    (document d t).chars ++ ['\n'] =
      ('\x7b' :: keyChars 2 "name") ++ ((Quoted.quote t.cliName).toList ++
      ((',' :: keyChars 2 "version") ++ ((Quoted.quote t.version).toList ++
      ((',' :: keyChars 2 "description") ++ ((Quoted.quote t.tagline).toList ++
      (middle d ++ ((Quoted.quote t.cliName).toList ++ ending d))))))) := by
  have hkey : keyChars 4 t.cliName = gap 4 ++ ((Quoted.quote t.cliName).toList ++ [':', ' ']) := rfl
  simp only [document, middle, ending, Written.object, Written.text, fieldsChars, List.cons_append,
    List.nil_append, List.append_assoc, if_true, Bool.false_eq_true, if_false, Nat.reduceAdd, hkey]

/-- The characters of lines. -/
theorem toList_lines (ls : List String) : (String.join (ls.map (· ++ "\n"))).toList =
    ls.flatMap fun l => l.toList ++ ['\n'] := by
  induction ls with
  | nil => rfl
  | cons l ls ih =>
    rw [List.map_cons, String.join_cons, String.toList_append, String.toList_append, ih,
      List.flatMap_cons]
    rfl

/-- A template shows the manifest if what stands in it around the texts of the tree is what stands
around them in the manifest. -/
theorem content_of_template {d : JavaScript.Dialect} {context : Value} {text line : String}
    {before after : List String}
    (htemplate : (JavaScript.target d).engine.templates.lookup (d.template "package") = some [
      Template.text "\x7b\n",
      Template.text "  \"name\": ", call "js_str" (field "cli_name"), Template.text ",\n",
      Template.text "  \"version\": ", call "js_str" (field "version"), Template.text ",\n",
      Template.text "  \"description\": ", call "js_str" (field "tagline"), Template.text ",\n",
      Template.lines before,
      Template.text "    ", call "js_str" (field "cli_name"), Template.text line,
      Template.lines after])
    (hmiddle : ",\n".toList ++ (before.flatMap (fun l => l.toList ++ ['\n']) ++ "    ".toList) =
      middle d)
    (hending : line.toList ++ after.flatMap (fun l => l.toList ++ ['\n']) = ending d)
    (hcli : context.get? "cli_name" = some (.str t.cliName))
    (hversion : context.get? "version" = some (.str t.version))
    (htagline : context.get? "tagline" = some (.str t.tagline))
    (h : (JavaScript.target d).engine.render (d.template "package") context = .ok text) :
    text = String.ofList ((document d t).chars ++ ['\n']) := by
  have hquote (s : String) : Target.JavaScript.literal (.str s) = Quoted.quote s := rfl
  have hhelper : (JavaScript.target d).engine.helpers.lookup "js_str" =
      some (Helper.ofValue Target.JavaScript.literal) := rfl
  have hfill := Engine.fill_of_render htemplate h
  simp only [fill_lines, fill_text, fill_quote hhelper hquote hcli,
    fill_quote hhelper hquote hversion, fill_quote hhelper hquote htagline, fill_nil,
    Option.map_some, Option.some.injEq] at hfill
  have hfirst : "\x7b\n".toList ++ "  \"name\": ".toList = '\x7b' :: keyChars 2 "name" := by
    decide +kernel
  have hsecond : ",\n".toList ++ "  \"version\": ".toList = ',' :: keyChars 2 "version" := by
    decide +kernel
  have hthird : ",\n".toList ++ "  \"description\": ".toList =
      ',' :: keyChars 2 "description" := by
    decide +kernel
  rw [chars_document, ← hfirst, ← hsecond, ← hthird, ← hmiddle, ← hending, ← String.toList_inj,
    String.toList_ofList, ← hfill]
  simp only [String.toList_append, toList_lines, String.toList_empty, List.append_assoc,
    List.append_nil]

/-- The template of either dialect shows the manifest. -/
theorem content_eq {d : JavaScript.Dialect} {context : Value} {text : String}
    (hidentity : ∀ key ∈ Cover.identity,
      context.get? key = ((JavaScript.target d).root t).get? key)
    (h : (JavaScript.target d).engine.render (d.template "package") context = .ok text) :
    text = String.ofList ((document d t).chars ++ ['\n']) := by
  have hcli : context.get? "cli_name" = some (.str t.cliName) :=
    hidentity "cli_name" (by simp [Cover.identity])
  have hversion : context.get? "version" = some (.str t.version) :=
    hidentity "version" (by simp [Cover.identity])
  have htagline : context.get? "tagline" = some (.str t.tagline) :=
    hidentity "tagline" (by simp [Cover.identity])
  cases d with
  | plain =>
    exact content_of_template rfl (by decide +kernel) (by decide +kernel) hcli hversion htagline h
  | typed =>
    exact content_of_template rfl (by decide +kernel) (by decide +kernel) hcli hversion htagline h

/-! ## What is read -/

/-- A document says what the command line is called, and that its name starts the program. -/
structure Says (d : JavaScript.Dialect) (t : CommandTree) (v : Value) : Prop where
  name_eq : v.get? "name" = some (.str t.cliName)
  version_eq : v.get? "version" = some (.str t.version)
  description_eq : v.get? "description" = some (.str t.tagline)
  bin_eq : v.get? "bin" = some (.object [(t.cliName, .str (program d))])

/-- The document of a manifest says what is declared. -/
theorem says_document (d : JavaScript.Dialect) (t : CommandTree) :
    Says d t (document d t).value := by
  cases d <;> exact ⟨rfl, rfl, rfl, rfl⟩

variable {d : JavaScript.Dialect} {options : RenderOptions} {files : List Artifact}

/-- **The manifest of either JavaScript target is a document in JSON and means what the tree says**,
whatever its texts are. -/
theorem package_says (h : Registry.builtin.render t options d.id = .ok files) :
    ∃ a ∈ files, a.kind = .manifest ∧ a.path = "package.json" ∧
      ∃ v, Json.parse a.content = .ok v ∧ Says d t v := by
  have hcover : Cover.javascript d ∈ Cover.builtin := by cases d <;> simp [Cover.builtin]
  obtain ⟨a, ha, hkind, hpath, hcontent⟩ := Cover.exists_manifest hcover h content_eq
  refine ⟨a, ha, hkind, hpath, (document d t).value, ?_, says_document d t⟩
  rw [hcontent, parse_line]

/-- Texts may hold quotes, backslashes, control characters, and what templates put in braces. -/
theorem package_says_escaped : ∃ tree files,
    CommandTree.build 16
      (plain "x.1" "1.0.0-\"beta\"" "A\\b\n\x01\x7f\u00e9\x7b\x7bx\x7d\x7d") = .ok tree ∧
    Registry.builtin.render tree ⟨3, 16⟩ "typescript" = .ok files ∧
    ∃ a ∈ files, a.path = "package.json" ∧
      ∃ v, Json.parse a.content = .ok v ∧ Says .typed tree v := by
  obtain ⟨tree, hbuild, -, hrender⟩ :=
    exists_render_plain "x.1" "1.0.0-\"beta\"" "A\\b\n\x01\x7f\u00e9\x7b\x7bx\x7d\x7d"
      (by decide +kernel)
  obtain ⟨files, hfiles⟩ := hrender (.javascript .typed) (by simp [Blueprint.builtin])
  obtain ⟨a, ha, -, hpath, hsays⟩ := package_says (d := .typed) hfiles
  exact ⟨tree, files, hbuild, hfiles, a, ha, hpath, hsays⟩

end CliGen.Manifest.Module
