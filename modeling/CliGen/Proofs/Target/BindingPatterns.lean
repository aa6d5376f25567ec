import CliGen.Proofs.Target.CapturedNames
import CliGen.Proofs.Target.Comments
import CliGen.Proofs.Target.ParameterKeys

/-!
# Patterns of hooks

The hook of a command in JavaScript takes one object, and picks its parameters from it by a pattern.
The identifier that an entry of the pattern binds is made usable for every name. The key in front of
it is not: where it begins with a digit, the entry is a property of a pattern only if the key is a
number (`Blueprint.isBindingProperty_iff`).

## Shape of the proof

* An entry holds no colon but the one behind its key, so the key is found again in the entry
  (`Target.JavaScript.isBindingProperty_patternEntryOf_iff`).
* What stands for a command tells the pattern of its entries, and the stubs of both dialects take
  their parameters by it (`Blueprint.Defines.takesPattern`).
-/

namespace CliGen

open Naming

namespace Target.JavaScript

/-! ## Entries of patterns -/

/-- The words that name no variable: the keywords, and the names that strict code keeps. -/
def unbindable : List String := Blueprint.scriptKeywords ++ ["arguments", "eval"]

/-- No identifier is a word that cannot be bound. -/
theorem avoids_unbindable : wording.Avoids unbindable := by
  constructor <;> decide +kernel

/-- A property of a pattern that binds a variable: the variable by itself, or behind a key. Strict
code has no zeros in front of a number. -/
def IsBindingProperty (s : String) : Prop :=
  IsIdentifier unbindable s ∨ ∃ key ident, s = key ++ ": " ++ ident ∧
    IsIdentifier unbindable ident ∧ (IsIdentifier [] key ∨ IsDecimal key)

variable {name : String}

/-- Identifiers begin with no digit. -/
theorem beginsWithDigit_of_isIdentifier {keywords : List String} {s : String}
    (h : IsIdentifier keywords s) : beginsWithDigit s = false := by
  obtain ⟨c, hc, hletter⟩ := h.begins
  rw [beginsWithDigit, Option.mem_def.1 hc, Option.any_some]
  rcases hletter with halpha | rfl
  · have halnum : c.isAlphanum = true := Bool.or_eq_true_iff.2 (.inl halpha)
    exact forall_ascii (p := fun c => c.isAlpha = true → c.isDigit = false) (by decide)
      (toNat_lt_of_isAlphanum halnum) halpha
  · rfl

/-- An entry is a key, and behind it the identifier where it differs. -/
theorem patternEntryOf_cases (name : String) :
    patternEntryOf name = wording.identifier name ∧ camel name = wording.identifier name ∨
      patternEntryOf name = camel name ++ ": " ++ wording.identifier name := by
  have hkey : wording.naming.parameter name = camel name := rfl
  rw [patternEntryOf, hkey]
  by_cases hsame : camel name = wording.identifier name
  · rw [if_pos (beq_iff_eq.2 hsame)]
    exact .inl ⟨hsame, hsame⟩
  · rw [if_neg (beq_iff_eq.not.2 hsame)]
    exact .inr rfl

/-- No colon is part of a name. -/
theorem colon_notMem_of_isIdentifier {keywords : List String} {s : String}
    (h : IsIdentifier keywords s) : ':' ∉ s.toList := fun hmem =>
  absurd (h.chars ':' hmem) (by decide)

/-- An entry is a property of a pattern unless its key begins with a digit and is no number. -/
theorem isBindingProperty_patternEntryOf_iff (h : Field.isName name = true) :
    IsBindingProperty (patternEntryOf name) ↔
      beginsWithDigit name = false ∨ IsDecimal (camel name) := by
  have hident := wording.isIdentifier_identifier avoids_unbindable h
  rw [← beginsWithDigit_camel h]
  rcases patternEntryOf_cases name with ⟨hentry, hsame⟩ | hentry
  · rw [hentry, hsame]
    exact iff_of_true (.inl hident) (.inl (beginsWithDigit_of_isIdentifier hident))
  · have hchars : (patternEntryOf name).toList =
        (camel name).toList ++ ':' :: ' ' :: (wording.identifier name).toList := by
      rw [hentry, String.toList_append, String.toList_append, List.append_assoc]
      rfl
    constructor
    · rintro (hbare | ⟨key, ident, heq, hbound, hlegal⟩)
      · have hcolon : ':' ∈ (patternEntryOf name).toList := by simp [hchars]
        exact absurd hcolon (colon_notMem_of_isIdentifier hbare)
      · -- There is no other colon than the one behind the key, so the keys are the same.
        have hkey : ':' ∉ (camel name).toList := fun hmem =>
          absurd (isAlphanum_of_mem_camel h hmem) (by decide)
        have hbehind : ':' ∉ ' ' :: (wording.identifier name).toList := by
          rw [List.mem_cons, not_or]
          exact ⟨by decide, colon_notMem_of_isIdentifier hident⟩
        have hsplit : (camel name).toList ++ ':' :: ' ' :: (wording.identifier name).toList =
            key.toList ++ ':' :: ' ' :: ident.toList := by
          rw [← hchars, heq, String.toList_append, String.toList_append, List.append_assoc]
          rfl
        obtain ⟨hsame, -⟩ := (List.append_cons_inj_of_notMem hkey hbehind).1 hsplit
        rw [String.toList_inj.1 hsame]
        exact hlegal.imp_left beginsWithDigit_of_isIdentifier
    · intro hkey
      refine .inr ⟨camel name, wording.identifier name, hentry, hident, hkey.imp_left ?_⟩
      intro hbegins
      obtain ⟨⟨c, hc, hsmall⟩, hall, -⟩ := isKey_camel h
      rw [beginsWithDigit, Option.mem_def.1 hc, Option.any_some] at hbegins
      have hlower : c.isLower = true := hsmall.resolve_right (by simp [hbegins])
      exact ⟨⟨c, hc, .inl (Bool.or_eq_true_iff.2 (.inr hlower))⟩, hall, List.not_mem_nil⟩

/-! ## Patterns in stubs -/

/-- The pattern that is made of some entries. -/
def patternOf : List String → String
  | [] => ""
  | entries => "\x7b " ++ ", ".intercalate entries ++ " \x7d"

/-- The pattern of a command is made of the entries of its parameters' names. -/
theorem pattern_command (cliName : String) (c : Command) (b : Hook.Binding) :
    pattern (wording.command cliName c b) = patternOf (c.parameterNames.map patternEntryOf) := by
  rw [pattern, map_patternEntry]
  rfl

/-- What stands behind the pattern of a hook, up to its body. -/
def Dialect.closing (d : Dialect) (pattern : String) : String :=
  match d with
  | .plain => ") \x7b\n"
  | .typed => (if pattern.isEmpty then "" else ": Values") ++ "): Promise<void> \x7b\n"

variable {d : Dialect} {scene : Scene} {c : Command} {b : Hook.Binding} {node : Value}

/-- What stands for a command tells its pattern. -/
theorem destructure_of_commandContext (h : commandContext d scene c b = .ok node) :
    node.get? "destructure" = some (.str (patternOf (c.parameterNames.map patternEntryOf))) := by
  rw [← pattern_command scene.tree.cliName c b]
  unfold commandContext at h
  extract_lets command extended at h
  obtain ⟨params, -, h⟩ := Outcome.bind_eq_ok.1 h
  cases h
  rfl

end Target.JavaScript

namespace Blueprint

open Target Target.JavaScript Template

variable {d : Dialect} {scene : Scene} {c : Command} {s : Stub}

/-- A stub declares a function that takes the parameters of a command by the pattern of the
command. -/
def TakesPattern (d : Dialect) (c : Command) (s : Stub) : Prop :=
  let parameters := patternOf (c.parameterNames.map patternEntryOf)
  ∃ rest, s.text = (javascript d).comment (Text.oneLine c.description) ++
    (javascript d).declaration .leaf s.name ++ parameters ++ d.closing parameters ++ rest

/-- So does the stub of a command with a callable. -/
theorem Defines.takesPattern (h : (javascript d).Defines scene c s)
    (hengine : scene.engine = (javascript d).target.engine) (hrole : c.role = .leaf) :
    TakesPattern d c s := by
  unfold TakesPattern
  generalize hparameters : patternOf (c.parameterNames.map patternEntryOf) = parameters
  obtain ⟨b, node, template, -, hmanaged, hname, hnode, htells, hstub, hrender⟩ := h.rendered
  have hcalled : node.get? "canonical_name" = some (.str s.name) := by
    rw [hname, ← htells.name hmanaged, hrole]
    rfl
  have hpattern : node.get? "destructure" = some (.str parameters) := by
    rw [← hparameters]
    exact destructure_of_commandContext hnode
  rw [hrole] at hstub
  cases hstub
  rw [hengine] at hrender
  let engine := (javascript d).target.engine
  have hhelper : engine.helpers.lookup "one_line" = some (Helper.ofText Text.oneLine) := rfl
  have hshowsName : Shows engine.helpers node "canonical_name" s.name := ⟨rfl, hcalled⟩
  have hshowsPattern : Shows engine.helpers node "destructure" parameters := ⟨rfl, hpattern⟩
  cases d with
  | plain =>
    have ht : engine.templates.lookup "nodejs/stub_command" = some
        ([text "// ", call "one_line" (field "description"), text "\n", text "async function ",
          put "canonical_name", text "(", put "destructure", text ") \x7b\n"] ++
            Target.JavaScript.stubCommand.drop 8) := rfl
    refine Engine.render_starts ht ?_ hrender
    rw [fill_text, fill_one_line hhelper htells.description, fill_text, fill_text,
      fill_put hshowsName, fill_text, fill_put hshowsPattern, fill_text, fill_nil]
    simp [javascript, Dialect.closing, String.append_assoc]
  | typed =>
    have ht : engine.templates.lookup "typescript/stub_command" = some
        ([text "/** ", call "one_line" (field "description"), text " */\n",
          text "export async function ", put "canonical_name", text "(",
          whenTrue (field "destructure") [put "destructure", text ": Values"],
          text "): Promise<void> \x7b\n"] ++ Target.JavaScript.Typed.stubCommand.drop 8) := rfl
    have hinner : fill engine.helpers [.outermost node] [put "destructure", text ": Values"] =
        some (parameters ++ ": Values") := by
      rw [fill_put hshowsPattern, fill_text, fill_nil]
      rfl
    refine Engine.render_starts ht ?_ hrender
    rw [fill_text, fill_one_line hhelper htells.description, fill_text, fill_text,
      fill_put hshowsName, fill_text, fill_whenTrue (fun _ => hinner), fill_text, fill_nil,
      value_field hpattern]
    by_cases hempty : parameters.isEmpty = true
    · have hnone : parameters = "" := String.isEmpty_iff.1 hempty
      simp [javascript, Dialect.closing, Template.isTrue, hnone, String.append_assoc]
    · simp [javascript, Dialect.closing, Template.isTrue, hempty, String.append_assoc]

/-- **Which patterns are well-formed.** The hooks of a program in JavaScript take the parameters of
their commands by patterns, which the file of hooks shows. An entry of a pattern is the identifier
of a parameter, which can be bound, or a key and the identifier behind it. It is a property of a
pattern exactly where the name of the parameter does not begin with a digit, or the key is a
number. -/
theorem isBindingProperty_iff {maxDepth : Nat} {document : Value} {t : CommandTree}
    (hbuild : CommandTree.build maxDepth document = .ok t) :
    (∀ d options files, Registry.builtin.render t options (javascript d).target.id = .ok files →
      ∃ stubs : List Stub, (∃ hooks ∈ files, hooks.kind = .hookStub ∧ ∃ before after,
          hooks.content = before ++ String.join (stubs.map (·.text)) ++ after) ∧
        List.Forall₂ (fun c s => s.role = c.role ∧ (c.role = .leaf → TakesPattern d c s))
          (t.walk.filter (·.role ≠ .group)) stubs) ∧
    ∀ c ∈ t.walk, (∀ b, pattern (Target.JavaScript.wording.command t.cliName c b) =
        patternOf (c.parameterNames.map patternEntryOf)) ∧
      ∀ name ∈ c.parameterNames,
        let ident := Target.JavaScript.wording.identifier name
        (patternEntryOf name = ident ∨ patternEntryOf name = camel name ++ ": " ++ ident) ∧
          IsIdentifier unbindable ident ∧
          (IsBindingProperty (patternEntryOf name) ↔
            beginsWithDigit name = false ∨ IsDecimal (camel name)) := by
  refine ⟨fun d options files hfiles => ?_, fun c hc => ⟨fun b => pattern_command _ c b, ?_⟩⟩
  · have hmem : javascript d ∈ builtin := by cases d <;> simp [builtin]
    obtain ⟨scene, stubs, hscene, hdefines, -, hooks, hhooks, hshown⟩ :=
      exists_shown_stubs hmem hbuild hfiles
    have hengine : scene.engine = (javascript d).target.engine := by
      obtain ⟨bindings, -, rfl⟩ := scene_eq_ok.1 hscene
      rfl
    refine ⟨stubs, ⟨hooks, hhooks, hshown.kind_eq, hshown.content_eq⟩, hdefines.imp ?_⟩
    exact fun c s hcs => ⟨hcs.role_eq, hcs.takesPattern hengine⟩
  · intro name hname ident
    have hisName := CommandTree.isName_of_mem_parameterNames hbuild hc name hname
    refine ⟨(patternEntryOf_cases name).imp_left And.left, ?_, ?_⟩
    · exact Target.JavaScript.wording.isIdentifier_identifier avoids_unbindable hisName
    · exact isBindingProperty_patternEntryOf_iff hisName

/-- Parameters whose names begin with digits, one of them a number, and one that is called by a
keyword. -/
def factored : Value :=
  .object [("name", .str "tool"), ("commands", .object [
    ("run", .object [("desc", .str "Run it"),
      ("args", .list [.object [("name", .str "2fa")], .object [("name", .str "8")]]),
      ("options", .list [.object [("name", .str "class")]])])])]

/-- Parameters of which some begin with digits. -/
theorem isBindingProperty_iff_factored : ∃ t c, CommandTree.build 16 factored = .ok t ∧
    c ∈ t.walk ∧ c.parameterNames = ["2fa", "8", "class"] ∧
    ∀ name ∈ c.parameterNames, IsBindingProperty (patternEntryOf name) ↔
      beginsWithDigit name = false ∨ IsDecimal (camel name) := by
  have hbuilt : (CommandTree.build 16 factored).toOption.any (fun t =>
      t.walk.any fun c => c.parameterNames = ["2fa", "8", "class"]) = true := by
    decide +kernel
  simp only [Option.any_eq_true, Outcome.toOption_eq_some, List.any_eq_true,
    decide_eq_true_eq] at hbuilt
  obtain ⟨t, ht, c, hc, hnames⟩ := hbuilt
  obtain ⟨-, hcommands⟩ := isBindingProperty_iff ht
  exact ⟨t, c, ht, hc, hnames, fun name hname => ((hcommands c hc).2 name hname).2.2⟩

/-- The pattern of the command has an entry whose key is neither a name nor a number. -/
theorem not_isBindingProperty_factored : ∃ t c, CommandTree.build 16 factored = .ok t ∧
    c ∈ t.walk ∧ c.role = .leaf ∧
    (javascript .plain).stub? ⟨3, 16⟩ t c = some (String.join [
      "// Run it\n",
      "async function onRun(\x7b 2fa: _2fa, 8: _8, class: class_ \x7d) \x7b\n",
      "  console.log(\"run: not implemented yet\");\n",
      "\x7d\n\n"]) ∧
    patternEntryOf "2fa" = "2fa: _2fa" ∧ ¬ IsBindingProperty "2fa: _2fa" := by
  have hbuilt : (CommandTree.build 16 factored).toOption.any (fun t => t.walk.any fun c =>
      c.role = .leaf ∧ (javascript .plain).stub? ⟨3, 16⟩ t c = some (String.join [
        "// Run it\n",
        "async function onRun(\x7b 2fa: _2fa, 8: _8, class: class_ \x7d) \x7b\n",
        "  console.log(\"run: not implemented yet\");\n",
        "\x7d\n\n"])) = true := by
    decide +kernel
  simp only [Option.any_eq_true, Outcome.toOption_eq_some, List.any_eq_true,
    decide_eq_true_eq] at hbuilt
  obtain ⟨t, ht, c, hc, hrole, hstub⟩ := hbuilt
  have hentry : patternEntryOf "2fa" = "2fa: _2fa" := by decide +kernel
  refine ⟨t, c, ht, hc, hrole, hstub, hentry, fun hlegal => ?_⟩
  rw [← hentry, isBindingProperty_patternEntryOf_iff (by decide +kernel)] at hlegal
  rcases hlegal with hbegins | hdecimal
  · revert hbegins
    decide
  · have hletter : 'f' ∈ (camel "2fa").toList := by decide +kernel
    exact absurd (hdecimal.digits 'f' hletter) (by decide)

end Blueprint

end CliGen
