import CliGen.Proofs.Target.Declarations
import CliGen.Proofs.Target.PythonParameters

/-!
# Declarations in programs

How each target declares arguments and options. A decorator, a call or an item has the same parts in
another order, and the templates of the target make exactly these texts (`fill_argument`,
`fill_option`).

The program of a tree declares every parameter of the tree, those of all commands and those that
every command has (`Declarer.exists_program`).
-/

namespace CliGen.Declarer

open Target Template Outcome

/-! ### Python -/

namespace Python

open Target.Python

/-- The decorator of an argument. -/
def argument (a : Value) : Declaration where
  opening := "@click.argument(" ++ literal (a.field "ident") ++ ", metavar=" ++
    literal (a.field "metavar") ++ ", type="
  values := typeOf a
  between := ", required=" ++ if a.trueAt "required" then "True" else "False"
  default := if isTrue (a.field "has_default") then ", default=" ++ defaultOf a else ""
  closing := ")\n"

/-- The decorator of an option. -/
def option (o : Value) : Declaration where
  opening := "@click.option(" ++ declarations o ++ ", type="
  values := typeOf o
  between := if isTrue (o.field "flag") then ", is_flag=True" else ""
  default := if isTrue (o.field "has_default") then ", default=" ++ defaultOf o else ""
  closing := (if isTrue (o.field "has_default") then ", show_default=True" else "") ++
    ", required=" ++ (if o.trueAt "required" then "True" else "False") ++ ", envvar=" ++
      literal (o.field "env") ++ ", help=" ++ literal (o.field "description") ++ ")\n"

variable {scope : Scope} {scopes : List Scope}

/-- The template of an argument's decorator makes its declaration. -/
theorem fill_argument {b : Bool} (hrequired : scope.value.field "required" = .bool b) :
    fill python.engine.helpers (scope :: scopes) argumentDecorator =
      some (argument scope.value).text := by
  have hstr : python.engine.helpers.lookup "py_str" = some (Helper.ofValue literal) := rfl
  have htype : python.engine.helpers.lookup "click_type" = some (Helper.ofValue typeOf) := rfl
  have hdefault : python.engine.helpers.lookup "py_default" = some (Helper.ofValue defaultOf) := rfl
  have hbool : Helper.ofBool (fun b => if b then "True" else "False")
      [(field "required").value (scope :: scopes)] =
        some (if scope.value.trueAt "required" then "True" else "False") := by
    rw [value_field_eq, Value.trueAt, hrequired]
    rfl
  have hgiven : fill python.engine.helpers (scope :: scopes)
      [text ", default=", call "py_default" this] =
        some (", default=" ++ defaultOf scope.value) := by
    rw [fill_text, fill_ofValue hdefault, fill_nil, value_this, Option.map_some, Option.map_some,
      String.append_empty]
  have hsplit : argumentDecorator = [
      text "@click.argument(", call "py_str" (field "ident"), text ", metavar=",
      call "py_str" (field "metavar"), text ", type=", call "click_type" this, text ", required=",
      call "py_bool" (field "required"),
      whenTrue (field "has_default") [text ", default=", call "py_default" this], text ")\n"] := rfl
  rw [hsplit, fill_text, fill_ofValue hstr, fill_text, fill_ofValue hstr, fill_text,
    fill_ofValue htype, fill_text, fill_call (by rfl) hbool, fill_whenTrue fun _ => hgiven,
    fill_text, fill_nil]
  unfold argument Declaration.text
  simp only [Option.map_some, value_field_eq, value_this, String.append_assoc, String.append_empty]

/-- The template of an option's decorator makes its declaration. -/
theorem fill_option {b : Bool} (hrequired : scope.value.field "required" = .bool b) :
    fill python.engine.helpers (scope :: scopes) optionDecorator =
      some (option scope.value).text := by
  have hstr : python.engine.helpers.lookup "py_str" = some (Helper.ofValue literal) := rfl
  have htype : python.engine.helpers.lookup "click_type" = some (Helper.ofValue typeOf) := rfl
  have hdecls : python.engine.helpers.lookup "click_decls" = some (Helper.ofValue declarations) :=
    rfl
  have hdefault : python.engine.helpers.lookup "py_default" = some (Helper.ofValue defaultOf) := rfl
  have hbool : Helper.ofBool (fun b => if b then "True" else "False")
      [(field "required").value (scope :: scopes)] =
        some (if scope.value.trueAt "required" then "True" else "False") := by
    rw [value_field_eq, Value.trueAt, hrequired]
    rfl
  have hflag : fill python.engine.helpers (scope :: scopes) [text ", is_flag=True"] =
      some ", is_flag=True" := by
    rw [fill_text, fill_nil]
    rfl
  have hgiven : fill python.engine.helpers (scope :: scopes)
      [text ", default=", call "py_default" this, text ", show_default=True"] =
        some (", default=" ++ (defaultOf scope.value ++ ", show_default=True")) := by
    rw [fill_text, fill_ofValue hdefault, fill_text, fill_nil]
    rfl
  -- The template once more, piece by piece.
  have hsplit : optionDecorator = [
    text "@click.option(", call "click_decls" this, text ", type=", call "click_type" this,
    whenTrue (field "flag") [text ", is_flag=True"],
    whenTrue (field "has_default") [
      text ", default=", call "py_default" this, text ", show_default=True"], text ", required=",
    call "py_bool" (field "required"), text ", envvar=", call "py_str" (field "env"),
    text ", help=", call "py_str" (field "description"), text ")\n"] := rfl
  rw [hsplit, fill_text, fill_ofValue hdecls, fill_text, fill_ofValue htype,
    fill_whenTrue fun _ => hflag, fill_whenTrue fun _ => hgiven, fill_text,
    fill_call (by rfl) hbool, fill_text, fill_ofValue hstr, fill_text, fill_ofValue hstr,
    fill_text, fill_nil]
  unfold option Declaration.text
  by_cases hdefault : isTrue (scope.value.field "has_default") = true <;>
    simp only [Option.map_some, value_field_eq, value_this, hdefault, if_true, if_false,
      Bool.false_eq_true, String.append_assoc, String.append_empty, String.empty_append]

end Python

/-! ### JavaScript -/

namespace JavaScript

open Target.JavaScript

/-- The call that adds an argument. -/
def argument (a : Value) : Declaration where
  opening := "  .addArgument(new Argument(" ++ argumentSyntax a ++ ", " ++
    literal (a.field "description") ++ ")"
  values := if isTrue (a.field "has_choices") then ".choices(" ++ choicesOf a ++ ")" else ""
  between := ""
  default := if isTrue (a.field "has_default") then ".default(" ++ defaultOf a ++ ")" else ""
  closing := parserOf a ++ ")\n"

/-- The call that adds an option. -/
def option (o : Value) : Declaration where
  opening := "  .addOption(new Option(" ++ optionFlags o ++ ", " ++
    literal (o.field "description") ++ ")"
  values := if isTrue (o.field "has_choices") then ".choices(" ++ choicesOf o ++ ")" else ""
  between := ""
  default := if isTrue (o.field "has_default") then ".default(" ++ defaultOf o ++ ")" else ""
  closing := ".env(" ++ literal (o.field "env") ++ ")" ++ parserOf o ++
    (if isTrue (o.field "required") then ".makeOptionMandatory()" else "") ++ ")\n"

/-- The template of the call that adds an argument. -/
def argumentCall : Template := (params.take 1).flatMap Piece.body

/-- The template of the call that adds an option. -/
def optionCall : Template := (params.drop 1).flatMap Piece.body

variable {d : Dialect} {scope : Scope} {scopes : List Scope}

/-- The call that restricts a parameter in JavaScript. -/
theorem fill_choices : fill (target d).engine.helpers (scope :: scopes)
    [text ".choices(", call "js_choices" this, text ")"] =
      some (".choices(" ++ choicesOf scope.value ++ ")") := by
  have hchoices : (target d).engine.helpers.lookup "js_choices" = some (Helper.ofValue choicesOf) :=
    rfl
  rw [fill_text, fill_ofValue hchoices, fill_text, fill_nil, value_this]
  simp only [Option.map_some, String.append_assoc, String.append_empty]

/-- The call that gives a parameter its default in JavaScript. -/
theorem fill_default : fill (target d).engine.helpers (scope :: scopes)
    [text ".default(", call "js_default" this, text ")"] =
      some (".default(" ++ defaultOf scope.value ++ ")") := by
  have hdefault : (target d).engine.helpers.lookup "js_default" = some (Helper.ofValue defaultOf) :=
    rfl
  rw [fill_text, fill_ofValue hdefault, fill_text, fill_nil, value_this]
  simp only [Option.map_some, String.append_assoc, String.append_empty]

/-- The template makes the call that adds an argument. -/
theorem fill_argument : fill (target d).engine.helpers (scope :: scopes) argumentCall =
    some (argument scope.value).text := by
  have hstr : (target d).engine.helpers.lookup "js_str" = some (Helper.ofValue literal) := rfl
  have hsyntax : (target d).engine.helpers.lookup "arg_syntax" =
      some (Helper.ofValue argumentSyntax) := rfl
  have hparser : (target d).engine.helpers.lookup "commander_parser" =
      some (Helper.ofValue parserOf) := rfl
  have hsplit : argumentCall = [
    text "  .addArgument(new Argument(", call "arg_syntax" this, text ", ",
    call "js_str" (field "description"), text ")",
    whenTrue (field "has_choices") [text ".choices(", call "js_choices" this, text ")"],
    whenTrue (field "has_default") [text ".default(", call "js_default" this, text ")"],
    call "commander_parser" this, text ")\n"] := rfl
  rw [hsplit, fill_text, fill_ofValue hsyntax, fill_text, fill_ofValue hstr, fill_text,
    fill_whenTrue fun _ => fill_choices, fill_whenTrue fun _ => fill_default, fill_ofValue hparser,
    fill_text, fill_nil]
  unfold argument Declaration.text
  simp only [Option.map_some, value_field_eq, value_this, String.append_assoc, String.append_empty]

/-- The template makes the call that adds an option. -/
theorem fill_option : fill (target d).engine.helpers (scope :: scopes) optionCall =
    some (option scope.value).text := by
  have hstr : (target d).engine.helpers.lookup "js_str" = some (Helper.ofValue literal) := rfl
  have hflags : (target d).engine.helpers.lookup "option_flags" =
      some (Helper.ofValue optionFlags) := rfl
  have hparser : (target d).engine.helpers.lookup "commander_parser" =
      some (Helper.ofValue parserOf) := rfl
  have hneeded : fill (target d).engine.helpers (scope :: scopes) [text ".makeOptionMandatory()"] =
      some ".makeOptionMandatory()" := by
    rw [fill_text, fill_nil]
    rfl
  have hsplit : optionCall = [
    text "  .addOption(new Option(", call "option_flags" this, text ", ",
    call "js_str" (field "description"), text ")",
    whenTrue (field "has_choices") [text ".choices(", call "js_choices" this, text ")"],
    whenTrue (field "has_default") [text ".default(", call "js_default" this, text ")"],
    text ".env(", call "js_str" (field "env"), text ")", call "commander_parser" this,
    whenTrue (field "required") [text ".makeOptionMandatory()"], text ")\n"] := rfl
  rw [hsplit, fill_text, fill_ofValue hflags, fill_text, fill_ofValue hstr, fill_text,
    fill_whenTrue fun _ => fill_choices, fill_whenTrue fun _ => fill_default, fill_text,
    fill_ofValue hstr, fill_text, fill_ofValue hparser, fill_whenTrue fun _ => hneeded, fill_text,
    fill_nil]
  unfold option Declaration.text
  simp only [Option.map_some, value_field_eq, value_this, String.append_assoc, String.append_empty]

end JavaScript

/-! ### Rust -/

namespace Rust

open Target.Rust

/-- The item of an argument. -/
def argument (a : Value) : Declaration where
  opening := "        Arg::new(" ++ literal (a.field "key") ++ ")\n" ++
    "            .value_name(" ++ literal (a.field "metavar") ++ ")\n" ++
    "            .help(" ++ literal (a.field "description") ++ ")\n" ++
    "            .required(" ++ shownText (a.field "required") ++ ")\n" ++
    "            .value_parser("
  values := parserOf a
  between := ")"
  default := defaultCall a
  closing := ",\n"

/-- The item of an option. A flag takes no values. -/
def option (everywhere : Bool) (o : Value) : Declaration where
  opening := "        Arg::new(" ++ literal (o.field "key") ++ ")\n" ++
    "            .long(" ++ literal (o.field "name") ++ ")" ++
    (if isTrue (o.field "short") then
      "\n            .short(" ++ quotedChar ((o.textAt "short").toList.head?.getD '?') ++ ")"
    else "") ++ "\n" ++
    "            .help(" ++ literal (o.field "description") ++ ")\n" ++
    "            .env(" ++ literal (o.field "env") ++ ")\n" ++
    "            .required(" ++ shownText (o.field "required") ++ ")" ++
    (if everywhere then "\n            .global(true)" else "") ++ "\n" ++
    "            " ++ if isTrue (o.field "flag") then "" else ".value_parser("
  values := if isTrue (o.field "flag") then ".action(ArgAction::SetTrue)" else parserOf o
  between := if isTrue (o.field "flag") then "" else ")"
  default := defaultCall o
  closing := ",\n"

/-- The template of an argument's item. -/
def argumentItem : Template := ((Target.Rust.parameters.drop 4).take 1).flatMap Piece.body

/-- The template of an option's item. -/
def optionItem : Template := ((Target.Rust.parameters.drop 5).take 1).flatMap Piece.body

variable {scope around : Scope} {scopes : List Scope}

/-- The template makes the item of an argument. -/
theorem fill_argument : fill rust.engine.helpers (scope :: scopes) argumentItem =
    some (argument scope.value).text := by
  have hstr : rust.engine.helpers.lookup "rs_str" = some (Helper.ofValue literal) := rfl
  have hparser : rust.engine.helpers.lookup "rs_parser" = some (Helper.ofValue parserOf) := rfl
  have hdefault : rust.engine.helpers.lookup "rs_default_call" =
      some (Helper.ofValue defaultCall) := rfl
  have hplain : rust.engine.helpers.lookup "required" = none := rfl
  have hsplit : argumentItem = [
    text "        Arg::new(", call "rs_str" (field "key"), text ")\n",
    text "            .value_name(", call "rs_str" (field "metavar"), text ")\n",
    text "            .help(", call "rs_str" (field "description"), text ")\n",
    text "            .required(", put "required", text ")\n",
    text "            .value_parser(", call "rs_parser" this, text ")",
    call "rs_default_call" this, text ",\n"] := rfl
  rw [hsplit, fill_text, fill_ofValue hstr, fill_text, fill_text, fill_ofValue hstr, fill_text,
    fill_text, fill_ofValue hstr, fill_text, fill_text, fill_put_field hplain, fill_text, fill_text,
    fill_ofValue hparser, fill_text, fill_ofValue hdefault, fill_text, fill_nil]
  unfold argument Declaration.text
  simp only [Option.map_some, value_field_eq, value_this, String.append_assoc, String.append_empty]

/-- The template makes the item of an option, if the short form is a text where there is one. -/
theorem fill_option
    (hshort : isTrue (scope.value.field "short") = true → ∃ s, scope.value.field "short" = .str s) :
    fill rust.engine.helpers (scope :: around :: scopes) optionItem =
      some (option (isTrue (around.value.field "global")) scope.value).text := by
  have hstr : rust.engine.helpers.lookup "rs_str" = some (Helper.ofValue literal) := rfl
  have hparser : rust.engine.helpers.lookup "rs_parser" = some (Helper.ofValue parserOf) := rfl
  have hdefault : rust.engine.helpers.lookup "rs_default_call" =
      some (Helper.ofValue defaultCall) := rfl
  have hplain : rust.engine.helpers.lookup "required" = none := rfl
  -- Only a text has a character in front, so this needs a short name that is one.
  have hletter : isTrue ((field "short").value (scope :: around :: scopes)) = true →
      fill rust.engine.helpers (scope :: around :: scopes)
        [text "\n            .short(", call "rs_char" (field "short"), text ")"] =
          some ("\n            .short(" ++
            quotedChar ((scope.value.textAt "short").toList.head?.getD '?') ++ ")") := by
    intro htrue
    rw [value_field_eq] at htrue
    obtain ⟨s, hs⟩ := hshort htrue
    have hchar : Helper.ofText (fun s => quotedChar (s.toList.head?.getD '?'))
        [(field "short").value (scope :: around :: scopes)] =
          some (quotedChar ((scope.value.textAt "short").toList.head?.getD '?')) := by
      rw [value_field_eq, Value.textAt, hs]
      rfl
    rw [fill_text, fill_call (by rfl) hchar, fill_text, fill_nil]
    simp only [Option.map_some, String.append_assoc, String.append_empty]
  have hglobal : fill rust.engine.helpers (scope :: around :: scopes)
      [text "\n            .global(true)"] = some "\n            .global(true)" := by
    rw [fill_text, fill_nil]
    rfl
  have hflag : fill rust.engine.helpers (scope :: around :: scopes)
      [text ".action(ArgAction::SetTrue)"] = some ".action(ArgAction::SetTrue)" := by
    rw [fill_text, fill_nil]
    rfl
  have hvalues : fill rust.engine.helpers (scope :: around :: scopes)
      [text ".value_parser(", call "rs_parser" this, text ")"] =
        some (".value_parser(" ++ parserOf scope.value ++ ")") := by
    rw [fill_text, fill_ofValue hparser, fill_text, fill_nil, value_this]
    simp only [Option.map_some, String.append_assoc, String.append_empty]
  -- The template once more, piece by piece.
  have hsplit : optionItem = [
    text "        Arg::new(", call "rs_str" (field "key"), text ")\n",
    text "            .long(", call "rs_str" (field "name"), text ")",
    whenTrue (field "short") [
      text "\n            .short(", call "rs_char" (field "short"), text ")"], text "\n",
    text "            .help(", call "rs_str" (field "description"), text ")\n",
    text "            .env(", call "rs_str" (field "env"), text ")\n",
    text "            .required(", put "required", text ")",
    whenTrue (outer "global") [text "\n            .global(true)"], text "\n",
    text "            ",
    either (field "flag") [text ".action(ArgAction::SetTrue)"] [
      text ".value_parser(", call "rs_parser" this, text ")"], call "rs_default_call" this,
    text ",\n"] := rfl
  rw [hsplit, fill_text, fill_ofValue hstr, fill_text, fill_text, fill_ofValue hstr, fill_text,
    fill_whenTrue hletter, fill_text, fill_text, fill_ofValue hstr, fill_text, fill_text,
    fill_ofValue hstr, fill_text, fill_text, fill_put_field hplain, fill_text,
    fill_whenTrue fun _ => hglobal, fill_text, fill_text, fill_either hflag hvalues,
    fill_ofValue hdefault, fill_text, fill_nil]
  unfold option Declaration.text
  by_cases hflag : isTrue (scope.value.field "flag") = true <;>
    simp only [Option.map_some, value_field_eq, value_outer_eq, value_this, hflag, if_true,
      if_false, Bool.false_eq_true, String.append_assoc, String.append_empty]

/-- A default that is told of a parameter other than a flag is set. -/
theorem defaultCall_eq {p : Param} {value d : Value} (h : p.ToldBy value)
    (htype : p.type ≠ .boolean) (hd : p.default = some d) (hnull : d ≠ .null) :
    defaultCall value = "\n            .default_value(" ++ literal d ++ ")" := by
  rw [defaultCall, (h.not_flag htype).1, (h.default hd).1]
  cases d with
  | null => exact absurd rfl hnull
  | bool | int | float | str | list | object => rfl

end Rust

/-! ## The declarers at hand -/

/-- The declarer of the Python target. -/
def python : Declarer where
  cover := .python
  argument := Python.argument
  option _ := Python.option

/-- The declarer of the target of a dialect. -/
def javascript (d : JavaScript.Dialect) : Declarer where
  cover := .javascript d
  argument := JavaScript.argument
  option _ := JavaScript.option

/-- The declarer of the Rust target. -/
def rust : Declarer where
  cover := .rust
  argument := Rust.argument
  option := Rust.option

/-- The declarers of all targets of this library. -/
def builtin : List Declarer := [python, javascript .plain, javascript .typed, rust]

/-- Every target has a declarer. -/
theorem map_cover_builtin : builtin.map (·.cover) = Cover.builtin := rfl

variable {scene : Scene} {c : Command} {b : Hook.Binding} {node : Value} {code : String}

private theorem python_command (hengine : scene.engine = Target.python.engine)
    (hnode : Target.Python.commandContext scene c b = .ok node)
    (hactions : c.role = .managed →
      ((b.controller.map (·.actions)).getD []).map (Wording.action c) ≠ [])
    (h : Target.python.engine.render (Blueprint.python.template c.role) node = .ok code) :
    ∃ base text, python.ShowsOwn scene.tree.cliName c code base text := by
  unfold Target.Python.commandContext at hnode
  extract_lets command base at hnode
  obtain ⟨text, htext, hnode⟩ := bind_eq_ok.1 hnode
  cases hnode
  rw [hengine] at htext
  refine ⟨base, text, rfl, rfl, rfl, htext, ?_⟩
  cases hrole : c.role with
  | managed =>
    rw [hrole] at h
    obtain ⟨body, hloop, hput⟩ : ∃ body, forEach (field "actions") body ∈ Target.Python.managed ∧
        putOuter "decorators" ∈ body :=
      ⟨_, List.mem_of_getElem? (i := 17) rfl, List.mem_of_getElem? (i := 7) rfl⟩
    exact Engine.render_each rfl hloop hput rfl (hactions hrole) rfl h
  | group =>
    rw [hrole] at h
    have hput : put "decorators" ∈ Target.Python.group := List.mem_of_getElem? (i := 9) rfl
    exact Engine.render_put rfl hput ⟨rfl, rfl⟩ h
  | leaf =>
    rw [hrole] at h
    have hput : put "decorators" ∈ Target.Python.command := List.mem_of_getElem? (i := 8) rfl
    exact Engine.render_put rfl hput ⟨rfl, rfl⟩ h

/-- The Python target shows its declarations. -/
theorem python_sound : python.Sound where
  shows harguments hoptions h := by
    have ht : python.engine.templates.lookup "python/params" = some ([] ++
      (forEach (field "arguments") Target.Python.argumentDecorator ::
        forEach (field "options") Target.Python.optionDecorator :: [])) := rfl
    refine shows_of_lookup ht harguments hoptions ?_ ?_ h
    · intro a scope hscope
      exact Python.fill_argument (b := a.required) (by rw [hscope]; rfl)
    · intro o scope hscope
      exact Python.fill_option (b := o.required) (by rw [hscope]; rfl)
  command := python_command
  program hcontext h := by
    have hput : put "global_decorators" ∈ Target.Python.program :=
      List.mem_of_getElem? (i := 17) rfl
    exact Engine.render_put rfl hput ⟨rfl, hcontext⟩ h
  globals_options _ := rfl
  globals_arguments _ := rfl
  globals_eq _ := rfl

private theorem javascript_command {d : JavaScript.Dialect}
    (hengine : scene.engine = (JavaScript.target d).engine)
    (hnode : Target.JavaScript.commandContext d scene c b = .ok node)
    (hactions : c.role = .managed →
      ((b.controller.map (·.actions)).getD []).map (Wording.action c) ≠ [])
    (h : (JavaScript.target d).engine.render ((Blueprint.javascript d).template c.role) node =
      .ok code) : ∃ base text, (javascript d).ShowsOwn scene.tree.cliName c code base text := by
  unfold Target.JavaScript.commandContext at hnode
  extract_lets command base at hnode
  obtain ⟨text, htext, hnode⟩ := bind_eq_ok.1 hnode
  cases hnode
  rw [hengine] at htext
  refine ⟨base, text, rfl, rfl, rfl, htext, ?_⟩
  cases hrole : c.role with
  | managed =>
    rw [hrole] at h
    obtain ⟨body, hloop, hput⟩ : ∃ body, forEach (field "actions") body ∈
        Target.JavaScript.managed ∧ putOuter "params" ∈ body :=
      ⟨_, List.mem_of_getElem? (i := 15) rfl, List.mem_of_getElem? (i := 11) rfl⟩
    have ht : (JavaScript.target d).engine.templates.lookup "commander/managed" =
        some Target.JavaScript.managed := by cases d <;> rfl
    exact Engine.render_each ht hloop hput rfl (hactions hrole) rfl h
  | group =>
    rw [hrole] at h
    have hput : put "params" ∈ Target.JavaScript.group := List.mem_of_getElem? (i := 14) rfl
    have ht : (JavaScript.target d).engine.templates.lookup "commander/group" =
        some Target.JavaScript.group := by cases d <;> rfl
    exact Engine.render_put ht hput ⟨rfl, rfl⟩ h
  | leaf =>
    rw [hrole] at h
    have hput : put "params" ∈ Target.JavaScript.command := List.mem_of_getElem? (i := 14) rfl
    have ht : (JavaScript.target d).engine.templates.lookup "commander/command" =
        some Target.JavaScript.command := by cases d <;> rfl
    exact Engine.render_put ht hput ⟨rfl, rfl⟩ h

/-- The target of a dialect shows its declarations. -/
theorem javascript_sound (d : JavaScript.Dialect) : (javascript d).Sound where
  shows harguments hoptions h := by
    have ht : (javascript d).engine.templates.lookup "commander/params" = some ([] ++
      (forEach (field "arguments") JavaScript.argumentCall ::
        forEach (field "options") JavaScript.optionCall :: [])) := by cases d <;> rfl
    refine shows_of_lookup ht harguments hoptions ?_ ?_ h
    · exact fun a scope _ => JavaScript.fill_argument
    · exact fun o scope _ => JavaScript.fill_option
  command := javascript_command
  program hcontext h := by
    cases d with
    | plain =>
      have hput : put "global_params" ∈ Target.JavaScript.program :=
        List.mem_of_getElem? (i := 18) rfl
      exact Engine.render_put rfl hput ⟨rfl, hcontext⟩ h
    | typed =>
      have hput : put "global_params" ∈ Target.JavaScript.Typed.program :=
        List.mem_of_getElem? (i := 18) rfl
      exact Engine.render_put rfl hput ⟨rfl, hcontext⟩ h
  globals_options _ := rfl
  globals_arguments _ := rfl
  globals_eq _ := rfl

private theorem rust_command (hengine : scene.engine = Target.rust.engine)
    (hnode : Target.Rust.commandContext scene c b = .ok node)
    (h : Target.rust.engine.render (Blueprint.rust.template c.role) node = .ok code) :
    ∃ base text, rust.ShowsOwn scene.tree.cliName c code base text := by
  unfold Target.Rust.commandContext at hnode
  extract_lets base at hnode
  obtain ⟨text, htext, hnode⟩ := bind_eq_ok.1 hnode
  cases hnode
  rw [hengine] at htext
  refine ⟨base, text, rfl, rfl, rfl, htext, ?_⟩
  have hmanaged : put "args" ∈ Target.Rust.managed := List.mem_of_getElem? (i := 16) rfl
  have hcommand : put "args" ∈ Target.Rust.command := List.mem_of_getElem? (i := 19) rfl
  cases hrole : c.role with
  | managed =>
    rw [hrole] at h
    exact Engine.render_put rfl hmanaged ⟨rfl, rfl⟩ h
  | group =>
    rw [hrole] at h
    exact Engine.render_put rfl hcommand ⟨rfl, rfl⟩ h
  | leaf =>
    rw [hrole] at h
    exact Engine.render_put rfl hcommand ⟨rfl, rfl⟩ h

/-- The Rust target shows its declarations. -/
theorem rust_sound : rust.Sound where
  shows harguments hoptions h := by
    have ht : rust.engine.templates.lookup "rust/args" = some (Target.Rust.parameters.take 4 ++
      (forEach (field "arguments") Rust.argumentItem ::
        forEach (field "options") Rust.optionItem :: Target.Rust.parameters.drop 6)) := rfl
    refine shows_of_lookup ht harguments hoptions ?_ ?_ h
    · exact fun a scope _ => Rust.fill_argument
    · intro o scope hscope
      refine Rust.fill_option ?_
      rw [hscope]
      show isTrue (Value.ofOption (o.short.map fun c => .str (String.singleton c))) = true →
        ∃ s, Value.ofOption (o.short.map fun c => .str (String.singleton c)) = .str s
      cases o.short with
      | none => nofun
      | some c => exact fun _ => ⟨_, rfl⟩
  command hengine hnode _ h := rust_command hengine hnode h
  program hcontext h := by
    have hput : put "global_args" ∈ Target.Rust.program := List.mem_of_getElem? (i := 8) rfl
    exact Engine.render_put rfl hput ⟨rfl, hcontext⟩ h
  globals_options _ := rfl
  globals_arguments _ := rfl
  globals_eq _ := rfl

/-- All declarers tell what the programs of their targets declare. -/
theorem sound_of_mem_builtin {v : Declarer} (h : v ∈ builtin) : v.Sound := by
  simp only [builtin, List.mem_cons, List.not_mem_nil, or_false] at h
  rcases h with rfl | rfl | rfl | rfl
  · exact python_sound
  · exact javascript_sound .plain
  · exact javascript_sound .typed
  · exact rust_sound

/-! ## Rendering -/

variable {v : Declarer} {t : CommandTree} {options : RenderOptions} {files : List Artifact}

/-- A managed command has actions. -/
private theorem actions_ne_nil (r : Hook.Resolver) (t : CommandTree) {c : Command}
    (hrole : c.role = .managed) :
    (((r.settledBinding t c).controller.map (·.actions)).getD []).map (Wording.action c) ≠ [] := by
  rw [Target.Python.actions_settledBinding r t hrole]
  simp [Lifecycle.actions]

/-- **The program declares every parameter of the tree.** -/
theorem exists_program (hv : v ∈ builtin) {maxDepth : Nat} {document : Value}
    (hbuild : CommandTree.build maxDepth document = .ok t)
    (h : Registry.builtin.render t options v.cover.blueprint.target.id = .ok files) :
    ∃ a ∈ files, a.kind = .entryPoint ∧ ∀ q ∈ v.ofTree t, Holds a.content q.2.text := by
  have hsound := sound_of_mem_builtin hv
  have hcover : v.cover ∈ Cover.builtin := map_cover_builtin ▸ List.mem_map_of_mem hv
  have hblueprint : v.cover.blueprint ∈ Blueprint.builtin :=
    Cover.map_blueprint_builtin ▸ List.mem_map_of_mem hcover
  obtain ⟨context, hshown⟩ := Cover.exists_shown hcover h
  rw [Blueprint.render_registry hblueprint] at h
  obtain ⟨scene, own, hscene, hengine, -, hown, ⟨a, ha, hprogram⟩, -⟩ :=
    (Blueprint.sound_of_mem_builtin hblueprint).render_ok hbuild h
  refine ⟨a, ha, hprogram.kind_eq, fun q hq => ?_⟩
  rw [ofTree, List.mem_append] at hq
  rcases hq with hq | hq
  · -- The program shows what every command has in a text of its own.
    obtain ⟨o, ho, rfl⟩ := List.mem_map.1 hq
    obtain ⟨text, htext, hcontext⟩ := hshown.globals_eq
    have hcontent := hsound.program hcontext (hshown.program a ha hprogram.kind_eq)
    have hnone : (v.cover.globals t).get? "arguments" =
        some (.list (([] : List Argument).map v.wording.argument)) := hsound.globals_arguments t
    have hdeclared := (hsound.shows hnone (hsound.globals_options t) htext).2 o ho
    rw [hsound.globals_eq t] at hdeclared
    exact hcontent.trans hdeclared
  · -- It shows the code of all commands, and that shows the parameters of the command.
    obtain ⟨c, hc, hq⟩ := List.mem_flatMap.1 hq
    obtain ⟨bindings, -, rfl⟩ := scene_eq_ok.1 hscene
    obtain ⟨i, hi, rfl⟩ := List.getElem_of_mem hc
    obtain ⟨hlength, hget⟩ := List.forall₂_iff_get.1 hown
    have hi' : i < own.length := hlength ▸ hi
    obtain ⟨node, hnode, hcode, -⟩ := (hget i hi hi').2.rendered
    have hcontent : Holds a.content ((own.get ⟨i, hi'⟩).code "commands") :=
      Holds.trans hprogram.content_eq
        (holds_join (List.mem_map_of_mem (List.get_mem own ⟨i, hi'⟩)))
    obtain ⟨base, text, hbase⟩ := hsound.command rfl hnode (actions_ne_nil _ t) hcode
    obtain ⟨hargument, hoption⟩ :=
      hsound.shows hbase.arguments_eq hbase.options_eq hbase.rendered
    have hparameters := hcontent.trans hbase.holds
    rw [hbase.global_eq] at hoption
    rcases List.mem_append.1 hq with hq | hq
    · obtain ⟨a, ha, rfl⟩ := List.mem_map.1 hq
      exact hparameters.trans (hargument a ha)
    · obtain ⟨o, ho, rfl⟩ := List.mem_map.1 hq
      exact hparameters.trans (hoption o ho)

end CliGen.Declarer
