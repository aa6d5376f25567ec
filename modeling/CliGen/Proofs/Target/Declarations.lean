import CliGen.Proofs.Target.Cover
import CliGen.Proofs.Template.Fields

/-!
# Declarations of parameters

Every target declares each argument and each option in a text of its own: what the parameter is
called, which values it takes, and its default (`Declaration`). A `Declarer` tells these texts from
what stands for the parameter, and lists those of a whole tree (`Declarer.ofTree`).

A target shows its declarations if its templates do: the template of parameters, those of commands,
and that of the program (`Declarer.Sound`).
-/

namespace CliGen

open Target Template Outcome

/-- How a parameter is declared: the values that it takes and its default, and what stands around
them. -/
structure Declaration where
  opening : String
  values : String
  between : String
  default : String
  closing : String

/-- The text of a declaration. -/
def Declaration.text (d : Declaration) : String :=
  d.opening ++ d.values ++ d.between ++ d.default ++ d.closing

/-! ## Parameters -/

/-- A value tells what templates show of the type of a parameter, of its choices and of its
default. -/
structure Param.ToldBy (p : Param) (value : Value) : Prop where
  type_eq : value.field "type" = .str p.type.name
  choices_eq : value.field "choices" = Wording.choices p
  has_choices_eq : value.field "has_choices" = .bool p.choices.isSome
  default_eq : value.field "default" = .ofOption p.default
  has_default_eq : value.field "has_default" = .bool p.default.isSome
  flag_eq : value.field "flag" = .null ∨ value.field "flag" = .bool (p.type = .boolean)

/-- Templates are told of an argument by these fields. -/
theorem Wording.toldBy_argument (w : Wording) (a : Argument) : a.ToldBy (w.argument a) :=
  ⟨rfl, rfl, rfl, rfl, rfl, .inl rfl⟩

/-- Templates are told of an option by these fields. -/
theorem Wording.toldBy_option (w : Wording) (cliName : String) (path : List String)
    (o : NamedOption) : o.toParam.ToldBy (w.option cliName path o) :=
  ⟨rfl, rfl, rfl, rfl, rfl, .inr rfl⟩

namespace Param.ToldBy

variable {p : Param} {value : Value} (h : p.ToldBy value)
include h

/-- A parameter that takes a value is told to be no flag. -/
theorem not_flag (hp : p.type ≠ .boolean) :
    value.trueAt "flag" = false ∧ isTrue (value.field "flag") = false := by
  rw [Value.trueAt]
  rcases h.flag_eq with hflag | hflag
  · rw [hflag]
    exact ⟨rfl, rfl⟩
  · rw [hflag, decide_eq_false hp]
    exact ⟨rfl, rfl⟩

/-- Templates are given the choices of a parameter. -/
theorem choices {vs : List Value} (hvs : p.choices = some vs) :
    value.itemsAt "choices" = vs ∧ value.trueAt "has_choices" = true ∧
      isTrue (value.field "has_choices") = true := by
  rw [Value.itemsAt, Value.trueAt, h.choices_eq, h.has_choices_eq, Wording.choices, hvs]
  exact ⟨rfl, rfl, rfl⟩

/-- Templates are given the default of a parameter. -/
theorem default {d : Value} (hd : p.default = some d) :
    value.field "default" = d ∧ isTrue (value.field "has_default") = true := by
  rw [h.default_eq, h.has_default_eq, hd]
  exact ⟨rfl, rfl⟩

end Param.ToldBy

/-! ## Declarers -/

/-- How a target declares parameters, from what stands for them. -/
structure Declarer where
  cover : Cover
  argument : Value → Declaration
  /-- The declaration of an option, which every command may have. -/
  option : Bool → Value → Declaration

namespace Declarer

/-- How the target speaks of a command line. -/
def wording (v : Declarer) : Wording := v.cover.blueprint.wording

/-- The engine of the target. -/
def engine (v : Declarer) : Engine := v.cover.blueprint.target.engine

/-- The parameters of a tree with their declarations: those that every command has, and then those
of the commands in the order of the walk. -/
def ofTree (v : Declarer) (t : CommandTree) : List (Param × Declaration) :=
  t.globalOptions.map (fun o => (o.toParam, v.option true (v.wording.option t.cliName [] o))) ++
    t.walk.flatMap fun c =>
      c.arguments.map (fun a => (a, v.argument (v.wording.argument a))) ++
        c.options.map fun o => (o.toParam, v.option false (v.wording.option t.cliName c.path o))

/-- A declaration of a tree is made of what is told of its parameter, and the parameter is sound. -/
theorem exists_toldBy {v : Declarer} {maxDepth : Nat} {document : Value} {t : CommandTree}
    (hbuild : CommandTree.build maxDepth document = .ok t) {q : Param × Declaration}
    (hq : q ∈ v.ofTree t) : q.1.Sound ∧ ∃ value, q.1.ToldBy value ∧
      (q.2 = v.argument value ∨ ∃ everywhere, q.2 = v.option everywhere value) := by
  rw [ofTree, List.mem_append] at hq
  rcases hq with hq | hq
  · obtain ⟨o, ho, rfl⟩ := List.mem_map.1 hq
    have hsound := (CommandTree.optionsSound_of_build hbuild).each o ho
    exact ⟨hsound, _, v.wording.toldBy_option _ [] o, .inr ⟨true, rfl⟩⟩
  · obtain ⟨c, hc, hq⟩ := List.mem_flatMap.1 hq
    obtain ⟨ancestors, siblings, hlevel, hmem⟩ := CommandTree.Level.exists_of_mem_walk hc
    have hsound := (hlevel.sound_of_build hbuild).each c hmem
    rcases List.mem_append.1 hq with hq | hq
    · obtain ⟨a, ha, rfl⟩ := List.mem_map.1 hq
      exact ⟨hsound.arguments.each a ha, _, v.wording.toldBy_argument a, .inl rfl⟩
    · obtain ⟨o, ho, rfl⟩ := List.mem_map.1 hq
      exact ⟨hsound.options.each o ho, _, v.wording.toldBy_option _ c.path o, .inr ⟨false, rfl⟩⟩

/-- The code of a command shows the text of the command's own parameters. -/
structure ShowsOwn (v : Declarer) (cliName : String) (c : Command) (code : String) (base : Value)
    (text : String) : Prop where
  arguments_eq : base.get? "arguments" = some (.list (c.arguments.map v.wording.argument))
  options_eq : base.get? "options" = some (.list (c.options.map (v.wording.option cliName c.path)))
  global_eq : isTrue (base.field "global") = false
  rendered : v.engine.render v.cover.parameters base = .ok text
  holds : Holds code text

/-- A target shows the declarations of all parameters: those of a command in the text of the
command, and those that every command has in the program. -/
structure Sound (v : Declarer) : Prop where
  shows : ∀ {base : Value} {text} {as : List Argument} {os : List NamedOption} {cliName path},
    base.get? "arguments" = some (.list (as.map v.wording.argument)) →
    base.get? "options" = some (.list (os.map (v.wording.option cliName path))) →
    v.engine.render v.cover.parameters base = .ok text →
    (∀ a ∈ as, Holds text (v.argument (v.wording.argument a)).text) ∧
      ∀ o ∈ os, Holds text
        (v.option (isTrue (base.field "global")) (v.wording.option cliName path o)).text
  command : ∀ {scene c b node code}, scene.engine = v.engine →
    v.cover.blueprint.context scene c b = .ok node →
    (c.role = .managed → ((b.controller.map (·.actions)).getD []).map (Wording.action c) ≠ []) →
    v.engine.render (v.cover.blueprint.template c.role) node = .ok code →
    ∃ base text, v.ShowsOwn scene.tree.cliName c code base text
  program : ∀ {context : Value} {text content}, context.get? v.cover.globalsKey = some (.str text) →
    v.engine.render v.cover.blueprint.program context = .ok content → Holds content text
  globals_options : ∀ t, (v.cover.globals t).get? "options" =
    some (.list (t.globalOptions.map (v.wording.option t.cliName [])))
  globals_arguments : ∀ t, (v.cover.globals t).get? "arguments" = some (.list [])
  globals_eq : ∀ t, v.option (isTrue ((v.cover.globals t).field "global")) = v.option true

/-- The template of parameters declares what it is filled in with, if its loops do. -/
theorem shows_of_lookup {v : Declarer} {before after argumentBody optionBody : Template}
    (ht : v.engine.templates.lookup v.cover.parameters = some (before ++
      (forEach (field "arguments") argumentBody :: forEach (field "options") optionBody :: after)))
    {base : Value} {text : String} {as : List Argument} {os : List NamedOption} {cliName : String}
    {path : List String}
    (harguments : base.get? "arguments" = some (.list (as.map v.wording.argument)))
    (hoptions : base.get? "options" = some (.list (os.map (v.wording.option cliName path))))
    (hargument : ∀ a scope, scope.value = v.wording.argument a →
      fill v.engine.helpers [scope, .outermost base] argumentBody =
        some (v.argument scope.value).text)
    (hoption : ∀ o scope, scope.value = v.wording.option cliName path o →
      fill v.engine.helpers [scope, .outermost base] optionBody =
        some (v.option (isTrue (base.field "global")) scope.value).text)
    (h : v.engine.render v.cover.parameters base = .ok text) :
    (∀ a ∈ as, Holds text (v.argument (v.wording.argument a)).text) ∧
      ∀ o ∈ os, Holds text
        (v.option (isTrue (base.field "global")) (v.wording.option cliName path o)).text := by
  obtain ⟨front, loops, -, hloops, rfl⟩ := fill_append_eq_some.1 (Engine.fill_of_render ht h)
  obtain ⟨rest, rfl, hrest⟩ := fill_forEach_of_body (f := fun a => (v.argument a).text)
    (value_field harguments) (by
      intro item hitem scope hscope
      obtain ⟨a, -, rfl⟩ := List.mem_map.1 hitem
      rw [← hscope, hargument a scope hscope]) hloops
  obtain ⟨behind, rfl, -⟩ := fill_forEach_of_body
    (f := fun o => (v.option (isTrue (base.field "global")) o).text) (value_field hoptions) (by
      intro item hitem scope hscope
      obtain ⟨o, -, rfl⟩ := List.mem_map.1 hitem
      rw [← hscope, hoption o scope hscope]) hrest
  constructor
  · intro a ha
    have hjoin := holds_join (List.mem_map_of_mem (f := fun a => (v.argument a).text)
      (List.mem_map_of_mem (f := v.wording.argument) ha))
    exact .trans ⟨front, _, String.append_assoc.symm⟩ hjoin
  · intro o ho
    have hjoin := holds_join (List.mem_map_of_mem
      (f := fun o => (v.option (isTrue (base.field "global")) o).text)
      (List.mem_map_of_mem (f := v.wording.option cliName path) ho))
    exact .trans ⟨front ++ String.join ((as.map v.wording.argument).map fun a =>
      (v.argument a).text), behind, by simp only [String.append_assoc]⟩ hjoin

end Declarer

end CliGen
