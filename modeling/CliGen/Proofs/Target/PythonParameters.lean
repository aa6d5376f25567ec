import CliGen.Proofs.Target.Identifiers

/-!
# Parameters of Python commands

A decorator declares a parameter of a command, the function behind the decorators takes it and hands
it to the command's hook in a dictionary, and the stub of the hook takes it again. All of them know
it by its identifier, and list the parameters in one order (`Target.Python.parameters_agree`).
-/

namespace CliGen

open Naming Template

/-! ## Quotes around names -/

namespace Quoted

/-- Characters of names need no escape. -/
theorem encodeChar_of_isNameChar {c : Char} (h : IsNameChar c) : encodeChar c = [c] := by
  rcases h with halnum | rfl | rfl | rfl
  · exact forall_ascii (p := fun c => c.isAlphanum = true → encodeChar c = [c]) (by decide)
      (toNat_lt_of_isAlphanum halnum) halnum
  all_goals decide

/-- Nothing in a name needs an escape. -/
theorem encode_of_isNameChar {cs : List Char} (h : ∀ c ∈ cs, IsNameChar c) : encode cs = cs := by
  rw [encode, List.flatMap_congr fun c hc => encodeChar_of_isNameChar (h c hc)]
  exact List.flatMap_singleton' cs

/-- A name is quoted by quotes around it. -/
theorem quote_of_isNameChar {s : String} (h : ∀ c ∈ s.toList, IsNameChar c) :
    quote s = "\"" ++ s ++ "\"" := by
  rw [← String.toList_inj, quote, encode_of_isNameChar h]
  simp

end Quoted

namespace Target.Python

variable {c : Command} {ids : List String}

/-! ## What templates are filled in with -/

/-- The identifiers of a command's parameters, arguments first. -/
def identifiers (c : Command) : List String := c.parameterNames.map wording.identifier

/-- The dictionary that hands on what is known by some identifiers. -/
def dictionary (ids : List String) : String :=
  "\x7b" ++ ", ".intercalate (ids.map fun i => "\"" ++ i ++ "\": " ++ i) ++ "\x7d"

/-- The parameters of a command are listed by their identifiers, behind what a function takes of its
own. -/
theorem parameterList_command (own : List String) (cliName : String) (c : Command)
    (b : Hook.Binding) : parameterList own (wording.command cliName c b) =
      ", ".intercalate (own ++ identifiers c) := by
  have htexts : (parameters (wording.command cliName c b)).filterMap
      (fun p => (p.field "ident").str?) = identifiers c := by
    rw [identifiers, ← wording.map_ident_parameters cliName c b, ← List.filterMap_eq_map]
    refine List.filterMap_congr fun p hp => ?_
    rw [wording.field_ident_parameters cliName c b p hp]
    rfl
  rw [parameterList, htexts]

/-- The parameters of a command are handed on under their identifiers. -/
theorem keywordArguments_command (hids : ∀ i ∈ identifiers c, ∀ ch ∈ i.toList, IsNameChar ch)
    (cliName : String) (b : Hook.Binding) :
    keywordArguments (wording.command cliName c b) = dictionary (identifiers c) := by
  have hentries : (parameters (wording.command cliName c b)).map
      (fun p => literal (p.field "ident") ++ ": " ++ p.textAt "ident") =
      (identifiers c).map fun i => "\"" ++ i ++ "\": " ++ i := by
    rw [identifiers, ← wording.map_ident_parameters cliName c b, List.map_map]
    refine List.map_congr_left fun p hp => ?_
    have hident : p.textAt "ident" ∈ identifiers c := by
      rw [identifiers, ← wording.map_ident_parameters cliName c b]
      exact List.mem_map_of_mem hp
    rw [wording.field_ident_parameters cliName c b p hp, literal,
      Quoted.quote_of_isNameChar (hids _ hident), Function.comp_apply]
    simp only [String.append_assoc]
    rfl
  rw [keywordArguments, dictionary, hentries]

/-! ## Decorators -/

/-- The decorator of an argument declares its identifier. -/
def DeclaresArgument (a : Argument) (line : String) : Prop :=
  ∃ rest, line =
    "@click.argument(" ++ ("\"" ++ wording.identifier a.name ++ "\"") ++ ", metavar=" ++ rest

/-- The decorator of an option declares its identifier, behind its short form and its long flag. -/
def DeclaresOption (o : NamedOption) (line : String) : Prop :=
  ∃ rest, line = "@click.option(" ++ (", ".intercalate
    ((o.short.toList.map fun c => Quoted.quote ("-" ++ String.singleton c)) ++
      ["\"--" ++ o.name ++ "\"", "\"" ++ wording.identifier o.name ++ "\""]) ++ ", type=" ++ rest)

/-- Decorators declare the parameters of a command, arguments first. -/
def Declares (c : Command) (decorators : String) : Prop :=
  ∃ arguments options, decorators = String.join arguments ++ String.join options ∧
    List.Forall₂ DeclaresArgument c.arguments arguments ∧
    List.Forall₂ DeclaresOption c.options options

/-- Identifiers are made of characters that names may have. -/
theorem isNameChar_of_identifier {name : String} (h : Field.isName name = true) :
    ∀ ch ∈ (wording.identifier name).toList, IsNameChar ch := by
  have havoids : wording.Avoids Blueprint.pythonKeywords :=
    Blueprint.avoids_of_mem_languages (w := Blueprint.python) List.mem_cons_self
  intro ch hch
  rcases (Wording.isIdentifier_identifier havoids h).chars ch hch with halnum | hunderscore
  · exact .inl halnum
  · exact .inr (.inr (.inl hunderscore))

/-- An option is declared by its short name, its name and its identifier. -/
theorem declarations_option {o : NamedOption} (h : Field.isName o.name = true) (cliName : String)
    (path : List String) : declarations (wording.option cliName path o) = ", ".intercalate
      ((o.short.toList.map fun c => Quoted.quote ("-" ++ String.singleton c)) ++
        ["\"--" ++ o.name ++ "\"", "\"" ++ wording.identifier o.name ++ "\""]) := by
  have hlong : Quoted.quote ("--" ++ o.name) = "\"--" ++ o.name ++ "\"" := by
    rw [Quoted.quote_of_isNameChar]
    · rw [← String.append_assoc]
      rfl
    · intro ch hch
      rw [String.toList_append, List.mem_append] at hch
      have hdashes : ∀ ch ∈ "--".toList, ch = '-' := by simp
      exact hch.elim (fun hch => .inr (.inl (hdashes ch hch))) (isNameChar_of_mem h ch)
  have hident : Quoted.quote (wording.identifier o.name) =
      "\"" ++ wording.identifier o.name ++ "\"" :=
    Quoted.quote_of_isNameChar (isNameChar_of_identifier h)
  have hshort : ((wording.option cliName path o).field "short").str? =
      o.short.map String.singleton := by
    show (Value.ofOption (o.short.map fun c => .str (String.singleton c))).str? = _
    cases o.short <;> rfl
  rw [← hlong, ← hident, declarations, hshort]
  cases o.short <;> rfl

/-- The template of an argument's decorator. -/
def argumentDecorator : Template := (params.take 1).flatMap Piece.body

/-- The template of an option's decorator. -/
def optionDecorator : Template := (params.drop 1).flatMap Piece.body

variable {scope : Scope} {scopes : List Scope} {line : String}

/-- The line that is written for an argument declares it under its identifier. -/
theorem declaresArgument_of_fill {a : Argument} (hname : Field.isName a.name = true)
    (hscope : scope.value = wording.argument a)
    (h : fill python.engine.helpers (scope :: scopes) argumentDecorator = some line) :
    DeclaresArgument a line := by
  have hsplit : argumentDecorator =
      [text "@click.argument(", Template.call "py_str" (field "ident"), text ", metavar="] ++
        argumentDecorator.drop 3 := rfl
  have hvalue : scope.value.get? "ident" = some (.str (wording.identifier a.name)) := by
    rw [hscope]
    rfl
  have hident : Helper.ofValue literal [(field "ident").value (scope :: scopes)] =
      some ("\"" ++ wording.identifier a.name ++ "\"") := by
    rw [value_field hvalue, ← Quoted.quote_of_isNameChar (isNameChar_of_identifier hname)]
    rfl
  rw [hsplit] at h
  obtain ⟨first, rest, hfirst, -, rfl⟩ := fill_append_eq_some.1 h
  rw [fill_text, fill_call (by rfl) hident, fill_text, fill_nil] at hfirst
  cases hfirst
  exact ⟨rest, by simp [String.append_assoc]⟩

/-- The lines that are written for an option declare it under its identifier. -/
theorem declaresOption_of_fill {o : NamedOption} {cliName : String} {path : List String}
    (hname : Field.isName o.name = true) (hscope : scope.value = wording.option cliName path o)
    (h : fill python.engine.helpers (scope :: scopes) optionDecorator = some line) :
    DeclaresOption o line := by
  have hsplit : optionDecorator =
      [text "@click.option(", Template.call "click_decls" this, text ", type="] ++
        optionDecorator.drop 3 := rfl
  have hdeclared : Helper.ofValue declarations [this.value (scope :: scopes)] =
      some (declarations (wording.option cliName path o)) := by
    rw [value_this, hscope]
    rfl
  rw [hsplit] at h
  obtain ⟨first, rest, hfirst, -, rfl⟩ := fill_append_eq_some.1 h
  rw [fill_text, fill_call (by rfl) hdeclared, fill_text, fill_nil,
    declarations_option hname] at hfirst
  cases hfirst
  exact ⟨rest, by simp [String.append_assoc]⟩

/-- The template of decorators declares what it is filled in with. -/
theorem declares_of_render {node : Value} {text cliName : String}
    (hnames : ∀ n ∈ c.parameterNames, Field.isName n = true)
    (harguments : node.get? "arguments" = some (.list (c.arguments.map wording.argument)))
    (hoptions : node.get? "options" =
      some (.list (c.options.map (wording.option cliName c.path))))
    (h : python.engine.render "python/params" node = .ok text) : Declares c text := by
  have hlookup : python.engine.templates.lookup "python/params" =
      some [forEach (field "arguments") argumentDecorator,
        forEach (field "options") optionDecorator] := rfl
  have hfill := Engine.fill_of_render hlookup h
  obtain ⟨arguments, rest, rfl, hrest, hdeclared⟩ := fill_forEach (value_field harguments) hfill
  obtain ⟨options, rest, rfl, hrest, hdeclared'⟩ := fill_forEach (value_field hoptions) hrest
  rw [fill_nil] at hrest
  cases hrest
  rw [List.forall₂_map_left_iff] at hdeclared hdeclared'
  have hargs : ∀ a ∈ c.arguments, Field.isName a.name = true := fun a ha =>
    hnames a.name (List.mem_append_left _ (List.mem_map_of_mem ha))
  have hopts : ∀ o ∈ c.options, Field.isName o.name = true := fun o ho =>
    hnames o.name (List.mem_append_right _ (List.mem_map_of_mem ho))
  refine ⟨arguments, options, by simp, ?_, ?_⟩
  · refine ((List.forall₂_and_left _ _).2 ⟨hargs, hdeclared⟩).imp ?_
    rintro a line ⟨hname, scope, hscope, hline⟩
    exact declaresArgument_of_fill hname hscope hline
  · refine ((List.forall₂_and_left _ _).2 ⟨hopts, hdeclared'⟩).imp ?_
    rintro o line ⟨hname, scope, hscope, hline⟩
    exact declaresOption_of_fill hname hscope hline

/-! ## Functions -/

/-- A text holds a function behind decorators. It takes some names of its own and some parameters,
and hands the parameters on in a dictionary. -/
def HoldsFunction (decorators var : String) (own ids : List String) (text : String) : Prop :=
  ∃ before middle after, text =
    before ++ (decorators ++ ("def " ++ var ++ "(" ++ ", ".intercalate (own ++ ids) ++ "):\n")) ++
      (middle ++ (", " ++ dictionary ids ++ ")\n") ++ after)

/-- What stands for a command shows its parameters. -/
structure ShowsParameters (scene : Scene) (c : Command) (b : Hook.Binding) (decorators : String)
    (node : Value) : Prop where
  declares : Declares c decorators
  decorators : node.get? "decorators" = some (.str decorators)
  params : node.get? "py_params" = some (.str (", ".intercalate (identifiers c)))
  params_ctx : node.get? "py_params_ctx" = some (.str (", ".intercalate ("ctx" :: identifiers c)))
  kwargs : node.get? "py_kwargs" = some (.str (dictionary (identifiers c)))
  has_globals : node.get? "has_globals" = some (.bool !scene.tree.globalOptions.isEmpty)
  var : node.get? "var" = some (.str (parserVariable c.path))
  name : node.get? "canonical_name" = some (.str b.canonical)
  actions : node.get? "actions" =
    some (.list (((b.controller.map (·.actions)).getD []).map (Wording.action c)))

/-- The context of a command shows the parameters of the command. -/
theorem showsParameters {scene : Scene} {b : Hook.Binding} {node : Value}
    (hnames : ∀ n ∈ c.parameterNames, Field.isName n = true)
    (hengine : scene.engine = python.engine) (h : commandContext scene c b = .ok node) :
    ∃ decorators, ShowsParameters scene c b decorators node := by
  have hids : ∀ i ∈ identifiers c, ∀ ch ∈ i.toList, IsNameChar ch := by
    intro i hi
    obtain ⟨n, hn, rfl⟩ := List.mem_map.1 hi
    exact isNameChar_of_identifier (hnames n hn)
  unfold commandContext at h
  extract_lets command extended at h
  obtain ⟨decorators, hdecorators, h⟩ := Outcome.bind_eq_ok.1 h
  cases h
  rw [hengine] at hdecorators
  have hdeclares : Declares c decorators := declares_of_render hnames rfl rfl hdecorators
  refine ⟨decorators, hdeclares, rfl, ?_, ?_, ?_, rfl, rfl, rfl, rfl⟩
  · show some (Value.str (parameterList [] command)) = _
    rw [parameterList_command, List.nil_append]
  · show some (Value.str (parameterList ["ctx"] command)) = _
    rw [parameterList_command, List.singleton_append]
  · show some (Value.str (keywordArguments command)) = _
    rw [keywordArguments_command hids]

/-- A template that shows decorators, a header and a dictionary makes a function. -/
theorem holdsFunction_of_fill {decorators var text : String} {own : List String} {rv rp rk : Ref}
    {before front between after : Template}
    (hfront : fill python.engine.helpers scopes front = some decorators)
    (hvar : ShowsAt python.engine.helpers scopes rv var)
    (hparams : ShowsAt python.engine.helpers scopes rp (", ".intercalate (own ++ ids)))
    (hkwargs : ShowsAt python.engine.helpers scopes rk (dictionary ids))
    (h : fill python.engine.helpers scopes
      (before ++ (front ++ [.text "def ", .shown rv, .text "(", .shown rp, .text "):\n"]) ++
        (between ++ [.text ", ", .shown rk, .text ")\n"] ++ after)) = some text) :
    HoldsFunction decorators var own ids text := by
  have hheader : fill python.engine.helpers scopes
      [.text "def ", .shown rv, .text "(", .shown rp, .text "):\n"] =
        some ("def " ++ var ++ "(" ++ ", ".intercalate (own ++ ids) ++ "):\n") := by
    rw [← Template.text, fill_text, fill_shown hvar, ← Template.text, fill_text,
      fill_shown hparams, ← Template.text, fill_text, fill_nil]
    simp [String.append_assoc]
  have hcall : fill python.engine.helpers scopes [.text ", ", .shown rk, .text ")\n"] =
      some (", " ++ dictionary ids ++ ")\n") := by
    rw [← Template.text, fill_text, fill_shown hkwargs, ← Template.text, fill_text, fill_nil]
    simp [String.append_assoc]
  -- The decorators stand right in front of the header, so the two count as one part.
  have hdecorated := fill_append_eq_some.2 ⟨_, _, hfront, hheader, rfl⟩
  exact fill_two hdecorated hcall h

variable {scene : Scene} {b : Hook.Binding} {node : Value} {decorators code : String}

/-- The code of a leaf holds a function of its parameters. -/
theorem holdsFunction_leaf (h : ShowsParameters scene c b decorators node)
    (hrender : python.engine.render "python/command" node = .ok code) :
    HoldsFunction decorators (parserVariable c.path) [] (identifiers c) code := by
  have hlookup : python.engine.templates.lookup "python/command" =
      some (command.take 8 ++ ([put "decorators"] ++ [.text "def ", .shown (.keys 0 ["var"]),
        .text "(", .shown (.keys 0 ["py_params"]), .text "):\n"]) ++
        ((command.drop 14).take 7 ++ [.text ", ", .shown (.keys 0 ["py_kwargs"]), .text ")\n"] ++
          command.drop 24)) := rfl
  have hfill := Engine.fill_of_render hlookup hrender
  have hfront : ShowsAt python.engine.helpers [.outermost node] (.keys 0 ["decorators"])
      decorators := .here rfl h.decorators
  exact holdsFunction_of_fill hfront.fill (.here rfl h.var) (.here rfl h.params)
    (.here rfl h.kwargs) hfill

/-- The code of a group holds a function of its parameters behind the context. -/
theorem holdsFunction_group (h : ShowsParameters scene c b decorators node)
    (hrender : python.engine.render "python/group" node = .ok code) :
    HoldsFunction (decorators ++ "@click.pass_context\n") (parserVariable c.path) ["ctx"]
      (identifiers c) code := by
  have hlookup : python.engine.templates.lookup "python/group" =
      some (group.take 9 ++ ([put "decorators", Template.text "@click.pass_context\n"] ++
        [.text "def ", .shown (.keys 0 ["var"]), .text "(", .shown (.keys 0 ["py_params_ctx"]),
          .text "):\n"]) ++
        ((group.drop 16).take 8 ++ [.text ", ", .shown (.keys 0 ["py_kwargs"]), .text ")\n"] ++
          group.drop 27)) := rfl
  have hfill := Engine.fill_of_render hlookup hrender
  have hfront : fill python.engine.helpers [.outermost node]
      [put "decorators", Template.text "@click.pass_context\n"] =
        some (decorators ++ "@click.pass_context\n") := by
    rw [fill_put ⟨rfl, h.decorators⟩, fill_text, fill_nil, Option.map_some, Option.map_some,
      String.append_empty]
  exact holdsFunction_of_fill hfront (.here rfl h.var) (.here rfl h.params_ctx)
    (.here rfl h.kwargs) hfill

/-- The template of one action of a managed command. -/
def actionFunction : Template := (managed.drop 17).flatMap Piece.body

/-- What is written for an action holds a function of the parameters of its command. -/
theorem holdsFunction_action {a : Hook.Action} (h : ShowsParameters scene c b decorators node)
    (hscope : scope.value = Wording.action c a)
    (hfill : fill python.engine.helpers [scope, .outermost node] actionFunction = some code) :
    HoldsFunction decorators (parserVariable c.path ++ "__" ++ a.name) [] (identifiers c) code := by
  have hsplit : actionFunction = actionFunction.take 7 ++ ([putOuter "decorators"] ++
      [.text "def ", .shown (.keys 0 ["var"]), .text "(", .shown (.keys 1 ["py_params"]),
        .text "):\n"]) ++
      ((actionFunction.drop 13).take 8 ++ [.text ", ", .shown (.keys 1 ["py_kwargs"]),
        .text ")\n"] ++ actionFunction.drop 24) := rfl
  rw [hsplit] at hfill
  have hfront : ShowsAt python.engine.helpers [scope, .outermost node] (.keys 1 ["decorators"])
      decorators := .outer h.decorators
  have hvar : scope.value.get? "var" = some (.str (parserVariable c.path ++ "__" ++ a.name)) := by
    rw [hscope]
    rfl
  exact holdsFunction_of_fill hfront.fill (.here rfl hvar) (.outer h.params) (.outer h.kwargs) hfill

/-! ## Stubs -/

/-- The header of a function that takes some names of its own, some parameters, and the options of
the command line if there are any. -/
def stubHeader (name : String) (own ids : List String) (globals : Bool) : String :=
  "def " ++ name ++ "(" ++
    ", ".intercalate (own ++ (ids ++ if globals then ["**_globals"] else [])) ++ "):\n"

/-- A list of parameters is shown as nothing only if it is empty. -/
theorem isTrue_intercalate_iff (hids : ∀ i ∈ ids, i ≠ "") :
    Template.isTrue (.str (", ".intercalate ids)) = true ↔ ids ≠ [] := by
  cases ids with
  | nil => simp [Template.isTrue]
  | cons i is =>
    obtain ⟨rest, hrest⟩ := exists_intercalate_cons ", " i is
    refine iff_of_true ?_ (List.cons_ne_nil i is)
    rw [Template.isTrue, Bool.not_eq_true', ← Bool.not_eq_true, String.isEmpty_iff]
    intro hempty
    rw [hempty] at hrest
    have hfirst : i.toList = [] := (List.append_eq_nil_iff.1 hrest.symm).1
    exact hids i List.mem_cons_self (String.toList_eq_nil_iff.1 hfirst)

/-- The list of a callable's parameters. -/
theorem callable_parameters (hids : ∀ i ∈ ids, i ≠ "") (globals : Bool) :
    ", ".intercalate ids ++ (if globals = true then
      (if Template.isTrue (.str (", ".intercalate ids)) = true then ", " else "") ++ "**_globals"
        else "") = ", ".intercalate (ids ++ if globals = true then ["**_globals"] else []) := by
  by_cases hglobals : globals = true
  · by_cases hnone : ids = []
    · rw [hnone, if_pos hglobals, if_pos hglobals]
      simp [Template.isTrue]
    · rw [if_pos hglobals, if_pos hglobals, if_pos ((isTrue_intercalate_iff hids).2 hnone),
        String.intercalate_append_of_ne_nil hnone (List.cons_ne_nil _ _),
        String.intercalate_singleton, String.append_assoc]
  · rw [if_neg hglobals, if_neg hglobals, List.append_nil, String.append_empty]

/-- The list of a method's parameters, behind its first one. -/
theorem method_parameters (hids : ∀ i ∈ ids, i ≠ "") (globals : Bool) :
    "self" ++ ((if Template.isTrue (.str (", ".intercalate ids)) = true then
      ", " ++ ", ".intercalate ids else "") ++ if globals = true then ", **_globals" else "") =
      ", ".intercalate ("self" :: (ids ++ if globals = true then ["**_globals"] else [])) := by
  by_cases hnone : ids = []
  · rw [hnone]
    cases globals <;> decide +kernel
  · have hmark : ", **_globals" = ", " ++ "**_globals" := rfl
    rw [hmark, if_pos ((isTrue_intercalate_iff hids).2 hnone),
      String.intercalate_cons_of_ne_nil (by simp [hnone]), ← callable_parameters hids,
      if_pos ((isTrue_intercalate_iff hids).2 hnone)]
    simp only [String.append_assoc]

variable {stub : String}

/-- The stub of a callable. -/
theorem stub_leaf (hids : ∀ i ∈ identifiers c, i ≠ "")
    (h : ShowsParameters scene c b decorators node)
    (hrender : python.engine.render "python/stub_command" node = .ok stub) :
    ∃ rest, stub = stubHeader b.canonical [] (identifiers c)
      (!scene.tree.globalOptions.isEmpty) ++ rest := by
  have hlookup : python.engine.templates.lookup "python/stub_command" =
      some ([Template.text "def ", put "canonical_name", Template.text "(", put "py_params",
        whenTrue (field "has_globals") [whenTrue (field "py_params") [Template.text ", "],
          Template.text "**_globals"], Template.text "):\n"] ++ stubCommand.drop 6) := rfl
  have hinner : fill python.engine.helpers [.outermost node]
      [whenTrue (field "py_params") [Template.text ", "], Template.text "**_globals"] =
        some ((if Template.isTrue (.str (", ".intercalate (identifiers c))) = true then ", "
          else "") ++ "**_globals") := by
    rw [fill_whenTrue (fun _ => by rw [fill_text, fill_nil]; rfl), fill_text, fill_nil,
      value_field h.params]
    rfl
  refine Engine.render_starts hlookup ?_ hrender
  rw [fill_text, fill_put ⟨rfl, h.name⟩, fill_text, fill_put ⟨rfl, h.params⟩,
    fill_whenTrue (fun _ => hinner), fill_text, fill_nil, value_field h.has_globals, stubHeader,
    List.nil_append, ← callable_parameters hids]
  simp [String.append_assoc, Template.isTrue]

/-- The template of one method of a managed command's controller. -/
def stubMethod : Template := ((stubController.drop 6).take 1).flatMap Piece.body

/-- The stub of an action is a method that takes the parameters of its command. -/
theorem stub_method {a : Hook.Action} (hids : ∀ i ∈ identifiers c, i ≠ "")
    (h : ShowsParameters scene c b decorators node) (hscope : scope.value = Wording.action c a)
    (hfill : fill python.engine.helpers [scope, .outermost node] stubMethod = some stub) :
    ∃ rest, stub = "\n    " ++ stubHeader a.name ["self"] (identifiers c)
      (!scene.tree.globalOptions.isEmpty) ++ rest := by
  have hsplit : stubMethod = [Template.text "\n    def ", put "action", Template.text "(self",
      whenTrue (outer "py_params") [Template.text ", ", putOuter "py_params"],
      whenTrue (outer "has_globals") [Template.text ", **_globals"], Template.text "):\n"] ++
        stubMethod.drop 6 := rfl
  have haction : scope.value.get? "action" = some (.str a.name) := by
    rw [hscope]
    rfl
  have hinner : fill python.engine.helpers [scope, .outermost node]
      [Template.text ", ", putOuter "py_params"] =
        some (", " ++ ", ".intercalate (identifiers c)) := by
    rw [fill_text, putOuter, fill_shown (.outer h.params), fill_nil, Option.map_some,
      Option.map_some, String.append_empty]
  have hlead : "\n    def " = "\n    " ++ "def " := rfl
  have hself : "(self" = "(" ++ "self" := rfl
  rw [hsplit, hlead, hself] at hfill
  obtain ⟨first, rest, hfirst, -, rfl⟩ := fill_append_eq_some.1 hfill
  refine ⟨rest, congrArg (· ++ rest) ?_⟩
  rw [fill_text, put, fill_shown (.here rfl haction), fill_text, fill_whenTrue (fun _ => hinner),
    fill_whenTrue (fun _ => by rw [fill_text, fill_nil]; rfl), fill_text, fill_nil,
    value_outer h.params, value_outer h.has_globals] at hfirst
  rw [← Option.some.inj hfirst, stubHeader, List.singleton_append, ← method_parameters hids]
  simp only [String.append_assoc, String.append_empty, Template.isTrue]

/-! ## The code of a command -/

/-- The code of a command takes the command's parameters: in one function, behind the context of a
group, or in one function for each action of a managed command. -/
def PassesParameters (c : Command) (decorators code : String) : Prop :=
  match c.role with
  | .leaf => HoldsFunction decorators (parserVariable c.path) [] (identifiers c) code
  | .group => HoldsFunction (decorators ++ "@click.pass_context\n") (parserVariable c.path) ["ctx"]
    (identifiers c) code
  | .managed => ∃ front functions, code = front ++ String.join functions ∧ List.Forall₂
    (fun action => HoldsFunction decorators (parserVariable c.path ++ "__" ++ action) []
      (identifiers c)) Lifecycle.actions functions

/-- The stub of a command's hook takes the command's parameters: in one function, or in one method
for each action of a managed command. A group has no stub. -/
def TakesParameters (c : Command) (name : String) (globals : Bool) (stub : String) : Prop :=
  match c.role with
  | .leaf => ∃ rest, stub = stubHeader name [] (identifiers c) globals ++ rest
  | .group => stub = ""
  | .managed => ∃ front methods back, stub = front ++ String.join methods ++ back ∧ List.Forall₂
    (fun action method => ∃ rest,
      method = "\n    " ++ stubHeader action ["self"] (identifiers c) globals ++ rest)
    Lifecycle.actions methods

/-- The actions of a managed command are told by its binding. -/
theorem actions_settledBinding (r : Hook.Resolver) (t : CommandTree)
    (hrole : c.role = .managed) :
    (((r.settledBinding t c).controller.map (·.actions)).getD []).map (Wording.action c) =
      Lifecycle.actions.map fun action =>
        Wording.action c ⟨action, r.candidates (c.path ++ [action])⟩ := by
  have hmanaged : c.lifecycle.isManaged = true := Command.role_eq_managed_iff.1 hrole
  rw [Hook.Resolver.settledBinding, if_pos hmanaged, Option.map_some, Option.getD_some,
    Hook.Resolver.controller, List.map_map]
  rfl

variable {r : Hook.Resolver} {t : CommandTree}

/-- The code of a managed command holds a function for each action. -/
theorem holdsFunctions_managed
    (h : ShowsParameters scene c (r.settledBinding t c) decorators node) (hrole : c.role = .managed)
    (hrender : python.engine.render "python/managed" node = .ok code) :
    ∃ front functions, code = front ++ String.join functions ∧ List.Forall₂
      (fun action => HoldsFunction decorators (parserVariable c.path ++ "__" ++ action) []
        (identifiers c)) Lifecycle.actions functions := by
  have hlookup : python.engine.templates.lookup "python/managed" =
      some (managed.take 17 ++ [forEach (field "actions") actionFunction]) := rfl
  have hfill := Engine.fill_of_render hlookup hrender
  have hactions := h.actions
  rw [actions_settledBinding r t hrole] at hactions
  obtain ⟨front, functions, -, hfunctions, rfl⟩ := fill_append_eq_some.1 hfill
  obtain ⟨texts, rest, rfl, hrest, htexts⟩ := fill_forEach (value_field hactions) hfunctions
  rw [fill_nil] at hrest
  cases hrest
  rw [List.forall₂_map_left_iff] at htexts
  refine ⟨front, texts, by rw [String.append_empty], htexts.imp ?_⟩
  rintro action text ⟨scope, hscope, htext⟩
  -- The scope tells which action this is, so it goes first, before any names are compared.
  have hfunction := holdsFunction_action h hscope htext
  exact hfunction

/-- The code of every command passes its parameters on. -/
theorem passesParameters (h : ShowsParameters scene c (r.settledBinding t c) decorators node)
    (hrender : python.engine.render (Blueprint.python.template c.role) node = .ok code) :
    PassesParameters c decorators code := by
  unfold PassesParameters
  cases hrole : c.role with
  | leaf =>
    rw [hrole] at hrender
    exact holdsFunction_leaf h hrender
  | group =>
    rw [hrole] at hrender
    exact holdsFunction_group h hrender
  | managed =>
    rw [hrole] at hrender
    exact holdsFunctions_managed h hrole hrender

/-- The stub of a managed command has a method for each action. -/
theorem stub_managed (hids : ∀ i ∈ identifiers c, i ≠ "")
    (h : ShowsParameters scene c (r.settledBinding t c) decorators node) (hrole : c.role = .managed)
    (hrender : python.engine.render "python/stub_controller" node = .ok stub) :
    ∃ front methods back, stub = front ++ String.join methods ++ back ∧ List.Forall₂
      (fun action method => ∃ rest, method = "\n    " ++ stubHeader action ["self"] (identifiers c)
        (!scene.tree.globalOptions.isEmpty) ++ rest) Lifecycle.actions methods := by
  have hlookup : python.engine.templates.lookup "python/stub_controller" =
      some (stubController.take 6 ++ (forEach (field "actions") stubMethod ::
        stubController.drop 7)) := rfl
  have hfill := Engine.fill_of_render hlookup hrender
  have hactions := h.actions
  rw [actions_settledBinding r t hrole] at hactions
  obtain ⟨front, methods, -, hmethods, rfl⟩ := fill_append_eq_some.1 hfill
  obtain ⟨texts, back, rfl, -, htexts⟩ := fill_forEach (value_field hactions) hmethods
  rw [List.forall₂_map_left_iff] at htexts
  refine ⟨front, texts, back, String.append_assoc.symm, htexts.imp ?_⟩
  rintro action text ⟨scope, hscope, htext⟩
  have hmethod := stub_method hids h hscope htext
  exact hmethod

/-- The stub of every command takes its parameters. -/
theorem takesParameters (hids : ∀ i ∈ identifiers c, i ≠ "")
    (h : ShowsParameters scene c (r.settledBinding t c) decorators node)
    (hrender : ∀ template ∈ Blueprint.python.stub c.role,
      python.engine.render template node = .ok stub) (hgroup : c.role = .group → stub = "") :
    TakesParameters c (r.settledName t c) (!scene.tree.globalOptions.isEmpty) stub := by
  unfold TakesParameters
  cases hrole : c.role with
  | leaf =>
    rw [hrole] at hrender
    have hstandard : c.lifecycle.isManaged = false := by
      rw [← Bool.not_eq_true, ← Command.role_eq_managed_iff, hrole]
      exact nofun
    rw [← Hook.Resolver.definedName_settledBinding, Hook.Resolver.definedName_of_standard hstandard]
    exact stub_leaf hids h (hrender _ rfl)
  | group => exact hgroup hrole
  | managed =>
    rw [hrole] at hrender
    exact stub_managed hids h hrole (hrender _ rfl)

/-! ## The files of a program -/

/-- The identifiers of a command can stand together in one list of parameters, and beside the names
that functions take of their own. -/
theorem usable_identifiers {maxDepth : Nat} {document : Value}
    (h : CommandTree.build maxDepth document = .ok t) (hc : c ∈ t.walk) :
    (identifiers c).Nodup ∧ ∀ i ∈ identifiers c,
      IsIdentifier Blueprint.pythonKeywords i ∧ i ≠ "ctx" ∧ i ≠ "self" := by
  have hnames := CommandTree.isName_of_mem_parameterNames h hc
  constructor
  · refine (nodup_map_congr fun a ha b hb => ?_).1
      (CommandTree.nodup_identifiers_of_parameterNames h hc)
    exact (wording.identifier_eq_iff (hnames a ha) (hnames b hb)).symm
  · intro i hi
    obtain ⟨n, hn, rfl⟩ := List.mem_map.1 hi
    have hkeywords : wording.Avoids Blueprint.pythonKeywords :=
      Blueprint.avoids_of_mem_languages (w := Blueprint.python) List.mem_cons_self
    -- The two other names are kept from parameters in the way of keywords.
    have hreserved : wording.Avoids ["ctx", "self"] := by
      constructor <;> decide +kernel
    have hown := (Wording.isIdentifier_identifier hreserved (hnames n hn)).not_keyword
    rw [List.mem_cons, List.mem_singleton, not_or] at hown
    exact ⟨Wording.isIdentifier_identifier hkeywords (hnames n hn), hown⟩

/-- A command's own code and its stub take the command's parameters. -/
theorem agrees_of_code {maxDepth : Nat} {document : Value}
    (hbuild : CommandTree.build maxDepth document = .ok t) (hc : c ∈ t.walk)
    (htree : scene.tree = t) (hengine : scene.engine = python.engine) {own : Fragment}
    (h : Blueprint.python.Code scene c (r.settledBinding t c) own) :
    (∃ decorators, Declares c decorators ∧
      PassesParameters c decorators (own.code "commands")) ∧
    TakesParameters c (r.settledName t c) (!t.globalOptions.isEmpty) (own.code "stubs") := by
  obtain ⟨node, hnode, htext, hstub⟩ := h.rendered
  rw [hengine] at htext hstub
  have hnames := CommandTree.isName_of_mem_parameterNames hbuild hc
  obtain ⟨decorators, hnode⟩ := showsParameters hnames hengine hnode
  refine ⟨⟨decorators, hnode.declares, passesParameters hnode htext⟩, ?_⟩
  rw [← htree] at hnode ⊢
  refine takesParameters (fun i hi hempty => ?_) hnode hstub h.nothing
  obtain ⟨ch, hch, -⟩ := ((usable_identifiers hbuild hc).2 i hi).1.begins
  rw [hempty] at hch
  cases hch

/-- **Python parameters line up.** In the files of every package, each command's decorators declare
the identifiers of its parameters, arguments first and in the order of their declaration. The
functions behind the decorators take the same identifiers and hand them on in a dictionary, in which
each is the key of its own value, and the stub of the hook takes the same identifiers again. They
are different, and none is a keyword or one of the names that functions and methods take besides. -/
theorem parameters_agree {maxDepth : Nat} {document : Value}
    (hbuild : CommandTree.build maxDepth document = .ok t) {options : RenderOptions}
    {files : List Artifact} (h : Registry.builtin.render t options "python" = .ok files) :
    (∀ c ∈ t.walk, (identifiers c).Nodup ∧ ∀ i ∈ identifiers c,
      IsIdentifier Blueprint.pythonKeywords i ∧ i ≠ "ctx" ∧ i ≠ "self") ∧
    ∃ codes stubs : List String,
      List.Forall₂ (fun c code => ∃ decorators, Declares c decorators ∧
        PassesParameters c decorators code) t.walk codes ∧
      List.Forall₂ (fun c => TakesParameters c
        ((Hook.Resolver.make .snake options.hookThreshold).settledName t c)
        (!t.globalOptions.isEmpty)) t.walk stubs ∧
      (∃ a ∈ files, a.kind = .entryPoint ∧
        ∃ before after, a.content = before ++ String.join codes ++ after) ∧
      ∃ a ∈ files, a.kind = .hookStub ∧
        ∃ before after, a.content = before ++ String.join stubs ++ after := by
  refine ⟨fun c hc => usable_identifiers hbuild hc, ?_⟩
  have hmem : Blueprint.python ∈ Blueprint.builtin := List.mem_cons_self
  have hrender : Blueprint.python.target.render t options = .ok files := by
    rw [← Blueprint.render_registry hmem]
    exact h
  obtain ⟨scene, own, hscene, -, -, hown, ⟨program, hprogram, hcodes⟩, hooks, hhooks,
    hstubs⟩ := Blueprint.python_sound.render_ok hbuild hrender
  have hscenery : scene.tree = t ∧ scene.engine = python.engine := by
    obtain ⟨bindings, -, rfl⟩ := scene_eq_ok.1 hscene
    exact ⟨rfl, rfl⟩
  have hagree := ((List.forall₂_and_left t.walk own).2 ⟨fun c hc => hc, hown⟩).imp
    fun c f hf => agrees_of_code hbuild hf.1 hscenery.1 hscenery.2 hf.2.2
  refine ⟨own.map (·.code "commands"), own.map (·.code "stubs"), ?_, ?_,
    ⟨program, hprogram, hcodes.kind_eq, hcodes.content_eq⟩,
    hooks, hhooks, hstubs.kind_eq, hstubs.content_eq⟩
  · rw [List.forall₂_map_right_iff]
    exact hagree.imp fun c f hf => hf.1
  · rw [List.forall₂_map_right_iff]
    exact hagree.imp fun c f hf => hf.2

/-- A keyword and a name that begins with a digit, for the parameters of a managed command. -/
theorem parameters_agree_digits : ∃ t files codes, CommandTree.build 16 Blueprint.digits = .ok t ∧
    t.walk.map identifiers = [["class_", "_3d"], []] ∧
    Registry.builtin.render t ⟨3, 16⟩ "python" = .ok files ∧
    (∀ c ∈ t.walk, (identifiers c).Nodup) ∧
    List.Forall₂ (fun c code => ∃ decorators, Declares c decorators ∧
      PassesParameters c decorators code) t.walk codes ∧
    ∃ a ∈ files, a.kind = .entryPoint ∧
      ∃ before after, a.content = before ++ String.join codes ++ after := by
  have hbuilt : (CommandTree.build 16 Blueprint.digits).toOption.any (fun t =>
      t.walk.map identifiers = [["class_", "_3d"], []] ∧ t.maxDepth ≤ 16 ∧
      (Hook.Index.build t (.make .snake 3)).toBool = true) = true := by
    decide +kernel
  simp only [Option.any_eq_true, Outcome.toOption_eq_some, decide_eq_true_eq] at hbuilt
  obtain ⟨t, hbuild, hidentifiers, hfits, hindex⟩ := hbuilt
  have hmem : Blueprint.python ∈ Blueprint.builtin := List.mem_cons_self
  have hrender : ∃ files, Registry.builtin.render t ⟨3, 16⟩ "python" = .ok files :=
    Blueprint.exists_render hmem hbuild hindex hfits
  obtain ⟨files, hfiles⟩ := hrender
  obtain ⟨husable, codes, stubs, hcodes, -, hprogram, -⟩ := parameters_agree hbuild hfiles
  exact ⟨t, files, codes, hbuild, hidentifiers, hfiles, fun c hc => (husable c hc).1, hcodes,
    hprogram⟩

end Target.Python

end CliGen
